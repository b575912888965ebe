import SharedAudio.Sample
import SharedAudio.Config.Stream

namespace SharedAudio

inductive HardwareError
  | disconnected
  | unsupported (reason : String)
  | timeout
  | device (reason : String)
deriving DecidableEq, Repr

def HardwareError.message : HardwareError → String
  | .disconnected => "hardware stream disconnected"
  | .unsupported reason => s!"unsupported configuration: {reason}"
  | .timeout => "hardware operation timed out"
  | .device reason => s!"device error: {reason}"

def channelMask (channels : UInt64) : UInt32 :=
  if 32 ≤ channels then 0xffffffff else (1 <<< channels.toUInt32) - 1

def maskCount (mask : UInt32) : UInt64 :=
  UInt64.ofNat ((List.range 32).countP mask.toNat.testBit)

structure HardwareParams where
  sampleRate : UInt32
  burst : UInt64
  mask : UInt32
deriving DecidableEq, Repr

def HardwareParams.channels (p : HardwareParams) : UInt64 := maskCount p.mask

inductive Answer
  | accepted (frames : UInt64)
  | refused (error : HardwareError)
  | panicked
deriving DecidableEq, Repr

inductive Call
  | opened
  | buffer (frames : UInt64)
  | wrote (samples : Array Sample) (frames timeout : UInt64) (answer : Answer)
  | closed

example : channelMask 0 = 0 := by decide

example : channelMask 31 = 0x7fffffff := by decide

example : maskCount 0xffffffff = 32 := by decide

end SharedAudio

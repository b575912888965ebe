import SharedAudio.Sample
import SharedAudio.Text.Blank
import SharedAudio.Text.Digits
import SharedAudio.Word

namespace SharedAudio

inductive Priority
  | normal
  | realtime (level : Int)
deriving DecidableEq, Repr

def Priority.granted (privileged : Bool) : Priority → Bool
  | .normal => true
  | .realtime _ => privileged

inductive Limiter
  | off
  | hardClip
deriving DecidableEq, Repr

def Limiter.apply : Limiter → Array Sample → Array Sample
  | .off, block => block
  | .hardClip, block => block.map Sample.clip

@[simp] theorem Limiter.size_apply (l : Limiter) (block : Array Sample) :
    (l.apply block).size = block.size := by cases l <;> simp [apply]

structure Options where
  burstsPerBuffer : UInt64 := 2
  maxChannels : UInt64 := 32
  timeoutBursts : UInt32 := 4
  minWriteTimeout : UInt64 := 1000000000
  priority : Priority := .realtime 80
  limiter : Limiter := .off
  capacityBursts : UInt64 := 8
  rampBursts : UInt32 := 2
deriving DecidableEq, Repr

namespace Options

def burstsVariable : String := "ENDPOINT_MIXER_BURSTS"

def burstsOfText (text : String) : Option UInt64 :=
  match readCount (trimBlanks text.toList) with
  | some bursts => if bursts = 0 then none else some bursts
  | none => none

def ofSetting (setting : Option ByteArray) : Options :=
  match (setting.bind String.fromUTF8?).bind burstsOfText with
  | some bursts => { burstsPerBuffer := bursts }
  | none => {}

def duration? (frames : UInt64) (sampleRate : UInt32) : Option UInt64 :=
  (Word.mul? frames 1000000000).map (· / sampleRate.toUInt64)

def mulSaturating (a b : UInt64) : UInt64 :=
  if a.toNat * b.toNat < UInt64.size then a * b else UInt64.ofNat (UInt64.size - 1)

def writeTimeout? (o : Options) (burst : UInt64) (sampleRate : UInt32) : Option UInt64 :=
  if sampleRate = 0 then some o.minWriteTimeout
  else
    (duration? burst sampleRate).map fun time =>
      let scaled := mulSaturating time o.timeoutBursts.toUInt64
      if scaled < o.minWriteTimeout then o.minWriteTimeout else scaled

theorem toNat_mulSaturating (a b : UInt64) :
    (mulSaturating a b).toNat = min (a.toNat * b.toNat) (UInt64.size - 1) := by
  unfold mulSaturating UInt64.size
  split
  · rw [UInt64.toNat_mul]
    omega
  · rw [UInt64.toNat_ofNat']
    omega

end Options

end SharedAudio

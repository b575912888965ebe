import SharedAudio.Channel.State
import SharedAudio.Hardware.Stream

namespace SharedAudio

inductive EndpointError
  | configurationUnsupported (reason : String)
  | alreadyOpen
  | notOpen
  | capacityExceeded (limit : UInt64)
  | channelMismatch (expected actual : UInt64)
  | unknownStream (id : StreamId)
  | disconnected
  | streamFault (reason : String)
  | hardware (error : HardwareError)
  | spawn (reason : String)
deriving DecidableEq, Repr

def EndpointError.message : EndpointError → String
  | .configurationUnsupported reason => s!"configuration unsupported: {reason}"
  | .alreadyOpen => "endpoint already open"
  | .notOpen => "endpoint not open"
  | .capacityExceeded limit => s!"endpoint already serves the maximum of {limit} streams"
  | .channelMismatch expected actual => s!"stream has {actual} channels, endpoint mixes {expected}"
  | .unknownStream id => s!"unknown stream {id.text}"
  | .disconnected => "hardware stream disconnected"
  | .streamFault reason => s!"stream fault: {reason}"
  | .hardware error => error.message
  | .spawn reason => s!"failed to spawn mixing thread: {reason}"

def EndpointError.ofOpening : HardwareError → EndpointError
  | .unsupported reason => .configurationUnsupported reason
  | error => .hardware error

def EndpointError.streamLost : EndpointError := .hardware (.device "hardware stream lost")

inductive LoopExit
  | stopped
  | disconnected
  | shortWrite (written requested : UInt64)
  | writeFailed (reason : String)
deriving DecidableEq, Repr

def LoopExit.message : LoopExit → String
  | .stopped => "stopped"
  | .disconnected => "disconnected"
  | .shortWrite written requested => s!"short write {written}/{requested} frames"
  | .writeFailed reason => s!"write failed: {reason}"

end SharedAudio

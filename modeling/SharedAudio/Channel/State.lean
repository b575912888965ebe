namespace SharedAudio

structure StreamId where
  number : UInt32
deriving DecidableEq, Repr

def StreamId.text (id : StreamId) : String := s!"stream#{id.number}"

inductive ChannelState
  | stopped
  | running
  | disconnected
  | faulted
deriving DecidableEq, Repr

namespace ChannelState

def isTerminal : ChannelState → Bool
  | .disconnected | .faulted => true
  | .stopped | .running => false

def name : ChannelState → String
  | .stopped => "Stopped"
  | .running => "Running"
  | .disconnected => "Disconnected"
  | .faulted => "Faulted"

end ChannelState

inductive StreamEvent
  | started
  | stopped
  | disconnected
  | faulted (reason : String)
deriving DecidableEq, Repr

namespace StreamEvent

def entered : StreamEvent → ChannelState
  | .started => .running
  | .stopped => .stopped
  | .disconnected => .disconnected
  | .faulted _ => .faulted

def possibleIn (s : ChannelState) : StreamEvent → Bool
  | .started => s == .stopped
  | .stopped => s == .running
  | .disconnected | .faulted _ => !s.isTerminal

theorem not_possibleIn_of_isTerminal {s : ChannelState} (h : s.isTerminal = true)
    (e : StreamEvent) : e.possibleIn s = false := by
  cases s <;> cases e <;> simp_all [possibleIn, ChannelState.isTerminal]

theorem entered_ne_of_possibleIn {s : ChannelState} {e : StreamEvent}
    (h : e.possibleIn s = true) : e.entered ≠ s := by
  cases s <;> cases e <;> simp_all [possibleIn, entered, ChannelState.isTerminal]

end StreamEvent

end SharedAudio

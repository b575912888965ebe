import SharedAudio.Proofs.Endpoint.Effects

namespace SharedAudio

structure Write where
  samples : Array Sample
  frames : UInt64
  timeout : UInt64
  answer : Answer

def Write.delivers (w : Write) : Bool := w.answer == .accepted w.frames

namespace Call

def write? : Call → Option Write
  | .wrote samples frames timeout answer => some ⟨samples, frames, timeout, answer⟩
  | .opened | .buffer _ | .closed => none

def delivers (call : Call) : Bool := call.write?.any Write.delivers

def sizes : Call → Bool
  | .buffer _ => true
  | .opened | .wrote .. | .closed => false

end Call

namespace Device

variable {d f : Device}

def writes (d : Device) : List Write := d.calls.toList.filterMap Call.write?

theorem writes_of_push {call : Call} (h : f.calls = d.calls.push call) :
    f.writes = d.writes ++ call.write?.toList := by
  rw [writes, h, Array.toList_push, List.filterMap_append, writes]
  cases call <;> rfl

theorem writes_congr (h : f.calls = d.calls) : f.writes = d.writes := by rw [writes, h, writes]

def recent (d : Device) : List Write :=
  (d.calls.toList.reverse.takeWhile fun call => !call.sizes).filterMap Call.write?

theorem recent_of_push {call : Call} (h : f.calls = d.calls.push call) :
    f.recent = if call.sizes then [] else call.write?.toList ++ d.recent := by
  rw [recent, h, Array.toList_push, List.reverse_append, List.reverse_singleton,
    List.singleton_append, recent]
  cases call <;> rfl

theorem recent_congr (h : f.calls = d.calls) : f.recent = d.recent := by rw [recent, h, recent]

end Device

inductive Fails (burst : UInt64) : Answer → LoopExit → Prop
  | disconnected : Fails burst (.refused .disconnected) .disconnected
  | short (frames : UInt64) (differs : frames ≠ burst) :
      Fails burst (.accepted frames) (.shortWrite frames burst)
  | refused (error : HardwareError) (other : error ≠ .disconnected) :
      Fails burst (.refused error) (.writeFailed error.message)

theorem Fails.ofAnswer {burst : UInt64} {answer : Answer} {exit : LoopExit}
    (h : Fails burst answer exit) : Delivery.ofAnswer burst answer = .failed exit := by
  cases h with
  | disconnected => rfl
  | short frames differs => rw [Delivery.ofAnswer, if_neg differs]
  | refused error other =>
    cases error with
    | disconnected => exact absurd rfl other
    | unsupported | timeout | device => rfl

namespace LoopExit

def health : LoopExit → Health
  | .stopped => .healthy
  | .disconnected => .disconnected
  | .shortWrite .. | .writeFailed _ => .faulted

def event : LoopExit → StreamEvent
  | .disconnected => .disconnected
  | exit => .faulted exit.message

def error : LoopExit → EndpointError
  | .disconnected => .disconnected
  | exit => .streamFault exit.message

theorem isTerminal_event (exit : LoopExit) : exit.event.entered.isTerminal = true := by
  cases exit <;> rfl

theorem possibleIn_event (exit : LoopExit) (s : ChannelState) :
    exit.event.possibleIn s = !s.isTerminal := by
  cases exit <;> rfl

end LoopExit

theorem Fails.ill {burst : UInt64} {answer : Answer} {exit : LoopExit}
    (h : Fails burst answer exit) : exit.health ≠ .healthy := by
  cases h <;> simp [LoopExit.health]

end SharedAudio

import Mathlib.Algebra.Group.Nat.Defs
import SharedAudio.Config.Options
import SharedAudio.Proofs.Hardware.Writes

namespace SharedAudio

def Write.call (w : Write) : Call := .wrote w.samples w.frames w.timeout w.answer

structure HardwareParams.Suits (p : HardwareParams) (config : StreamConfig) : Prop where
  burst : p.burst ≠ 0
  sampleRate : p.sampleRate = config.sampleRate
  channels : p.channels = config.channels

structure Write.Lawful (w : Write) (config : StreamConfig) (options : Options)
    (params : HardwareParams) : Prop where
  frames : w.frames = params.burst
  timeout : options.writeTimeout? params.burst params.sampleRate = some w.timeout
  size : w.samples.size = config.channels.toNat * params.burst.toNat

inductive Visit
  | refused (error : HardwareError)
  | rejected (params : HardwareParams)
  | served (params : HardwareParams) (buffer : UInt64) (writes : List Write) (left : Bool)

namespace Visit

def calls : Visit → List Call
  | .refused _ => [.opened]
  | .rejected _ => [.opened, .closed]
  | .served _ buffer writes left =>
    .opened :: .buffer buffer :: writes.map Write.call ++ if left then [.closed] else []

def answer : Visit → Except HardwareError HardwareParams
  | .refused error => .error error
  | .rejected params => .ok params
  | .served params .. => .ok params

def Over : Visit → Prop
  | .refused _ | .rejected _ => True
  | .served _ _ _ left => left = true

def Lawful (config : StreamConfig) (options : Options) : Visit → Prop
  | .refused _ => True
  | .rejected params => ¬ params.Suits config
  | .served params _ writes left => params.Suits config ∧
    (∀ w ∈ writes, w.Lawful config options params) ∧
    (∀ w ∈ writes.dropLast, w.answer = .accepted params.burst) ∧
    (left = true → ∀ w ∈ writes, w.answer ≠ .panicked)

end Visit

def Call.opens : Call → Bool
  | .opened => true
  | .buffer _ | .wrote .. | .closed => false

def Device.openings (d : Device) : Nat := d.calls.toList.countP Call.opens

theorem countP_opens_calls (v : Visit) : v.calls.countP Call.opens = 1 := by
  cases v with
  | refused error | rejected params => rfl
  | served params buffer writes left =>
    have none : (writes.map Write.call).countP Call.opens = 0 := by
      rw [List.countP_eq_zero]
      intro call member
      obtain ⟨w, -, rfl⟩ := List.mem_map.mp member
      simp [Write.call, Call.opens]
    cases left <;> simp [Visit.calls, List.countP_cons, List.countP_append, none, Call.opens]

theorem openings_of_visits {d : Device} {visits : List Visit}
    (calls : d.calls.toList = visits.flatMap Visit.calls) : d.openings = visits.length := by
  rw [Device.openings, calls]
  clear calls
  induction visits with
  | nil => rfl
  | cons v visits ih =>
    rw [List.flatMap_cons, List.countP_append, ih, countP_opens_calls, List.length_cons]
    exact Nat.add_comm 1 _

theorem Device.fst_start_note (d : Device) (call : Call) (config : StreamConfig) :
    ((d.note call).start config).1 = (d.start config).1 := by
  simp only [Device.start, Device.params, Device.note]
  split <;> rfl

theorem Visit.length_calls (params : HardwareParams) (buffer : UInt64) (writes : List Write)
    (left : Bool) : (Visit.served params buffer writes left).calls.length =
      writes.length + if left then 3 else 2 := by
  cases left <;> simp [Visit.calls]

theorem Visit.filterMap_calls (params : HardwareParams) (buffer : UInt64) (writes : List Write)
    (left : Bool) :
    (Visit.served params buffer writes left).calls.filterMap Call.write? = writes := by
  have all : (writes.map Write.call).filterMap Call.write? = writes := by
    rw [List.filterMap_map]
    exact List.filterMap_some
  cases left <;> simp [Visit.calls, List.filterMap_cons, List.filterMap_append, Call.write?, all]

end SharedAudio

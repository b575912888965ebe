import SharedAudio.Proofs.Ring.Bounds
import SharedAudio.Proofs.Server.Rings

namespace SharedAudio

variable {P : Sample → Prop}

theorem mem_overlay {cells : Array Sample} {start : Nat} {block : List Sample} {x : Sample}
    (h : x ∈ overlay cells start block) : x ∈ cells ∨ x ∈ block := by
  induction block generalizing cells start with
  | nil => exact .inl h
  | cons y block ih =>
    rcases ih h with old | new
    · rcases Array.mem_or_eq_of_mem_setIfInBounds old with kept | rfl
      · exact .inl kept
      · exact .inr List.mem_cons_self
    · exact .inr (List.mem_cons_of_mem y new)

namespace Ring

def Only (P : Sample → Prop) (r : Ring) : Prop := ∀ x ∈ r.memory.cells, P x

variable {r : Ring}

theorem Only.of_cells {other : Ring} (h : r.Only P) (same : other.memory.cells = r.memory.cells) :
    other.Only P := by
  rw [Only, same]
  exact h

theorem only_heap (zero : P 0) (capacity channels : UInt64) : (heap capacity channels).Only P := by
  intro x member
  rw [Array.eq_of_mem_replicate member]
  exact zero

theorem Only.push (h : r.Only P) {samples : Array Sample} (given : ∀ x ∈ samples, P x)
    (stamp : Stamp) : (r.push samples stamp).2.Only P := by
  rw [Ring.push, Attachment.push]
  dsimp only
  split
  · exact h
  · intro x member
    have part {i j : Nat} (inside : x ∈ (samples.extract i j).toList) : P x := by
      rw [Array.toList_extract] at inside
      exact given x (Array.mem_toList_iff.mp (List.mem_of_mem_drop (List.mem_of_mem_take inside)))
    simp only [Memory.cells_setStamp, Memory.cells_setCounters, Memory.cells_setCells] at member
    rcases mem_overlay member with first | tail
    · rcases mem_overlay first with old | head
      · exact h x old
      · exact part head
    · exact part tail

theorem cells_pop (r : Ring) (block : Array Sample) :
    (r.pop block).2.2.memory.cells = r.memory.cells :=
  r.attachment.cells_pop r.memory block

end Ring

theorem Mixer.cells_add? {m : Mixer} {r : Ring} {volume : Sample} {share : Share}
    (h : m.add? r volume = some share) : share.ring.memory.cells = r.memory.cells := by
  simp only [add?] at h
  split at h <;> cases h
  exact Memory.cells_setCounters _ _

namespace Channel

variable {c : Channel}

theorem cells_retarget? {value : Int} {other : Channel} (h : c.retarget? value = some other) :
    other.ring.memory.cells = c.ring.memory.cells := by
  obtain ⟨ring, moved, rfl⟩ := Option.map_eq_some_iff.mp h
  obtain ⟨attachment, -, rfl⟩ := Option.map_eq_some_iff.mp moved
  rfl

end Channel

theorem Ring.mixable_only (zero : P 0) : Ring.Mixable (Ring.Only P) where
  heap := only_heap zero
  share added only := only.of_cells (Mixer.cells_add? added)

def Operation.Brings (P : Sample → Prop) : Operation → Prop
  | .write _ samples => ∀ x ∈ samples, P x
  | .addChannel _ ring => ring.Only P
  | _ => True

theorem Operation.brings_of_mem_units {op unit : Operation} (brings : op.Brings P)
    (h : unit ∈ op.units) : unit.Brings P := by
  cases op with
  | grant k n =>
    rw [(List.mem_replicate.mp h).2]
    trivial
  | _ => rw [List.mem_singleton.mp h]; exact brings

theorem Channel.Deed.only {op : Operation} {key : Nat} {act : Channel → Channel}
    (h : Channel.Deed op key act) (brings : op.Brings P) {c : Channel} (only : c.ring.Only P) :
    (act c).ring.Only P := by
  cases h with
  | write => exact only.push brings .clock
  | pop key block => exact only.of_cells (c.ring.cells_pop block)
  | retarget key threshold =>
    dsimp only
    cases moved : c.retarget? threshold with
    | none => exact only
    | some other => exact only.of_cells (cells_retarget? moved)
  | setGain | drainEvents => exact only
  | disconnect | fault => exact only.of_cells (congrArg (·.memory.cells) (c.ring_enter _))

theorem Operation.Brings.upholds {op : Operation} (h : op.Brings P) :
    op.Upholds (Ring.Only P) := by
  refine ⟨fun id ring added => ?_, fun key act deed c only => deed.only h only⟩
  subst added
  exact h

namespace Server

def Only (P : Sample → Prop) (s : Server) : Prop :=
  ∀ (key : Nat) (c : Channel), s.channels[key]? = some c → c.ring.Only P

theorem only_run (zero : P 0) (options : Options) {ops : List Operation}
    (brings : ∀ op ∈ ops, op.Brings P) : (run { options } ops).Only P :=
  Rings.run (Ring.mixable_only zero) options fun op member => (brings op member).upholds

end Server

end SharedAudio

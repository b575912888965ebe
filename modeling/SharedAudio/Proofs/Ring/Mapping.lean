import Mathlib.Algebra.Group.Nat.Defs
import SharedAudio.Ring.Basic

namespace SharedAudio

namespace Header

def extent (h : Header) : Nat := size.toNat + 4 * h.sampleCount

variable {h : Header}

theorem toNat_of_needed? {bytes : UInt64} (counted : h.needed? = some bytes) :
    bytes.toNat = h.extent := by
  simpa [extent, sampleCount] using toNat_of_extent? counted

theorem needed?_eq_none : h.needed? = none ↔ UInt64.size ≤ h.extent := by
  have small : 4 * h.capacity.toUInt64.toNat < UInt64.size := by
    have bound := h.capacity.toNat_lt
    rw [UInt32.toNat_toUInt64, UInt64.size]
    omega
  rw [needed?, extent?_eq_none (.inr small), UInt32.toNat_toUInt64, UInt32.toNat_toUInt64]
  rfl

end Header

namespace Mapping

def Holds (m : Mapping) (s : Stretch) : Prop := Header.size.toNat + 4 * s.stop ≤ m.bytes.toNat

def Credible (m : Mapping) : Prop :=
  Header.size.toNat ≤ m.bytes.toNat ∧ 1 ≤ m.header.channels.toNat ∧
    m.header.extent ≤ m.bytes.toNat

def Uncountable (m : Mapping) : Prop :=
  Header.size.toNat ≤ m.bytes.toNat ∧ UInt64.size ≤ m.header.extent

structure Follows (a : Attachment) (h : Header) : Prop where
  window : a.window = .full h.capacity.toUInt64
  channels : a.channels = h.channels.toNat

def refusal (m : Mapping) : AttachError :=
  if m.bytes < Header.size then .noHeader
  else .tooSmall m.bytes m.header.capacity m.header.channels

theorem Follows.extent {a : Attachment} {h : Header} (follows : Follows a h) :
    a.capacity * a.channels = h.sampleCount := by
  rw [Attachment.capacity, follows.window, follows.channels]
  simp [Window.full, Header.sampleCount]

variable {m : Mapping} {a : Attachment}

theorem Credible.countable (credible : m.Credible) : ¬ m.Uncountable := by
  rintro ⟨-, large⟩
  have bound := m.bytes.toNat_lt
  have room := credible.2.2
  rw [UInt64.size] at large
  omega

theorem attach?_of_uncountable (uncountable : m.Uncountable) : m.attach? = none := by
  have long : ¬ m.bytes < Header.size := by
    rw [UInt64.lt_iff_toNat_lt]
    exact Nat.not_lt_of_le uncountable.1
  rw [attach?, if_neg long, Header.needed?_eq_none.mpr uncountable.2, Option.map_none]

theorem attach?_of_credible (credible : m.Credible) :
    ∃ a, m.attach? = some (.ok a) ∧ Follows a m.header := by
  obtain ⟨header, channels, room⟩ := id credible
  have long : ¬ m.bytes < Header.size := by
    rw [UInt64.lt_iff_toNat_lt]
    omega
  cases counted : m.header.needed? with
  | none => exact absurd ⟨header, Header.needed?_eq_none.mp counted⟩ credible.countable
  | some needed =>
    have exact := Header.toNat_of_needed? counted
    have fits : ¬ (m.header.channels = 0 ∨ m.bytes < needed) := by
      rintro (none | short)
      · simp [none] at channels
      · rw [UInt64.lt_iff_toNat_lt] at short
        omega
    exact ⟨_, by rw [attach?, if_neg long, counted, Option.map_some, dif_neg fits], ⟨rfl, rfl⟩⟩

theorem attach?_of_incredible (countable : ¬ m.Uncountable) (incredible : ¬ m.Credible) :
    m.attach? = some (.error m.refusal) := by
  unfold attach? refusal
  split
  next short => rfl
  next long =>
    have header : Header.size.toNat ≤ m.bytes.toNat := by
      rw [UInt64.lt_iff_toNat_lt] at long
      omega
    cases counted : m.header.needed? with
    | none => exact absurd ⟨header, Header.needed?_eq_none.mp counted⟩ countable
    | some needed =>
      have exact := Header.toNat_of_needed? counted
      have refused : m.header.channels = 0 ∨ m.bytes < needed := by
        rw [UInt64.lt_iff_toNat_lt, exact, ← UInt32.toNat_inj, UInt32.toNat_zero]
        simp only [Credible] at incredible
        omega
      rw [Option.map_some, dif_pos refused]

theorem follows_of_attach? (attached : m.attach? = some (.ok a)) :
    m.Credible ∧ Follows a m.header := by
  by_cases credible : m.Credible
  · obtain ⟨b, same, follows⟩ := attach?_of_credible credible
    rw [attached] at same
    cases same
    exact ⟨credible, follows⟩
  by_cases uncountable : m.Uncountable
  · rw [attach?_of_uncountable uncountable] at attached
    cases attached
  · rw [attach?_of_incredible uncountable credible] at attached
    cases attached

theorem cells_zeroed {bytes : UInt64} {header : Header}
    (attached : (zeroed bytes header).attach? = some (.ok a)) :
    (zeroed bytes header).cells = Array.replicate (a.capacity * a.channels) 0 := by
  obtain ⟨⟨-, -, room⟩, follows⟩ := follows_of_attach? attached
  have present : header.extent ≤ bytes.toNat := room
  rw [follows.extent]
  simp only [zeroed, Header.extent] at present ⊢
  congr 1
  omega

theorem Credible.holds (credible : m.Credible) (follows : Follows a m.header) (start frames : Nat) :
    m.Holds (a.stretches start frames).1 ∧ m.Holds (a.stretches start frames).2 := by
  have within := a.stretches_stop_le start frames
  have room := credible.2.2
  rw [Header.extent, ← follows.extent] at room
  unfold Holds
  constructor <;> omega

theorem attach_is_exact_unless_uncountable (m : Mapping) :
    (m.attach? = none ↔ m.Uncountable) ∧
    ((∃ a, m.attach? = some (.ok a)) ↔ m.Credible) ∧
    (∀ a, m.attach? = some (.ok a) → Follows a m.header ∧ ∀ start frames,
      m.Holds (a.stretches start frames).1 ∧ m.Holds (a.stretches start frames).2) ∧
    ∀ error, m.attach? = some (.error error) ↔
      ¬ m.Uncountable ∧ ¬ m.Credible ∧ error = m.refusal := by
  by_cases uncountable : m.Uncountable
  · have panics := attach?_of_uncountable uncountable
    have incredible : ¬ m.Credible := fun credible => credible.countable uncountable
    simp [panics, uncountable, incredible]
  by_cases credible : m.Credible
  · obtain ⟨a, attached, follows⟩ := attach?_of_credible credible
    simp [attached, uncountable, credible, follows, credible.holds follows]
  · have refused := attach?_of_incredible uncountable credible
    simp [refused, uncountable, credible, eq_comm]

theorem attach_is_exact_at_four_frames :
    (∃ a, attach? ⟨96, { capacity := 4, channels := 2 }, Array.replicate 8 0⟩ = some (.ok a)) ∧
    attach? ⟨95, { capacity := 4, channels := 2 }, Array.replicate 7 0⟩ =
      some (.error (.tooSmall 95 4 2)) := by
  constructor
  · exact (attach_is_exact_unless_uncountable _).2.1.mpr (by unfold Credible; decide)
  · exact ((attach_is_exact_unless_uncountable _).2.2.2 _).mpr
      ⟨by unfold Uncountable; decide, by unfold Credible; decide, rfl⟩

def hollow : Mapping := ⟨64, { capacity := 2147483648, channels := 2147483648 }, #[]⟩

theorem hollow_is_not_refused : ¬ hollow.Credible ∧ hollow.attach? = none := by
  constructor
  · unfold Credible
    decide
  · exact attach?_of_uncountable (by unfold Uncountable; decide)

end Mapping

theorem Ring.exists_attachment {capacity channels : UInt64} {r : Ring}
    (made : shared? capacity channels = some (.ok r)) :
    ∃ bytes a, Mapping.attach? (.zeroed bytes
        { capacity := capacity.toUInt32, channels := (atLeastOne channels).toUInt32 }) =
          some (.ok a) ∧
      r = ⟨a, .mapped (.zeroed bytes
        { capacity := capacity.toUInt32, channels := (atLeastOne channels).toUInt32 })⟩ := by
  obtain ⟨mapping, mapped, attaching⟩ := Option.bind_eq_some_iff.mp made
  obtain ⟨attached, attaches, eq⟩ := Option.bind_eq_some_iff.mp attaching
  obtain ⟨bytes, -, rfl⟩ := Option.map_eq_some_iff.mp mapped
  cases attached with
  | error error => cases eq
  | ok a =>
    cases eq
    exact ⟨bytes, a, attaches, rfl⟩

end SharedAudio

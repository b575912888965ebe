import SharedAudio.Proofs.Ring.Mapping

namespace SharedAudio.Ring

theorem toNat_atLeastOne (channels : UInt64) :
    (atLeastOne channels).toNat = max channels.toNat 1 := by
  have pos := atLeastOne_pos channels
  unfold atLeastOne at pos ⊢
  split
  next zero => simp [zero]
  next some =>
    rw [if_neg some] at pos
    exact (Nat.max_eq_left pos).symm

structure Fresh (r : Ring) (frames width samples : Nat) : Prop where
  capacity : r.capacity.toNat = frames
  threshold : r.threshold.toNat = frames
  channels : r.channels = width
  counters : r.counters = {}
  stamp : r.stamp = .given 0
  cells : r.memory.cells = Array.replicate samples 0

structure Request where
  capacity : UInt64
  channels : UInt64

namespace Request

def width (q : Request) : Nat := max q.channels.toNat 1

def samples (q : Request) : Nat := q.capacity.toNat * q.width

def bytes (q : Request) : Nat := Header.size.toNat + 4 * q.samples

def Granted (q : Request) (r : Ring) : Prop := r.Fresh q.capacity.toNat q.width q.samples

def Fits (q : Request) : Prop :=
  q.capacity.toNat < 2 ^ 32 ∧ q.width < 2 ^ 32 ∧ q.bytes < UInt64.size

def header (q : Request) : Header where
  capacity := q.capacity.toUInt32
  channels := (atLeastOne q.channels).toUInt32

variable (q : Request)

theorem granted_of_heap? {r : Ring} (made : heap? q.capacity q.channels = some r) :
    q.Granted r := by
  obtain ⟨-, rfl⟩ := heap?_eq_some.mp made
  refine ⟨rfl, rfl, toNat_atLeastOne q.channels, rfl, rfl, ?_⟩
  rw [samples, width, ← toNat_atLeastOne]
  rfl

theorem heap?_eq_none_iff :
    heap? q.capacity q.channels = none ↔ Word.maxBytes < 4 * q.samples := by
  rw [heap?_eq_none, samples, width, toNat_atLeastOne]

theorem bytes_eq : q.bytes =
    Header.size.toNat + 4 * (q.capacity.toNat * (atLeastOne q.channels).toNat) := by
  rw [bytes, samples, width, toNat_atLeastOne]

theorem anonymous?_eq_none_iff :
    Mapping.anonymous? q.capacity (atLeastOne q.channels) = none ↔ UInt64.size ≤ q.bytes := by
  have some : atLeastOne q.channels ≠ 0 := by
    intro zero
    have pos := atLeastOne_pos q.channels
    rw [zero] at pos
    exact absurd pos (by decide)
  rw [Mapping.anonymous?, Option.map_eq_none_iff, Header.extent?_eq_none (.inl some), bytes_eq]

theorem toNat_channels_header : q.header.channels.toNat = q.width % 2 ^ 32 := by
  rw [width, ← toNat_atLeastOne]
  exact UInt64.toNat_toUInt32 _

theorem sampleCount_header :
    q.header.sampleCount = q.capacity.toNat % 2 ^ 32 * (q.width % 2 ^ 32) := by
  rw [Header.sampleCount, toNat_channels_header]
  exact congrArg (· * _) (UInt64.toNat_toUInt32 _)

theorem sampleCount_header_le : q.header.sampleCount ≤ q.samples := by
  rw [sampleCount_header]
  exact Nat.mul_le_mul (Nat.mod_le _ _) (Nat.mod_le _ _)

theorem credible_iff {bytes : UInt64} (length : bytes.toNat = q.bytes) :
    (Mapping.zeroed bytes q.header).Credible ↔ q.width % 2 ^ 32 ≠ 0 := by
  have room := q.sampleCount_header_le
  have long : (Mapping.zeroed bytes q.header).bytes.toNat = q.bytes := length
  have spoken : (Mapping.zeroed bytes q.header).header = q.header := rfl
  rw [Mapping.Credible, long, spoken, toNat_channels_header, Header.extent, Request.bytes]
  omega

theorem cells_zeroed {bytes : UInt64} (length : bytes.toNat = q.bytes) :
    (Mapping.zeroed bytes q.header).cells =
      Array.replicate (q.capacity.toNat % 2 ^ 32 * (q.width % 2 ^ 32)) 0 := by
  have room := q.sampleCount_header_le
  have present : (q.bytes - Header.size.toNat) / 4 = q.samples := by
    rw [Request.bytes]
    omega
  rw [← sampleCount_header]
  change Array.replicate (min _ ((bytes.toNat - Header.size.toNat) / 4)) 0 = _
  rw [length, present, Nat.min_eq_left room]

theorem shared?_cases :
    UInt64.size ≤ q.bytes ∧ shared? q.capacity q.channels = none ∨
    q.bytes < UInt64.size ∧ q.width % 2 ^ 32 = 0 ∧
      (∃ error, shared? q.capacity q.channels = some (.error error)) ∨
    q.bytes < UInt64.size ∧ q.width % 2 ^ 32 ≠ 0 ∧
      ∃ r, shared? q.capacity q.channels = some (.ok r) ∧
        r.Fresh (q.capacity.toNat % 2 ^ 32) (q.width % 2 ^ 32)
          (q.capacity.toNat % 2 ^ 32 * (q.width % 2 ^ 32)) := by
  cases mapped : Mapping.anonymous? q.capacity (atLeastOne q.channels) with
  | none =>
    refine .inl ⟨q.anonymous?_eq_none_iff.mp mapped, ?_⟩
    rw [shared?, mapped]
    rfl
  | some mapping =>
    have counted : q.bytes < UInt64.size := Nat.lt_of_not_le fun large => by
      rw [q.anonymous?_eq_none_iff.mpr large] at mapped
      cases mapped
    obtain ⟨bytes, extent, rfl⟩ := Option.map_eq_some_iff.mp mapped
    have length : bytes.toNat = q.bytes := (Header.toNat_of_extent? extent).trans q.bytes_eq.symm
    have attaching (answer : Except AttachError Attachment)
        (attached : (Mapping.zeroed bytes q.header).attach? = some answer) :
        shared? q.capacity q.channels =
          some (answer.map (⟨·, .mapped (Mapping.zeroed bytes q.header)⟩)) := by
      rw [shared?, mapped]
      change ((Mapping.zeroed bytes q.header).attach?).bind _ = _
      rw [attached]
      rfl
    by_cases credible : (Mapping.zeroed bytes q.header).Credible
    · obtain ⟨a, attached, follows⟩ := Mapping.attach?_of_credible credible
      refine .inr (.inr ⟨counted, (q.credible_iff length).mp credible, _, attaching _ attached, ?_⟩)
      have height : a.window.capacity.toNat = q.capacity.toNat % 2 ^ 32 := by
        rw [follows.window]
        exact (UInt32.toNat_toUInt64 _).trans (UInt64.toNat_toUInt32 _)
      refine ⟨height, ?_, ?_, rfl, rfl, q.cells_zeroed length⟩
      · rw [← height, Ring.threshold, follows.window]
        rfl
      · exact follows.channels.trans q.toNat_channels_header
    · have small : ¬ (Mapping.zeroed bytes q.header).Uncountable := by
        rintro ⟨-, large⟩
        have spoken : (Mapping.zeroed bytes q.header).header = q.header := rfl
        have room := q.sampleCount_header_le
        rw [spoken, Header.extent] at large
        rw [Request.bytes] at counted
        omega
      have refused := Mapping.attach?_of_incredible small credible
      have none := Decidable.not_not.mp fun some => credible ((q.credible_iff length).mpr some)
      exact .inr (.inl ⟨counted, none, _, attaching _ refused⟩)

theorem granted_shared_iff :
    (∃ r, shared? q.capacity q.channels = some (.ok r) ∧ q.Granted r) ↔ q.Fits := by
  rcases q.shared?_cases with
    ⟨large, eq⟩ | ⟨counted, none, error, eq⟩ | ⟨counted, some, r, eq, fresh⟩
  · simp only [eq, reduceCtorEq, false_and, exists_false, false_iff, Fits]
    omega
  · simp only [eq, Option.some.injEq, reduceCtorEq, false_and, exists_false, false_iff, Fits]
    have wide : 1 ≤ q.width := Nat.le_max_right ..
    omega
  · simp only [eq, Option.some.injEq, Except.ok.injEq, exists_eq_left', Fits]
    constructor
    · intro granted
      have height := granted.capacity.symm.trans fresh.capacity
      have breadth := granted.channels.symm.trans fresh.channels
      omega
    · rintro ⟨short, narrow, -⟩
      rw [Nat.mod_eq_of_lt short, Nat.mod_eq_of_lt narrow] at fresh
      exact fresh

theorem made_as_asked_within_header (q : Request) :
    (∀ r, heap? q.capacity q.channels = some r → q.Granted r) ∧
    (heap? q.capacity q.channels = none ↔ Word.maxBytes < 4 * q.samples) ∧
    ((∃ r, shared? q.capacity q.channels = some (.ok r) ∧ q.Granted r) ↔ q.Fits) ∧
    match shared? q.capacity q.channels with
    | none => UInt64.size ≤ q.bytes
    | some (.error _) => q.bytes < UInt64.size ∧ q.width % 2 ^ 32 = 0
    | some (.ok r) => q.bytes < UInt64.size ∧ q.width % 2 ^ 32 ≠ 0 ∧
        r.Fresh (q.capacity.toNat % 2 ^ 32) (q.width % 2 ^ 32)
          (q.capacity.toNat % 2 ^ 32 * (q.width % 2 ^ 32)) := by
  refine ⟨fun r => q.granted_of_heap?, q.heap?_eq_none_iff, q.granted_shared_iff, ?_⟩
  rcases q.shared?_cases with
    ⟨large, eq⟩ | ⟨counted, none, error, eq⟩ | ⟨counted, some, r, eq, fresh⟩
  · rw [eq]
    exact large
  · rw [eq]
    exact ⟨counted, none⟩
  · rw [eq]
    exact ⟨counted, some, fresh⟩

theorem request_is_cut :
    ¬ Fits ⟨4294967300, 1⟩ ∧ ¬ Fits ⟨0, 4294967297⟩ ∧
    (∃ r, shared? 4294967300 1 = some (.ok r) ∧ r.Fresh 4 1 4) ∧
    ∃ r, shared? 0 4294967297 = some (.ok r) ∧ r.Fresh 0 1 0 := by
  refine ⟨by unfold Fits; decide, by unfold Fits; decide, ?_, ?_⟩
  · rcases shared?_cases ⟨4294967300, 1⟩ with ⟨large, -⟩ | ⟨-, none, -⟩ | ⟨-, -, made⟩
    · exact absurd large (by decide)
    · exact absurd none (by decide)
    · exact made
  · rcases shared?_cases ⟨0, 4294967297⟩ with ⟨large, -⟩ | ⟨-, none, -⟩ | ⟨-, -, made⟩
    · exact absurd large (by decide)
    · exact absurd none (by decide)
    · exact made

end Request

end SharedAudio.Ring

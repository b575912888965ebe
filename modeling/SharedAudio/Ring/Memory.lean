import SharedAudio.Sample
import SharedAudio.Fifo
import SharedAudio.Word

namespace SharedAudio

inductive Stamp
  | given (nanoseconds : UInt64)
  | clock
deriving DecidableEq, Repr

structure Timebase where
  numerator : UInt64 := 1
  denominator : UInt64 := 1

def hostTimeNanoseconds (time : UInt64) (unit : Timebase := {}) : UInt64 :=
  UInt64.ofNat (time.toNat * unit.numerator.toNat / unit.denominator.toNat)

structure Header where
  capacity : UInt32
  channels : UInt32
  reserved : UInt64 := 0
  read : UInt64 := 0
  write : UInt64 := 0
  stamp : Stamp := .given 0
deriving DecidableEq, Repr

namespace Header

def size : UInt64 := 64

def counters (h : Header) : Counters := ⟨h.read, h.write⟩

def extent? (capacity channels : UInt64) : Option UInt64 := do
  Word.add? size (← Word.mul? (← Word.mul? 4 capacity) channels)

def needed? (h : Header) : Option UInt64 := extent? h.capacity.toUInt64 h.channels.toUInt64

def sampleCount (h : Header) : Nat := h.capacity.toNat * h.channels.toNat

section Extent

variable {capacity channels bytes : UInt64}

theorem toNat_of_extent? (h : extent? capacity channels = some bytes) :
    bytes.toNat = size.toNat + 4 * (capacity.toNat * channels.toNat) := by
  simp only [extent?, Option.bind_eq_bind, Option.bind_eq_some_iff, Word.mul?_eq_some,
    Word.add?_eq_some] at h
  obtain ⟨frame, frames, data, samples, sum⟩ := h
  rw [sum, samples, frames, Nat.mul_assoc]
  rfl

theorem extent?_eq_none (present : channels ≠ 0 ∨ 4 * capacity.toNat < UInt64.size) :
    extent? capacity channels = none ↔
      UInt64.size ≤ size.toNat + 4 * (capacity.toNat * channels.toNat) := by
  rw [← Nat.mul_assoc]
  cases frames : Word.mul? 4 capacity with
  | none =>
    have large : UInt64.size ≤ 4 * capacity.toNat := Word.mul?_eq_none.mp frames
    have some : 1 ≤ channels.toNat := Nat.pos_of_ne_zero fun zero =>
      present.elim (fun some => some (UInt64.toNat_inj.mp (by simpa using zero))) (by omega)
    have more := Nat.le_mul_of_pos_right (4 * capacity.toNat) some
    simp only [extent?, frames, Option.bind_eq_bind, Option.bind_none, true_iff]
    omega
  | some frame =>
    have exact : frame.toNat = 4 * capacity.toNat := Word.mul?_eq_some.mp frames
    rw [← exact]
    cases samples : Word.mul? frame channels with
    | none =>
      have large := Word.mul?_eq_none.mp samples
      simp only [extent?, frames, samples, Option.bind_eq_bind, Option.bind_some, Option.bind_none,
        true_iff]
      omega
    | some data =>
      rw [← Word.mul?_eq_some.mp samples]
      simp only [extent?, frames, samples, Option.bind_eq_bind, Option.bind_some]
      exact Word.add?_eq_none

end Extent

end Header

structure Mapping where
  bytes : UInt64
  header : Header
  cells : Array Sample

inductive Memory
  | heap (counters : Counters) (stamp : Stamp) (cells : Array Sample)
  | mapped (mapping : Mapping)

namespace Memory

def counters : Memory → Counters
  | .heap counters _ _ => counters
  | .mapped m => m.header.counters

def stamp : Memory → Stamp
  | .heap _ stamp _ => stamp
  | .mapped m => m.header.stamp

def cells : Memory → Array Sample
  | .heap _ _ cells => cells
  | .mapped m => m.cells

def header? : Memory → Option Header
  | .heap .. => none
  | .mapped m => some m.header

def setCounters (counters : Counters) : Memory → Memory
  | .heap _ stamp cells => .heap counters stamp cells
  | .mapped m =>
      .mapped { m with header := { m.header with read := counters.read, write := counters.write } }

def setStamp (stamp : Stamp) : Memory → Memory
  | .heap counters _ cells => .heap counters stamp cells
  | .mapped m => .mapped { m with header := { m.header with stamp } }

def setCells (cells : Array Sample) : Memory → Memory
  | .heap counters stamp _ => .heap counters stamp cells
  | .mapped m => .mapped { m with cells }

def queued (m : Memory) : Nat := m.counters.queued

def consume (m : Memory) (frames : Nat) : Memory := m.setCounters (m.counters.consume frames)

def publish (m : Memory) (frames : Nat) : Memory := m.setCounters (m.counters.publish frames)

def discard (m : Memory) (frames : Nat) : Nat × Memory :=
  let frames := min frames m.queued
  (frames, m.consume frames)

@[simp] theorem counters_setCounters (c : Counters) (m : Memory) :
    (m.setCounters c).counters = c := by cases m <;> rfl

@[simp] theorem counters_setStamp (s : Stamp) (m : Memory) :
    (m.setStamp s).counters = m.counters := by cases m <;> rfl

@[simp] theorem cells_setCounters (c : Counters) (m : Memory) :
    (m.setCounters c).cells = m.cells := by cases m <;> rfl

@[simp] theorem cells_setStamp (s : Stamp) (m : Memory) : (m.setStamp s).cells = m.cells := by
  cases m <;> rfl

@[simp] theorem cells_setCells (a : Array Sample) (m : Memory) : (m.setCells a).cells = a := by
  cases m <;> rfl

theorem queued_discard (m : Memory) (frames : Nat) :
    (m.discard frames).2.queued = m.queued - min frames m.queued := by
  simpa [discard, consume, queued] using
    Counters.queued_consume (c := m.counters) (Nat.min_le_right frames m.counters.queued)

end Memory

end SharedAudio

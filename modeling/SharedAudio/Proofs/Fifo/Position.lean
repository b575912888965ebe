import Mathlib.Data.Nat.ModEq
import SharedAudio.Fifo

namespace SharedAudio

structure Counters.Span (c : Counters) (first next : Nat) : Prop where
  read : c.read = UInt64.ofNat first
  write : c.write = UInt64.ofNat next
  ordered : first ≤ next
  bounded : next < first + 2 ^ 64

namespace Counters

variable {c : Counters} {first next frames : Nat}

theorem span_startingAt (start : UInt64) : (startingAt start).Span start.toNat start.toNat :=
  ⟨by simp [startingAt], by simp [startingAt], Nat.le_refl _, by omega⟩

theorem Span.queued (h : c.Span first next) : c.queued = next - first := by
  obtain ⟨hr, hw, hle, hlt⟩ := h
  simp only [Counters.queued, hr, hw, UInt64.toNat_sub, UInt64.toNat_ofNat']
  omega

theorem Span.consume (h : c.Span first next) (within : frames ≤ c.queued) :
    (c.consume frames).Span (first + frames) next := by
  rw [h.queued] at within
  obtain ⟨hr, hw, hle, hlt⟩ := h
  exact ⟨by simp [Counters.consume, hr], hw, by omega, by omega⟩

theorem Span.publish (h : c.Span first next) (within : c.queued + frames < 2 ^ 64) :
    (c.publish frames).Span first (next + frames) := by
  rw [h.queued] at within
  obtain ⟨hr, hw, hle, hlt⟩ := h
  exact ⟨hr, by simp [Counters.publish, hw], by omega, by omega⟩

end Counters

namespace Window

variable {w : Window} {n : Nat}

-- The capacity divides the range of the counter, or the counter has not got there.
def Exact (w : Window) (n : Nat) : Prop := w.capacity.toNat ∣ 2 ^ 64 ∨ n < 2 ^ 64

theorem Exact.toNat_ofNat {m k : Nat} (h : w.Exact n) (within : m + k ≤ n) :
    w.Exact ((UInt64.ofNat m).toNat + k) := by
  rcases h with divides | small
  · exact .inl divides
  · right
    rw [UInt64.toNat_ofNat']
    omega

theorem Exact.mono {m : Nat} (h : w.Exact n) (le : m ≤ n) : w.Exact m :=
  h.imp id (Nat.lt_of_le_of_lt le)

theorem capacity_pos (h : w.capacity ≠ 0) : 0 < w.capacity.toNat :=
  Nat.pos_of_ne_zero fun zero => h (UInt64.toNat_inj.mp (by simpa using zero))

theorem index_eq (h : w.capacity ≠ 0) (counter : UInt64) :
    w.index counter = counter.toNat % w.capacity.toNat := by
  simp only [index, if_neg h]

theorem index_ofNat (h : w.capacity ≠ 0) (exact : w.Exact n) :
    w.index (UInt64.ofNat n) = n % w.capacity.toNat := by
  rw [index_eq h, UInt64.toNat_ofNat']
  rcases exact with divides | small
  · exact Nat.mod_mod_of_dvd n divides
  · rw [Nat.mod_eq_of_lt small]

theorem index_add_iff (h : w.capacity ≠ 0) (counter : UInt64) {frames : Nat}
    (le : frames ≤ w.capacity.toNat) :
    w.index (counter + UInt64.ofNat frames) = (w.index counter + frames) % w.capacity.toNat ↔
      w.Exact (counter.toNat + frames) := by
  have positive := capacity_pos h
  have bound := w.capacity.toNat_lt
  have counterBound := counter.toNat_lt
  rw [index_eq h, index_eq h, Nat.mod_add_mod, UInt64.toNat_add, UInt64.toNat_ofNat',
    Nat.add_mod_mod]
  constructor
  · intro same
    by_cases small : counter.toNat + frames < 2 ^ 64
    · exact .inr small
    · left
      have wrapped : counter.toNat + frames = (counter.toNat + frames) % 2 ^ 64 + 2 ^ 64 := by omega
      generalize (counter.toNat + frames) % 2 ^ 64 = rest at same wrapped
      rw [wrapped] at same
      exact Nat.left_modEq_add_iff.mp same
  · rintro (divides | small)
    · exact Nat.mod_mod_of_dvd _ divides
    · rw [Nat.mod_eq_of_lt small]

end Window

end SharedAudio

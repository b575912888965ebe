import Mathlib
import SharedAudio.Proofs.Sample.Number

namespace SharedAudio.Unpacked

open Float.Model.UnpackedFloat

variable {v : ℚ} {m r : ℕ} {accuracy : Accuracy}

def Truncates (v : ℚ) (m : ℕ) : Accuracy → Prop
  | .exact => v = m
  | .inexact .lt => m < v ∧ v < m + 1 / 2
  | .inexact .eq => v = m + 1 / 2
  | .inexact .gt => m + 1 / 2 < v ∧ v < m + 1

theorem Truncates.bounds (h : Truncates v m accuracy) : (m : ℚ) ≤ v ∧ v < m + 1 := by
  match accuracy, h with
  | .exact, h => constructor <;> linarith [show v = m from h]
  | .inexact .lt, ⟨low, high⟩ => constructor <;> linarith
  | .inexact .eq, h => constructor <;> linarith [show v = m + 1 / 2 from h]
  | .inexact .gt, ⟨low, high⟩ => constructor <;> linarith

theorem Truncates.halve {em : ExtendedMantissa} (h : Truncates v em.mantissa em.accuracy) :
    Truncates (v / 2) em.shiftRightOne.mantissa em.shiftRightOne.accuracy := by
  obtain ⟨m, round, sticky⟩ := em
  obtain ⟨q, rfl | rfl⟩ := m.even_or_odd'
  · have half : 2 * q / 2 = q := by omega
    have even : 2 * q % 2 = 0 := by omega
    cases round <;> cases sticky <;>
      simp [Truncates, ExtendedMantissa.accuracy, ExtendedMantissa.shiftRightOne, half, even]
        at h ⊢ <;>
      first | linarith | (constructor <;> linarith)
  · have half : (2 * q + 1) / 2 = q := by omega
    have odd : (2 * q + 1) % 2 = 1 := by omega
    cases round <;> cases sticky <;>
      simp [Truncates, ExtendedMantissa.accuracy, ExtendedMantissa.shiftRightOne, half, odd]
        at h ⊢ <;>
      first | linarith | (constructor <;> linarith)

theorem Truncates.shift {em : ExtendedMantissa} (h : Truncates v em.mantissa em.accuracy) (k : ℕ) :
    Truncates (v / 2 ^ k) (em >>> k).mantissa (em >>> k).accuracy := by
  induction k with
  | zero =>
    have same : em >>> 0 = em := rfl
    rwa [pow_zero, div_one, same]
  | succ k ih =>
    rw [pow_succ, ← div_div]
    exact ih.halve

theorem Truncates.extended (h : Truncates v m accuracy) :
    Truncates v (ExtendedMantissa.ofMantissaAndAccuracy m accuracy).mantissa
      (ExtendedMantissa.ofMantissaAndAccuracy m accuracy).accuracy := by
  match accuracy, h with
  | .exact, h | .inexact .lt, h | .inexact .eq, h | .inexact .gt, h => exact h

structure Nearest (v : ℚ) (r : ℕ) : Prop where
  half : |r - v| ≤ 1 / 2
  even : |r - v| = 1 / 2 → Even r

theorem Truncates.nearest (h : Truncates v m accuracy) :
    Nearest v (accuracy.roundToNearestEven m) := by
  match accuracy, h with
  | .exact, h =>
    have same : v = m := h
    subst same
    constructor <;> norm_num [Accuracy.roundToNearestEven]
  | .inexact .lt, ⟨low, high⟩ =>
    have below : |(m : ℚ) - v| < 1 / 2 := by rw [abs_lt]; constructor <;> linarith
    exact ⟨below.le, fun tie => absurd tie below.ne⟩
  | .inexact .eq, h =>
    have same : v = m + 1 / 2 := h
    subst same
    rw [Accuracy.roundToNearestEven]
    obtain ⟨q, rfl | rfl⟩ := m.even_or_odd'
    · rw [show 2 * q % 2 = 0 by omega]
      exact ⟨by norm_num, fun _ => by simp⟩
    · rw [show (2 * q + 1) % 2 = 1 by omega]
      refine ⟨?_, fun _ => ⟨q + 1, by ring⟩⟩
      push_cast
      norm_num
  | .inexact .gt, ⟨low, high⟩ =>
    have above : |((m + 1 : ℕ) : ℚ) - v| < 1 / 2 := by
      push_cast
      rw [abs_lt]
      constructor <;> linarith
    exact ⟨above.le, fun tie => absurd tie above.ne⟩

theorem Nearest.le (h : Nearest v r) (i : ℤ) : |r - v| ≤ |i - v| := by
  by_cases same : i = r
  · rw [same, Int.cast_natCast]
  have apart : 1 ≤ |(i : ℚ) - r| := by
    have whole : 1 ≤ |i - (r : ℤ)| := Int.one_le_abs (sub_ne_zero.mpr same)
    exact_mod_cast whole
  have triangle : |(i : ℚ) - r| ≤ |i - v| + |r - v| := by
    rw [abs_sub_comm (r : ℚ) v]
    exact abs_sub_le ..
  linarith [h.half]

theorem Nearest.le_of_lt (h : Nearest v r) {n : ℕ} (below : v < n) : r ≤ n := by
  have error := (abs_le.mp h.half).2
  have next : (r : ℚ) < (n + 1 : ℕ) := by push_cast; linarith
  exact Nat.lt_succ_iff.mp (by exact_mod_cast next)

theorem Nearest.ge_of_ge (h : Nearest v r) {n : ℕ} (above : (n : ℚ) ≤ v) : n ≤ r := by
  have error := (abs_le.mp h.half).1
  have next : (n : ℚ) < (r + 1 : ℕ) := by push_cast; linarith
  exact Nat.lt_succ_iff.mp (by exact_mod_cast next)

theorem truncates_div (n : ℕ) {d : ℕ} (positive : 0 < d) :
    Truncates (n / d) (n / d) (accuracyOfFraction (n % d) d) := by
  have divisor : (0 : ℚ) < d := by exact_mod_cast positive
  have split : (n / d : ℚ) = (n / d : ℕ) + (n % d : ℕ) / d := by
    rw [div_eq_iff divisor.ne', add_mul, div_mul_cancel₀ _ divisor.ne']
    exact_mod_cast (Nat.div_add_mod' n d).symm
  have rest : ((n % d : ℕ) : ℚ) < d := by exact_mod_cast Nat.mod_lt n positive
  rw [split, accuracyOfFraction]
  split
  next none =>
    rw [none, Nat.cast_zero, zero_div, add_zero]
    exact rfl
  next some =>
    have more : (0 : ℚ) < (n % d : ℕ) := by exact_mod_cast Nat.pos_of_ne_zero some
    have fraction : (0 : ℚ) < (n % d : ℕ) / d := div_pos more divisor
    rcases lt_trichotomy (2 * (n % d)) d with less | half | more
    · rw [Nat.compare_eq_lt.mpr less]
      have below : ((n % d : ℕ) : ℚ) / d < 1 / 2 := by
        rw [div_lt_iff₀ divisor]
        have : (2 : ℚ) * (n % d : ℕ) < d := by exact_mod_cast less
        linarith
      exact ⟨by linarith, by linarith⟩
    · rw [Nat.compare_eq_eq.mpr half]
      have equal : ((n % d : ℕ) : ℚ) / d = 1 / 2 := by
        rw [div_eq_iff divisor.ne']
        have : (2 : ℚ) * (n % d : ℕ) = d := by exact_mod_cast half
        linarith
      exact congrArg _ equal
    · rw [Nat.compare_eq_gt.mpr more]
      have above : 1 / 2 < ((n % d : ℕ) : ℚ) / d := by
        rw [lt_div_iff₀ divisor]
        have : (d : ℚ) < 2 * (n % d : ℕ) := by exact_mod_cast more
        linarith
      have below : ((n % d : ℕ) : ℚ) / d < 1 := (div_lt_one divisor).mpr rest
      exact ⟨by linarith, by linarith⟩

end SharedAudio.Unpacked

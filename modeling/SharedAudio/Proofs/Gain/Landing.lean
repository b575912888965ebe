import Mathlib.Logic.Function.Iterate
import SharedAudio.Gain.Ramp

namespace SharedAudio.Ramp

variable {r : Ramp} {k : Nat}

theorem next_cases (r : Ramp) :
    r.remaining.toNat = 0 ∧ r.next = r ∨
    r.remaining.toNat = 1 ∧ r.next = { r with current := r.target, remaining := 0 } ∨
    2 ≤ r.remaining.toNat ∧ (r.remaining - 1).toNat = r.remaining.toNat - 1 ∧
      r.next = { r with current := r.current + r.step, remaining := r.remaining - 1 } := by
  by_cases rest : r.remaining = 0
  · exact .inl ⟨by rw [rest]; rfl, next_of_remaining_zero rest⟩
  have some : r.remaining.toNat ≠ 0 := fun zero => rest (UInt32.toNat_inj.mp zero)
  have fewer : (r.remaining - 1).toNat = r.remaining.toNat - 1 := by
    rw [UInt32.toNat_sub_of_le _ _ (UInt32.le_iff_toNat_le.mpr (by
      change 1 ≤ _
      omega))]
    rfl
  rw [next, if_neg rest]
  dsimp only
  by_cases last : r.remaining - 1 = 0
  · have one : r.remaining.toNat = 1 := by
      rw [last] at fewer
      change 0 = _ at fewer
      omega
    exact .inr (.inl ⟨one, by rw [if_pos last, last]⟩)
  · have more : (r.remaining - 1).toNat ≠ 0 := fun zero => last (UInt32.toNat_inj.mp zero)
    exact .inr (.inr ⟨by omega, fewer, by rw [if_neg last]⟩)

theorem target_iterate (r : Ramp) (k : Nat) : (next^[k] r).target = r.target := by
  induction k with
  | zero => rfl
  | succ k ih => rw [Function.iterate_succ_apply', target_next, ih]

structure OnTheWay (r s : Ramp) (k : Nat) : Prop where
  current : s.current = (· + r.step)^[k] r.current
  step : s.step = r.step
  remaining : s.remaining.toNat = r.remaining.toNat - k

theorem onTheWay_iterate (short : k < r.remaining.toNat) : r.OnTheWay (next^[k] r) k := by
  induction k with
  | zero => exact ⟨rfl, rfl, rfl⟩
  | succ k ih =>
    obtain ⟨current, step, remaining⟩ := ih (by omega)
    rw [Function.iterate_succ_apply']
    rcases (next^[k] r).next_cases with ⟨none, -⟩ | ⟨one, -⟩ | ⟨-, fewer, eq⟩
    · omega
    · omega
    · rw [eq]
      refine ⟨?_, step, by dsimp only; omega⟩
      rw [Function.iterate_succ_apply', ← current, ← step]

theorem iterate_of_landed (moving : 0 < r.remaining.toNat) (landed : r.remaining.toNat ≤ k) :
    (next^[k] r).current = r.target := by
  obtain ⟨steps, count⟩ : ∃ steps, r.remaining.toNat = steps + 1 :=
    ⟨r.remaining.toNat - 1, by omega⟩
  obtain ⟨more, rfl⟩ := Nat.exists_eq_add_of_le landed
  have before := onTheWay_iterate (r := r) (k := steps) (by omega)
  have last : (next^[r.remaining.toNat] r).current = r.target ∧
      (next^[r.remaining.toNat] r).remaining = 0 := by
    rw [count, Function.iterate_succ_apply']
    have one : (next^[steps] r).remaining.toNat = 1 := by
      rw [before.remaining]
      omega
    rcases (next^[steps] r).next_cases with ⟨none, -⟩ | ⟨-, eq⟩ | ⟨two, -⟩
    · omega
    · rw [eq]
      exact ⟨target_iterate r steps, rfl⟩
    · omega
  rw [Nat.add_comm, Function.iterate_add_apply,
    Function.iterate_fixed (next_of_remaining_zero last.2), last.1]

theorem current_iterate_aim (r : Ramp) (target : Sample) (bursts : UInt32) (k : Nat) :
    (next^[k + 1] (r.aim target bursts)).current =
      if k + 1 < bursts.toNat then
        (· + (Sample.positivePart target - r.current) / bursts.toFloat32)^[k + 1] r.current
      else Sample.positivePart target := by
  by_cases zero : bursts = 0
  · have settled : (r.aim target bursts).remaining = 0 := by rw [aim, if_pos zero]
    have none : ¬k + 1 < bursts.toNat := by
      rw [zero]
      exact Nat.not_lt_zero _
    rw [if_neg none, Function.iterate_fixed (next_of_remaining_zero settled), aim, if_pos zero]
  · have some : bursts.toNat ≠ 0 := fun none => zero (UInt32.toNat_inj.mp none)
    have remaining : (r.aim target bursts).remaining = bursts := by rw [aim, if_neg zero]
    split
    next short =>
      rw [(onTheWay_iterate (by rwa [remaining])).current, aim, if_neg zero]
    next landed =>
      rw [iterate_of_landed (by rw [remaining]; omega) (by rw [remaining]; omega), target_aim]

end SharedAudio.Ramp

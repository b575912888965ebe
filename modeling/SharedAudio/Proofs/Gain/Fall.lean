import SharedAudio.Proofs.Gain.Landing
import SharedAudio.Proofs.Gain.Scalar

namespace SharedAudio

open Sample

theorem covered_of_large {bursts start way step : ℤ} (many : 2 ≤ bursts) (few : bursts ≤ 2048)
    (large : 2 ^ 23 ≤ start) (within : way ≤ start)
    (close : 2 * (bursts * step) ≤ 2 * way + bursts ∨
      2 ^ 24 * (bursts * step) ≤ (2 ^ 24 + 1) * way) :
    (bursts - 1) * (start / 2 ^ 24 + step) ≤ start := by
  obtain ⟨loss, eq⟩ : ∃ loss, loss = start / 2 ^ 24 := ⟨_, rfl⟩
  rw [← eq]
  have lost : loss * 2 ^ 24 ≤ start := eq ▸ Int.ediv_mul_le start (by decide)
  have pairs : bursts * (bursts - 1) ≤ 2 ^ 22 := by
    calc bursts * (bursts - 1) ≤ 2048 * 2047 :=
          mul_le_mul few (by omega) (by omega) (by decide)
      _ ≤ 2 ^ 22 := by decide
  have cost : bursts * (bursts - 1) * loss * 2 ^ 24 ≤ 2 ^ 22 * start := by
    have some : 0 ≤ bursts * (bursts - 1) := mul_nonneg (by omega) (by omega)
    calc bursts * (bursts - 1) * loss * 2 ^ 24 = bursts * (bursts - 1) * (loss * 2 ^ 24) := by ring
      _ ≤ bursts * (bursts - 1) * start := mul_le_mul_of_nonneg_left lost some
      _ ≤ 2 ^ 22 * start := mul_le_mul_of_nonneg_right pairs (by omega)
  have steps : 0 ≤ bursts - 1 := by omega
  rcases close with half | part
  · have total := mul_le_mul_of_nonneg_left half steps
    have bound := mul_le_mul_of_nonneg_left within steps
    refine le_of_mul_le_mul_left (a := 2 * bursts) ?_ (by omega)
    linarith
  · have total := mul_le_mul_of_nonneg_left part steps
    have bound := mul_le_mul_of_nonneg_left within steps
    have rest : (bursts - 1) * start ≤ 2047 * start :=
      mul_le_mul_of_nonneg_right (by omega) (by omega)
    refine le_of_mul_le_mul_left (a := 2 ^ 24 * bursts) ?_ (by omega)
    linarith

theorem Unpacked.Rounds.covered {bursts : ℕ} {start way step : ℤ}
    (h : Unpacked.Rounds (way / bursts : ℚ) step) (many : 2 ≤ bursts) (nonneg : 0 ≤ way)
    (within : way ≤ start) (few : bursts ≤ 4 ∨ bursts ≤ 2048 ∧ 2 ^ 23 ≤ start) :
    (bursts - 1 : ℤ) * (start / 2 ^ 24 + step) ≤ start := by
  have divisor : (0 : ℚ) < bursts := by exact_mod_cast (by omega : 0 < bursts)
  have quotient : (0 : ℚ) ≤ way / bursts := div_nonneg (by exact_mod_cast nonneg) divisor.le
  have close : 2 * (bursts * step) ≤ 2 * way + bursts ∨
      2 ^ 24 * (bursts * step) ≤ (2 ^ 24 + 1) * way := by
    have upper := (le_abs_self _).trans h.close
    rw [abs_of_nonneg quotient] at upper
    rcases le_max_iff.mp upper with half | part
    · left
      have scaled : (bursts : ℚ) * step ≤ way + bursts / 2 := by
        have product := mul_le_mul_of_nonneg_left half divisor.le
        rw [mul_sub, mul_div_cancel₀ _ divisor.ne'] at product
        linarith
      exact_mod_cast (by linarith : 2 * ((bursts : ℚ) * step) ≤ 2 * way + bursts)
    · right
      have scaled : (bursts : ℚ) * step ≤ way + way / 2 ^ 24 := by
        have product := mul_le_mul_of_nonneg_left part divisor.le
        rw [mul_sub, mul_div_cancel₀ _ divisor.ne', mul_div_assoc', mul_div_cancel₀ _ divisor.ne']
          at product
        linarith
      exact_mod_cast (by linarith : 2 ^ 24 * ((bursts : ℚ) * step) ≤ (2 ^ 24 + 1) * way)
  by_cases large : 2 ^ 23 ≤ start
  · exact covered_of_large (by exact_mod_cast many) (by omega) large within close
  -- Small numbers are exact, and the steps are whole numbers near the quotient.
  have exact : start / 2 ^ 24 = 0 := by omega
  rw [exact, zero_add]
  have short : bursts ≤ 4 := few.resolve_right fun both => large both.2
  interval_cases bursts
  · omega
  · omega
  · have even : step = 1 → way ≠ 2 := by
      rintro rfl rfl
      exact absurd (h.even (by norm_num)) (by decide)
    omega

namespace Ramp

variable {r : Ramp} {target : Sample} {bursts : UInt32}

structure Funded (r : Ramp) (start : ℤ) : Prop where
  current : r.current.isFinite = true
  step : r.step.isFinite = true
  down : r.step.units ≤ 0
  below : r.current.units ≤ start
  enough : (r.remaining.toNat - 1 : ℤ) * (start / 2 ^ 24 - r.step.units) ≤ r.current.units

theorem Funded.fall {start : ℤ} (h : r.Funded start) (more : 2 ≤ r.remaining.toNat)
    (gain : 0 ≤ r.current.units) :
    (r.current + r.step).isFinite = true ∧ 0 ≤ (r.current + r.step).units ∧
      (r.current + r.step).units ≤ start ∧
      (r.remaining.toNat - 2 : ℤ) * (start / 2 ^ 24 - r.step.units) ≤
        (r.current + r.step).units := by
  have cost : 0 ≤ start / 2 ^ 24 - r.step.units := by have := h.down; have := h.below; omega
  have later : 0 ≤ (r.remaining.toNat - 2 : ℤ) * (start / 2 ^ 24 - r.step.units) :=
    mul_nonneg (by omega) cost
  have paid : (r.remaining.toNat - 2 : ℤ) * (start / 2 ^ 24 - r.step.units) +
      (start / 2 ^ 24 - r.step.units) ≤ r.current.units := by
    have enough := h.enough
    linarith
  have left : 0 ≤ r.current.units + r.step.units := by have := h.below; omega
  have less : r.current.units + r.step.units ≤ r.current.units := by have := h.down; omega
  obtain ⟨finite, rounds⟩ := add_spec h.current h.step r.current
    (by rwa [abs_of_nonneg left, abs_of_nonneg gain])
  have low := rounds.ge Unpacked.short_zero (by exact_mod_cast left)
  have high := rounds.le r.current.short_units (by exact_mod_cast less)
  have error := rounds.error_le
  rw [abs_of_nonneg left] at error
  have lost := neg_abs_le ((r.current + r.step).units - (r.current.units + r.step.units))
  have below := h.below
  exact ⟨finite, low, high.trans below, by omega⟩

theorem funded_aim (gain : r.current.IsGain) (finite : r.current.isFinite = true)
    (above : ¬ r.current ≤ positivePart target) (many : 2 ≤ bursts.toNat)
    (few : bursts.toNat ≤ 4 ∨ bursts.toNat ≤ 2048 ∧ 2 ^ 23 ≤ r.current.units) :
    (r.aim target bursts).Funded r.current.units := by
  have some : bursts ≠ 0 := by
    rintro rfl
    exact absurd many (by decide)
  have start := (isGain_iff_units finite).mp gain
  obtain ⟨bounded, nonneg⟩ := (isGain_positivePart target).cases.resolve_left
    fun infinite => above (le_of_infinite finite infinite)
  rw [le_iff_units finite bounded, not_le] at above
  obtain ⟨way, distance⟩ := sub_spec bounded finite r.current (by
    rw [abs_of_nonneg start, abs_le]
    omega)
  have down := distance.le Unpacked.short_zero
    (by exact_mod_cast (by omega : (positivePart target).units - r.current.units ≤ 0))
  have within := distance.ge r.current.short_units.neg
    (by exact_mod_cast
      (by omega : -r.current.units ≤ (positivePart target).units - r.current.units))
  obtain ⟨step, rounds⟩ := div_toFloat32_spec way (by omega : 0 < bursts.toNat) (by omega)
  have falls := rounds.le Unpacked.short_zero (by
    rw [Int.cast_zero]
    exact div_nonpos_of_nonpos_of_nonneg (by exact_mod_cast down) (Nat.cast_nonneg _))
  have mirrored := rounds.neg
  rw [← neg_div, ← Int.cast_neg] at mirrored
  have covered := mirrored.covered many (by omega) (by omega) few
  rw [Ramp.aim, if_neg some]
  exact ⟨finite, step, falls, le_rfl, by rwa [sub_eq_add_neg]⟩

end Ramp

end SharedAudio

import Mathlib
import SharedAudio.Proofs.Sample.Truncation

namespace SharedAudio.Unpacked

open Float.Model (Format UnpackedFloat totalExponent)
open Float.Model.UnpackedFloat

variable {v w : ℚ} {m r : ℕ} {e : ℤ} {accuracy : Accuracy} {sign : Sign}

-- In units of the least positive number, `2 ^ (-149)`.
def units : UnpackedFloat → ℤ
  | .finite sign mantissa exponent _ => sign.apply (mantissa * 2 ^ (exponent + 149).toNat)
  | _ => 0

theorem units_positive (positive : 0 < m) : 0 < units (.finite .positive m e positive) := by
  change (0 : ℤ) < m * 2 ^ _
  positivity

theorem units_negative (positive : 0 < m) : units (.finite .negative m e positive) < 0 :=
  neg_lt_zero.mpr (units_positive positive)

def Canonical : UnpackedFloat → Prop
  | .finite _ mantissa exponent _ =>
    mantissa < 2 ^ 24 ∧ -149 ≤ exponent ∧ (exponent = -149 ∨ 2 ^ 23 ≤ mantissa)
  | _ => True

def Short (z : ℤ) : Prop := ∃ (digits : ℤ) (shift : ℕ), |digits| < 2 ^ 24 ∧ z = digits * 2 ^ shift

theorem short_of_small {z : ℤ} (h : |z| < 2 ^ 24) : Short z := ⟨z, 0, h, by ring⟩

theorem short_zero : Short 0 := short_of_small (by decide)

theorem Short.neg {z : ℤ} (h : Short z) : Short (-z) := by
  obtain ⟨digits, shift, few, rfl⟩ := h
  exact ⟨-digits, shift, by rwa [abs_neg], by ring⟩

structure Rounds (w : ℚ) (z : ℤ) : Prop where
  close : |z - w| ≤ max (1 / 2) (|w| / 2 ^ 24)
  nearest : ∀ x : ℤ, Short x → |z - w| ≤ |x - w|
  even : |z - w| = 1 / 2 → Even z

namespace Rounds

variable {z x : ℤ}

theorem refl (z : ℤ) : Rounds z z := by
  constructor <;> simp

theorem neg (h : Rounds w z) : Rounds (-w) (-z) := by
  have same (x : ℚ) : |-x - -w| = |x - w| := by rw [← neg_sub', abs_neg]
  refine ⟨?_, fun x short => ?_, fun tie => ?_⟩
  · rw [Int.cast_neg, same, abs_neg]
    exact h.close
  · have mirrored := h.nearest (-x) short.neg
    have other := same (-x)
    rw [neg_neg] at other
    rwa [Int.cast_neg, same, other, ← Int.cast_neg]
  · rw [Int.cast_neg, same] at tie
    exact (h.even tie).neg

theorem ge (h : Rounds w z) (short : Short x) (below : x ≤ w) : x ≤ z := by
  have near := h.nearest x short
  rw [abs_of_nonpos (by linarith : (x : ℚ) - w ≤ 0)] at near
  have bound := (abs_le.mp near).1
  exact_mod_cast (by linarith : (x : ℚ) ≤ z)

theorem le (h : Rounds w z) (short : Short x) (above : w ≤ x) : z ≤ x := by
  have near := h.nearest x short
  rw [abs_of_nonneg (by linarith : 0 ≤ (x : ℚ) - w)] at near
  have bound := (abs_le.mp near).2
  exact_mod_cast (by linarith : (z : ℚ) ≤ x)

theorem eq_of_short (h : Rounds x z) (short : Short x) : z = x :=
  le_antisymm (h.le short le_rfl) (h.ge short le_rfl)

theorem error_le (h : Rounds x z) : |z - x| * 2 ^ 24 ≤ |x| := by
  rcases lt_or_ge |x| (2 ^ 24) with small | large
  · rw [h.eq_of_short (short_of_small small), sub_self, abs_zero, zero_mul]
    exact abs_nonneg x
  · have bound : (1 : ℚ) / 2 ≤ |(x : ℚ)| / 2 ^ 24 := by
      rw [le_div_iff₀ (by positivity)]
      have : (2 : ℚ) ^ 24 ≤ |(x : ℚ)| := by exact_mod_cast large
      linarith
    have close := h.close
    rw [max_eq_right bound, le_div_iff₀ (by positivity)] at close
    exact_mod_cast close

end Rounds

theorem targetExponent_eq (m : ℕ) (e : ℤ) :
    Format.binary32.targetExponent (totalExponent m e) = max (m.log2 + e - 23) (-149) := by
  have bits : (Format.binary32.mantissaBits : ℤ) = 24 := rfl
  have least : Format.binary32.minExponent = -149 := rfl
  rw [Format.targetExponent, totalExponent, bits, least]
  congr 1
  ring

theorem Truncates.quotient (h : Truncates v m accuracy) (enough : 23 ≤ m.log2 ∨ e ≤ -149) {k : ℕ}
    (shift : e + k = max (m.log2 + e - 23) (-149)) :
    v / 2 ^ k < 2 ^ 24 ∧ (e + k = -149 ∨ 2 ^ 23 ≤ v / 2 ^ k) := by
  obtain ⟨low, high⟩ := h.bounds
  have power : (0 : ℚ) < 2 ^ k := by positivity
  constructor
  · have small : m + 1 ≤ 2 ^ (24 + k) :=
      (Nat.lt_log2_self (n := m)).trans_le (Nat.pow_le_pow_right (by decide) (by omega))
    rw [div_lt_iff₀ power, ← pow_add]
    exact high.trans_le (by exact_mod_cast small)
  · by_cases least : e + k = -149
    · exact .inl least
    have digits : 23 + k ≤ m.log2 := by omega
    have positive : m ≠ 0 := by
      rintro rfl
      simp at digits
    have large : 2 ^ (23 + k) ≤ m :=
      (Nat.pow_le_pow_right (by decide) digits).trans (Nat.log2_self_le positive)
    right
    rw [le_div_iff₀ power, ← pow_add]
    exact le_trans (by exact_mod_cast large) low

theorem Nearest.rounds {q : ℚ} (h : Nearest q r) {n : ℕ} (enough : n = 0 ∨ 2 ^ 23 ≤ q)
    (nonneg : 0 ≤ q) : Rounds (q * 2 ^ n) (r * 2 ^ n : ℕ) := by
  have unit : (0 : ℚ) < 2 ^ n := by positivity
  have scale (x : ℚ) : |x * 2 ^ n - q * 2 ^ n| = |x - q| * 2 ^ n := by
    rw [← sub_mul, abs_mul, abs_of_pos unit]
  have error : |((r * 2 ^ n : ℕ) : ℤ) - q * 2 ^ n| = |r - q| * 2 ^ n := by
    rw [← scale]
    push_cast
    rfl
  refine ⟨?_, ?_, fun tie => ?_⟩
  · rw [error, abs_of_nonneg (mul_nonneg nonneg unit.le)]
    rcases enough with rfl | large
    · exact le_max_of_le_left (by simpa using h.half)
    · refine le_max_of_le_right ?_
      have half := mul_le_mul_of_nonneg_right h.half unit.le
      have bound := mul_le_mul_of_nonneg_right large unit.le
      linarith
  · rintro _ ⟨digits, shift, few, rfl⟩
    rw [error, Int.cast_mul, Int.cast_pow, Int.cast_ofNat]
    rcases le_or_gt n shift with fits | finer
    · have whole : (digits : ℚ) * 2 ^ shift = (digits * 2 ^ (shift - n) : ℤ) * 2 ^ n := by
        push_cast
        rw [mul_assoc, ← pow_add, Nat.sub_add_cancel fits]
      rw [whole, scale]
      exact mul_le_mul_of_nonneg_right (h.le _) unit.le
    · have large : 2 ^ 23 ≤ q := enough.resolve_left (by omega)
      have first := h.le (2 ^ 23)
      rw [Int.cast_pow, Int.cast_ofNat, abs_of_nonpos (by linarith : (2 : ℚ) ^ 23 - q ≤ 0)] at first
      have short : (digits : ℚ) * 2 ^ shift ≤ 2 ^ 23 * 2 ^ n := by
        have step : (2 : ℚ) ^ shift * 2 ≤ 2 ^ n := by
          rw [← pow_succ]
          exact pow_le_pow_right₀ one_le_two finer
        have few : (digits : ℚ) ≤ 2 ^ 24 := by exact_mod_cast (le_abs_self digits).trans few.le
        calc (digits : ℚ) * 2 ^ shift ≤ 2 ^ 24 * 2 ^ shift := by gcongr
          _ = 2 ^ 23 * (2 ^ shift * 2) := by ring
          _ ≤ 2 ^ 23 * 2 ^ n := by gcongr
      calc |r - q| * 2 ^ n ≤ -(2 ^ 23 - q) * 2 ^ n := mul_le_mul_of_nonneg_right first unit.le
        _ ≤ -(digits * 2 ^ shift - q * 2 ^ n) := by linarith
        _ ≤ |digits * 2 ^ shift - q * 2 ^ n| := neg_le_abs _
  · rw [error] at tie
    cases n with
    | zero => simpa using h.even (by simpa using tie)
    | succ n => exact ⟨(r * 2 ^ n : ℕ), by push_cast; ring⟩

def assemble (sign : Sign) (r : ℕ) (e : ℤ) : UnpackedFloat :=
  let (em, f) := shiftToTargetExponent .binary32 r e .exact
  if h : em.mantissa = 0 then .zero sign else .finite sign em.mantissa f (Nat.pos_of_ne_zero h)

theorem assemble_spec (sign : Sign) (short : r ≤ 2 ^ 24) (low : -149 ≤ e)
    (enough : e = -149 ∨ 2 ^ 23 ≤ r) :
    (assemble sign r e).isFinite = true ∧ Canonical (assemble sign r e) ∧
      units (assemble sign r e) = sign.apply (r * 2 ^ (e + 149).toNat) := by
  obtain ⟨digits, f, shifted, same, canonical⟩ : ∃ (digits : ℕ) (f : ℤ),
      ((shiftToTargetExponent .binary32 r e .exact).1.mantissa = digits ∧
        (shiftToTargetExponent .binary32 r e .exact).2 = f) ∧
      digits * 2 ^ (f + 149).toNat = r * 2 ^ (e + 149).toNat ∧
      digits < 2 ^ 24 ∧ -149 ≤ f ∧ (f = -149 ∨ 2 ^ 23 ≤ digits) := by
    rw [shiftToTargetExponent, targetExponent_eq, shiftToExponent]
    dsimp only
    by_cases full : r = 2 ^ 24
    · subst full
      have one : (max (((2 ^ 24 : ℕ).log2 : ℤ) + e - 23) (-149) - e).toNat = 1 := by
        rw [Nat.log2_two_pow]
        omega
      rw [one]
      refine ⟨2 ^ 23, e + 1, ⟨rfl, rfl⟩, ?_, by decide, by omega, .inr (by decide)⟩
      rw [show (e + 1 + 149).toNat = (e + 149).toNat + 1 by omega, pow_succ]
      ring
    · have few : r.log2 ≤ 23 := by
        by_cases zero : r = 0
        · simp [zero]
        · exact Nat.lt_succ_iff.mp ((Nat.log2_lt zero).mpr (by omega))
      have none : (max ((r.log2 : ℤ) + e - 23) (-149) - e).toNat = 0 := by omega
      rw [none, Nat.cast_zero, add_zero]
      exact ⟨r, e, ⟨rfl, rfl⟩, rfl, by omega, low, enough⟩
  obtain ⟨rfl, rfl⟩ := shifted
  have whole : (shiftToTargetExponent .binary32 r e .exact).1.mantissa *
      2 ^ ((shiftToTargetExponent .binary32 r e .exact).2 + 149).toNat =
      (r * 2 ^ (e + 149).toNat : ℤ) := by exact_mod_cast same
  rw [assemble]
  dsimp only
  split
  next zero =>
    rw [zero, Nat.cast_zero, zero_mul] at whole
    rw [← whole]
    exact ⟨rfl, trivial, by cases sign <;> rfl⟩
  next => exact ⟨rfl, canonical, congrArg sign.apply whole⟩

theorem Truncates.assembles (h : Truncates v m accuracy) (sign : Sign) {k : ℕ}
    (shift : e + k = max (m.log2 + e - 23) (-149)) :
    ∃ r, roundWithAccuracy .binary32 sign m e accuracy = assemble sign r (e + k) ∧
      Nearest (v / 2 ^ k) r := by
  have first : shiftToTargetExponent .binary32 m e accuracy =
      (ExtendedMantissa.ofMantissaAndAccuracy m accuracy >>> k, e + k) := by
    rw [shiftToTargetExponent, targetExponent_eq, shiftToExponent]
    have same : (max ((m.log2 : ℤ) + e - 23) (-149) - e).toNat = k := by omega
    rw [same]
  refine ⟨_, ?_, (h.extended.shift k).nearest⟩
  change assemble sign (shiftToTargetExponent .binary32 m e accuracy).1.roundedMantissa
    (shiftToTargetExponent .binary32 m e accuracy).2 = _
  rw [first]
  rfl

theorem Truncates.rounds (h : Truncates v m accuracy) (enough : 23 ≤ m.log2 ∨ e ≤ -149)
    (sign : Sign) :
    let u := roundWithAccuracy .binary32 sign m e accuracy
    u.isFinite = true ∧ Canonical u ∧
      ∃ z : ℕ, units u = sign.apply z ∧ Rounds (v * 2 ^ (e + 149)) z := by
  obtain ⟨k, shift⟩ : ∃ k : ℕ, e + k = max (m.log2 + e - 23) (-149) :=
    ⟨(max (m.log2 + e - 23) (-149) - e).toNat, by omega⟩
  obtain ⟨few, exact⟩ := h.quotient enough shift
  obtain ⟨r, assembled, near⟩ := h.assembles sign shift
  obtain ⟨finite, canonical, value⟩ := assemble_spec sign
    (near.le_of_lt (by exact_mod_cast few)) (by omega)
    (exact.imp_right fun large => near.ge_of_ge (by exact_mod_cast large))
  have nonneg : 0 ≤ v / 2 ^ k := div_nonneg (m.cast_nonneg.trans h.bounds.1) (by positivity)
  intro u
  rw [show u = assemble sign r (e + k) from assembled]
  refine ⟨finite, canonical, r * 2 ^ (e + k + 149).toNat, by rw [value]; push_cast; rfl, ?_⟩
  have rounds := near.rounds (n := (e + k + 149).toNat) (exact.imp_left (by omega)) nonneg
  have same : v / 2 ^ k * 2 ^ (e + k + 149).toNat = v * 2 ^ (e + 149) := by
    rw [← zpow_natCast (2 : ℚ) (e + k + 149).toNat, Int.toNat_of_nonneg (by omega),
      show e + k + 149 = k + (e + 149) by ring, zpow_add₀ two_ne_zero, zpow_natCast]
    field_simp
  rwa [same] at rounds

theorem log2_mul_two_pow (positive : 0 < m) (k : ℕ) : (m * 2 ^ k).log2 = m.log2 + k := by
  obtain ⟨low, high⟩ := (Nat.log2_eq_iff positive.ne').mp rfl
  have power : 0 < 2 ^ k := by positivity
  rw [Nat.log2_eq_iff (by positivity), add_right_comm, pow_add, pow_add]
  exact ⟨Nat.mul_le_mul_right _ low, Nat.mul_lt_mul_of_pos_right high power⟩

theorem round_spec (positive : 0 < m) (e : ℤ) (sign : Sign) :
    let u := UnpackedFloat.round .binary32 sign m e
    u.isFinite = true ∧ Canonical u ∧
      ∃ z : ℕ, units u = sign.apply z ∧ Rounds (m * 2 ^ (e + 149)) z := by
  rw [UnpackedFloat.round, targetExponent_eq, decreaseExponent]
  dsimp only
  generalize drop : (e - max (m.log2 + e - 23) (-149)).toNat = k
  have digits : (m <<< k).log2 = m.log2 + k := by
    rw [Nat.shiftLeft_eq, log2_mul_two_pow positive]
  have exact : Truncates (m <<< k : ℕ) (m <<< k) .exact := rfl
  have rounds := exact.rounds (e := e - k) (by omega) sign
  have same : ((m <<< k : ℕ) : ℚ) * 2 ^ (e - k + 149) = m * 2 ^ (e + 149) := by
    have split : (2 : ℚ) ^ (e + 149) = 2 ^ k * 2 ^ (e - k + 149) := by
      rw [← zpow_natCast, ← zpow_add₀ two_ne_zero]
      congr 1
      ring
    rw [Nat.shiftLeft_eq, split]
    push_cast
    ring
  rwa [same] at rounds

theorem normalize_spec (m : ℤ) (low : -149 ≤ e) (zero : Sign) :
    let u := UnpackedFloat.normalize .binary32 m e zero
    u.isFinite = true ∧ Canonical u ∧ Rounds (m * 2 ^ (e + 149).toNat : ℤ) (units u) := by
  have exact (n : ℕ) : (n : ℚ) * 2 ^ (e + 149) = (n * 2 ^ (e + 149).toNat : ℤ) := by
    have shift : ((e + 149).toNat : ℤ) = e + 149 := Int.toNat_of_nonneg (by omega)
    rw [← shift, zpow_natCast]
    push_cast
    rfl
  rw [UnpackedFloat.normalize]
  rcases lt_trichotomy m 0 with negative | rfl | positive
  · obtain ⟨finite, canonical, z, value, rounds⟩ :=
      round_spec (m := (-m).toNat) (by omega) e .negative
    rw [Int.compare_eq_lt.mpr negative]
    refine ⟨finite, canonical, ?_⟩
    rw [exact, Int.toNat_of_nonneg (by omega)] at rounds
    have mirrored := rounds.neg
    rw [← Int.cast_neg, neg_mul, neg_neg] at mirrored
    rw [value]
    exact mirrored
  · rw [zero_mul]
    exact ⟨rfl, trivial, Rounds.refl 0⟩
  · obtain ⟨finite, canonical, z, value, rounds⟩ :=
      round_spec (m := m.toNat) (by omega) e .positive
    rw [Int.compare_eq_gt.mpr positive]
    refine ⟨finite, canonical, ?_⟩
    rw [exact, Int.toNat_of_nonneg positive.le] at rounds
    rw [value]
    exact rounds

end SharedAudio.Unpacked

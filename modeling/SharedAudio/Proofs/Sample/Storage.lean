import Mathlib
import SharedAudio.Proofs.Sample.Rounding

namespace SharedAudio.Unpacked

open Float.Model (Format UnpackedFloat)
open Float.Model.UnpackedFloat

variable {m : ℕ} {e : ℤ} {sign : Sign}

section Storage

def ceiling : ℤ := 2 ^ 24 * 2 ^ 253

theorem natAbs_units (sign : Sign) (m : ℕ) (e : ℤ) (positive : 0 < m) :
    |units (.finite sign m e positive)| = (m * 2 ^ (e + 149).toNat : ℕ) := by
  have nonneg : (0 : ℤ) ≤ m * 2 ^ (e + 149).toNat := by positivity
  have same : |units (.finite sign m e positive)| = m * 2 ^ (e + 149).toNat := by
    cases sign
    · exact (abs_neg _).trans (abs_of_nonneg nonneg)
    · exact abs_of_nonneg nonneg
  rw [same]
  push_cast
  rfl

theorem units_lt_ceiling (sign : Sign) (positive : 0 < m) (few : m < 2 ^ 24) (high : e ≤ 104) :
    |units (.finite sign m e positive)| < ceiling := by
  have power : 2 ^ (e + 149).toNat ≤ 2 ^ 253 := Nat.pow_le_pow_right (by decide) (by omega)
  rw [natAbs_units, ceiling]
  exact_mod_cast Nat.mul_lt_mul_of_lt_of_le few power (by positivity)

theorem exponent_le {positive : 0 < m} (canonical : Canonical (.finite sign m e positive))
    (bounded : |units (.finite sign m e positive)| < ceiling) : e ≤ 104 := by
  by_contra beyond
  have digits : 2 ^ 23 ≤ m := canonical.2.2.resolve_left (by omega)
  have power : 2 * 2 ^ 253 ≤ 2 ^ (e + 149).toNat := by
    rw [← pow_succ']
    exact Nat.pow_le_pow_right (by decide) (by omega)
  have large : 2 ^ 24 * 2 ^ 253 ≤ m * 2 ^ (e + 149).toNat :=
    calc 2 ^ 24 * 2 ^ 253 = 2 ^ 23 * (2 * 2 ^ 253) := by ring
      _ ≤ m * 2 ^ (e + 149).toNat := Nat.mul_le_mul digits power
  rw [natAbs_units, ceiling] at bounded
  exact absurd (by exact_mod_cast bounded) large.not_gt

theorem unpackSign_packComponents {spec : Format} (exponent : BitVec spec.exponentBits)
    (mantissa : BitVec spec.mantissaBitsWithoutImplicit) :
    Sign.ofBitVec (unpackSign (packComponents spec sign exponent mantissa)) = sign := by
  have bit : unpackSign (packComponents spec sign exponent mantissa) = sign.toBitVec := by
    ext i inside
    obtain rfl : i = 0 := by omega
    simp [unpackSign, packComponents, BitVec.getLsbD_append, BitVec.getElem_append]
  rw [bit]
  cases sign <;> rfl

theorem toNat_one_append (x : BitVec Format.binary32.mantissaBitsWithoutImplicit) :
    (1#1 ++ x).toNat = 2 ^ 23 + x.toNat := by
  rw [BitVec.toNat_append, ← Nat.shiftLeft_add_eq_or_of_lt x.isLt]
  rfl

theorem canonical_unpack (b : BitVec Format.binary32.numBits) :
    Canonical (unpack .binary32 b) ∧ |units (unpack .binary32 b)| < ceiling := by
  have bias : ((Format.binary32.exponentBias : ℕ) : ℤ) = 127 := rfl
  have digits : ((Format.binary32.mantissaBitsWithoutImplicit : ℕ) : ℤ) = 23 := rfl
  have mantissa : (unpackMantissa b).toNat < 2 ^ 23 := (unpackMantissa b).isLt
  have exponent : (unpackExponent b).toNat < 2 ^ 8 := (unpackExponent b).isLt
  have none : |(0 : ℤ)| < ceiling := by decide
  rw [unpack]
  split
  · split <;> exact ⟨trivial, none⟩
  next finite =>
    split
    next subnormal =>
      split
      next => exact ⟨trivial, none⟩
      next =>
        have zero : (unpackExponent b).toNat = 0 := by rw [subnormal]; rfl
        exact ⟨⟨by omega, by omega, .inl (by omega)⟩, units_lt_ceiling _ _ (by omega) (by omega)⟩
    next normal =>
      have low : (unpackExponent b).toNat ≠ 0 := fun zero => normal (BitVec.eq_of_toNat_eq zero)
      have high : (unpackExponent b).toNat ≠ 255 := fun full => finite (BitVec.eq_of_toNat_eq full)
      have few : (1#1 ++ unpackMantissa b).toNat < 2 ^ 24 := by rw [toNat_one_append]; omega
      have many : 2 ^ 23 ≤ (1#1 ++ unpackMantissa b).toNat := by rw [toNat_one_append]; omega
      exact ⟨⟨few, by omega, .inr many⟩, units_lt_ceiling _ _ few (by omega)⟩

theorem unpack_pack {u : UnpackedFloat} (canonical : Canonical u) (bounded : |units u| < ceiling) :
    unpack .binary32 (pack .binary32 u) = u := by
  have bias : ((Format.binary32.exponentBias : ℕ) : ℤ) = 127 := rfl
  have digits : ((Format.binary32.mantissaBitsWithoutImplicit : ℕ) : ℤ) = 23 := rfl
  match u, canonical with
  | .notANumber, _ => rfl
  | .infinity sign, _ | .zero sign, _ => cases sign <;> rfl
  | .finite sign m e positive, canonical =>
    have high := exponent_le canonical bounded
    obtain ⟨few, low, enough⟩ := canonical
    rw [pack]
    dsimp only
    rw [bias, digits, if_neg (by change ¬ 256 ≤ _; omega)]
    split
    next full =>
      have many : 2 ^ 23 ≤ m := (Nat.le_log2 positive.ne').mp (by change _ = 24 at full; omega)
      have field : (BitVec.ofNat 8 (e + 127 + 23).toNat).toNat = (e + 150).toNat := by
        rw [BitVec.toNat_ofNat, Nat.mod_eq_of_lt (by omega)]
        omega
      have whole : (1#1 ++ BitVec.ofNat 23 m).toNat = m := by
        rw [toNat_one_append, BitVec.toNat_ofNat]
        change 2 ^ 23 + m % 2 ^ 23 = m
        omega
      have finite : BitVec.ofNat 8 (e + 127 + 23).toNat ≠ -1#8 := by
        rw [BitVec.toNat_ne, field]
        change _ ≠ 255
        omega
      have normal : BitVec.ofNat 8 (e + 127 + 23).toNat ≠ 0#8 := by
        rw [BitVec.toNat_ne, field]
        change _ ≠ 0
        omega
      rw [unpack]
      simp only [unpackExponent_packComponents, unpackMantissa_packComponents,
        unpackSign_packComponents]
      rw [if_neg finite, if_neg normal]
      congr 1
      rw [field, bias, digits]
      omega
    next short =>
      have fewer : m < 2 ^ 23 := by
        refine (Nat.log2_lt positive.ne').mp ?_
        have := (Nat.log2_lt positive.ne').mpr few
        change _ ≠ 24 at short
        omega
      have least : e = -149 := enough.resolve_right (by omega)
      subst least
      have whole : (BitVec.ofNat 23 m).toNat = m := by
        rw [BitVec.toNat_ofNat, Nat.mod_eq_of_lt fewer]
      have some : BitVec.ofNat 23 m ≠ 0#23 := by
        rw [BitVec.toNat_ne, whole]
        exact positive.ne'
      rw [unpack]
      simp only [unpackExponent_packComponents, unpackMantissa_packComponents,
        unpackSign_packComponents]
      rw [if_neg (by decide), if_pos trivial, dif_neg some]
      congr 1

end Storage

section Order

theorem magnitude_lt {n : ℕ} {f : ℤ} (few : m < 2 ^ 24) (low : -149 ≤ e) (less : e < f)
    (enough : f = -149 ∨ 2 ^ 23 ≤ n) : m * 2 ^ (e + 149).toNat < n * 2 ^ (f + 149).toNat := by
  have digits : 2 ^ 23 ≤ n := enough.resolve_left (by omega)
  have power : 2 * 2 ^ (e + 149).toNat ≤ 2 ^ (f + 149).toNat := by
    rw [← pow_succ']
    exact Nat.pow_le_pow_right (by decide) (by omega)
  calc m * 2 ^ (e + 149).toNat < 2 ^ 24 * 2 ^ (e + 149).toNat :=
        Nat.mul_lt_mul_of_pos_right few (by positivity)
    _ = 2 ^ 23 * (2 * 2 ^ (e + 149).toNat) := by ring
    _ ≤ n * 2 ^ (f + 149).toNat := Nat.mul_le_mul digits power

theorem compare_magnitudes {n : ℕ} {f : ℤ} {s t : Sign} {numerator : 0 < m} {denominator : 0 < n}
    (first : Canonical (.finite s m e numerator)) (second : Canonical (.finite t n f denominator)) :
    (compare e f).then (compare m n) =
      compare (m * 2 ^ (e + 149).toNat : ℤ) (n * 2 ^ (f + 149).toNat) := by
  rcases lt_trichotomy e f with less | rfl | more
  · have bound := magnitude_lt first.1 first.2.1 less second.2.2
    rw [Int.compare_eq_lt.mpr less, Int.compare_eq_lt.mpr (by exact_mod_cast bound)]
    rfl
  · have power : (0 : ℤ) < 2 ^ (e + 149).toNat := by positivity
    rw [Int.compare_eq_eq.mpr rfl, Ordering.then]
    rcases lt_trichotomy m n with less | rfl | more
    · rw [Nat.compare_eq_lt.mpr less, Int.compare_eq_lt.mpr]
      exact mul_lt_mul_of_pos_right (by exact_mod_cast less) power
    · rw [Nat.compare_eq_eq.mpr rfl, Int.compare_eq_eq.mpr rfl]
    · rw [Nat.compare_eq_gt.mpr more, Int.compare_eq_gt.mpr]
      exact mul_lt_mul_of_pos_right (by exact_mod_cast more) power
  · have bound := magnitude_lt second.1 second.2.1 more first.2.2
    rw [Int.compare_eq_gt.mpr more, Int.compare_eq_gt.mpr (by exact_mod_cast bound)]
    rfl

theorem compare_eq {u v : UnpackedFloat} (left : u.isFinite = true) (right : v.isFinite = true)
    (first : Canonical u) (second : Canonical v) :
    u.compare v = some (compare (units u) (units v)) := by
  match u, v with
  | .zero _, .zero _ => rfl
  | .zero _, .finite .negative n f positive =>
    exact congrArg some (Int.compare_eq_gt.mpr (units_negative positive)).symm
  | .zero _, .finite .positive n f positive =>
    exact congrArg some (Int.compare_eq_lt.mpr (units_positive positive)).symm
  | .finite .negative m e positive, .zero _ =>
    exact congrArg some (Int.compare_eq_lt.mpr (units_negative positive)).symm
  | .finite .positive m e positive, .zero _ =>
    exact congrArg some (Int.compare_eq_gt.mpr (units_positive positive)).symm
  | .finite .negative m e p, .finite .positive n f q =>
    exact congrArg some (Int.compare_eq_lt.mpr ((units_negative p).trans (units_positive q))).symm
  | .finite .positive m e p, .finite .negative n f q =>
    exact congrArg some (Int.compare_eq_gt.mpr ((units_negative q).trans (units_positive p))).symm
  | .finite .positive m e p, .finite .positive n f q =>
    exact congrArg some (compare_magnitudes first second)
  | .finite .negative m e p, .finite .negative n f q =>
    rw [UnpackedFloat.compare, compare_magnitudes first second]
    have swapped (x y : ℤ) : (compare x y).swap = compare (-x) (-y) := by
      rw [Int.compare_swap]
      rcases lt_trichotomy x y with less | rfl | more
      · rw [Int.compare_eq_gt.mpr less, Int.compare_eq_gt.mpr (neg_lt_neg less)]
      · rw [Int.compare_eq_eq.mpr rfl, Int.compare_eq_eq.mpr rfl]
      · rw [Int.compare_eq_lt.mpr more, Int.compare_eq_lt.mpr (neg_lt_neg more)]
    rw [swapped]
    rfl

theorem le_iff_units {u v : UnpackedFloat} (left : u.isFinite = true) (right : v.isFinite = true)
    (first : Canonical u) (second : Canonical v) : u.le v = true ↔ units u ≤ units v := by
  rw [UnpackedFloat.le, compare_eq left right first second, Option.any_some, Int.isLE_compare]

end Order

end SharedAudio.Unpacked

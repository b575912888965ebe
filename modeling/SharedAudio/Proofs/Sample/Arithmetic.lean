import Mathlib
import SharedAudio.Proofs.Sample.Storage

namespace SharedAudio

open Float.Model (Format UnpackedFloat totalExponent)
open Float.Model.UnpackedFloat

namespace Unpacked

variable {m : ℕ} {e : ℤ} {sign : Sign}

theorem cast_units (low : -149 ≤ e) (positive : 0 < m) :
    (units (.finite sign m e positive) : ℚ) = (sign.apply m : ℤ) * 2 ^ (e + 149) := by
  have shift : ((e + 149).toNat : ℤ) = e + 149 := Int.toNat_of_nonneg (by omega)
  have power : (2 : ℚ) ^ (e + 149) = 2 ^ (e + 149).toNat := by rw [← zpow_natCast, shift]
  rw [units, power]
  cases sign <;> simp [Sign.apply]

theorem units_shift (sign : Sign) (m : ℕ) {e f : ℤ} (low : -149 ≤ f) (le : f ≤ e) :
    sign.apply (m * 2 ^ (e + 149).toNat) =
      sign.apply (m <<< (e - f).toNat : ℕ) * 2 ^ (f + 149).toNat := by
  have split : (e + 149).toNat = (e - f).toNat + (f + 149).toNat := by omega
  rw [split, pow_add, Nat.shiftLeft_eq]
  cases sign <;> simp only [Sign.apply] <;> push_cast <;> ring

theorem add_spec {u v : UnpackedFloat} (left : u.isFinite = true) (right : v.isFinite = true)
    (first : Canonical u) (second : Canonical v) :
    (UnpackedFloat.add .binary32 u v).isFinite = true ∧
      Canonical (UnpackedFloat.add .binary32 u v) ∧
      Rounds (units u + units v : ℤ) (units (UnpackedFloat.add .binary32 u v)) := by
  match u, v with
  | .zero s, .zero t =>
    have zero : units (UnpackedFloat.add .binary32 (.zero s) (.zero t)) = 0 := by
      cases s <;> cases t <;> rfl
    refine ⟨by cases s <;> cases t <;> rfl, by cases s <;> cases t <;> trivial, ?_⟩
    rw [zero]
    exact Rounds.refl 0
  | .zero s, .finite .. =>
    refine ⟨rfl, second, ?_⟩
    rw [show units (.zero s) = 0 from rfl, zero_add]
    exact Rounds.refl _
  | .finite .., .zero t =>
    refine ⟨rfl, first, ?_⟩
    rw [show units (.zero t) = 0 from rfl, add_zero]
    exact Rounds.refl _
  | .finite s m e _, .finite t n f _ =>
    have low : -149 ≤ min e f := le_min first.2.1 second.2.1
    have sum := normalize_spec (s.apply (m <<< (e - min e f).toNat : ℕ) +
      t.apply (n <<< (f - min e f).toNat : ℕ)) low .positive
    rwa [add_mul, ← units_shift s m low (min_le_left e f), ← units_shift t n low (min_le_right e f)]
      at sum

theorem sub_eq_add (u v : UnpackedFloat) :
    UnpackedFloat.sub .binary32 u v = UnpackedFloat.add .binary32 u v.neg := by
  cases u with
  | notANumber => cases v <;> rfl
  | infinity s =>
    cases v with
    | infinity t => cases s <;> cases t <;> rfl
    | _ => rfl
  | zero s =>
    cases v with
    | zero t => cases s <;> cases t <;> rfl
    | _ => rfl
  | finite s m e =>
    cases v with
    | finite t n f =>
      have opposite (z : ℤ) : (-t).apply z = -t.apply z := by
        cases t
        · exact (neg_neg z).symm
        · rfl
      simp only [UnpackedFloat.sub, UnpackedFloat.add, UnpackedFloat.neg, opposite, sub_eq_add_neg]
    | _ => rfl

theorem units_neg (u : UnpackedFloat) : units u.neg = -units u := by
  cases u with
  | finite sign =>
    cases sign
    · exact (neg_neg _).symm
    · rfl
  | _ => rfl

theorem sub_spec {u v : UnpackedFloat} (left : u.isFinite = true) (right : v.isFinite = true)
    (first : Canonical u) (second : Canonical v) :
    (UnpackedFloat.sub .binary32 u v).isFinite = true ∧
      Canonical (UnpackedFloat.sub .binary32 u v) ∧
      Rounds (units u - units v : ℤ) (units (UnpackedFloat.sub .binary32 u v)) := by
  have canonical : Canonical v.neg := by cases v <;> exact second
  have finite : v.neg.isFinite = true := by cases v <;> exact right
  rw [sub_eq_add, sub_eq_add_neg, ← units_neg]
  exact add_spec left finite first canonical

theorem div_eq {n : ℕ} {f : ℤ} (s t : Sign) (numerator : 0 < m) (denominator : 0 < n) :
    ∃ (k : ℕ) (g : ℤ), g + k = e - f ∧ (23 ≤ (m <<< k / n).log2 ∨ g ≤ -149) ∧
      UnpackedFloat.div .binary32 (.finite s m e numerator) (.finite t n f denominator) =
        roundWithAccuracy .binary32 (s / t) (m <<< k / n) g
          (accuracyOfFraction (m <<< k % n) n) := by
  have target : Format.binary32.targetExponent (totalExponent m e - totalExponent n f) =
      max (m.log2 + e - n.log2 - f - 24) (-149) := by
    have bits : (Format.binary32.mantissaBits : ℤ) = 24 := rfl
    have least : Format.binary32.minExponent = -149 := rfl
    rw [Format.targetExponent, totalExponent, totalExponent, bits, least]
    congr 1
    ring
  obtain ⟨g, chosen⟩ : ∃ g, g = min (e - f) (max (m.log2 + e - n.log2 - f - 24) (-149)) := ⟨_, rfl⟩
  refine ⟨(e - f - g).toNat, g, by omega, ?_, ?_⟩
  · by_cases least : g ≤ -149
    · exact .inr least
    left
    have digits : n.log2 + 24 ≤ (m <<< (e - f - g).toNat).log2 := by
      rw [Nat.shiftLeft_eq, log2_mul_two_pow numerator]
      omega
    have shifted : m <<< (e - f - g).toNat ≠ 0 := by
      intro zero
      rw [zero] at digits
      simp at digits
    have large : 2 ^ 23 * n ≤ m <<< (e - f - g).toNat :=
      calc 2 ^ 23 * n ≤ 2 ^ 23 * 2 ^ (n.log2 + 1) := Nat.mul_le_mul_left _ Nat.lt_log2_self.le
        _ = 2 ^ (n.log2 + 24) := by rw [← pow_add]; congr 1; omega
        _ ≤ m <<< (e - f - g).toNat := (Nat.le_log2 shifted).mp digits
    have quotient : 2 ^ 23 ≤ m <<< (e - f - g).toNat / n :=
      (Nat.le_div_iff_mul_le denominator).mpr large
    exact (Nat.le_log2 (by omega)).mpr quotient
  · rw [UnpackedFloat.div, divCore, target, ← chosen]

theorem div_spec {u v : UnpackedFloat} (left : u.isFinite = true) (right : v.isFinite = true)
    (first : Canonical u) (second : Canonical v) (divides : units v ≠ 0) :
    (UnpackedFloat.div .binary32 u v).isFinite = true ∧
      Canonical (UnpackedFloat.div .binary32 u v) ∧
      Rounds (units u / units v * 2 ^ 149) (units (UnpackedFloat.div .binary32 u v)) := by
  match u, v with
  | _, .zero _ => exact absurd rfl divides
  | .zero s, .finite t n f _ =>
    refine ⟨rfl, trivial, ?_⟩
    rw [show units (.zero s) = 0 from rfl, Int.cast_zero, zero_div, zero_mul]
    exact Rounds.refl 0
  | .finite s m e numerator, .finite t n f denominator =>
    obtain ⟨k, g, shift, enough, quotient⟩ := div_eq (e := e) (f := f) s t numerator denominator
    obtain ⟨finite, canonical, z, value, rounds⟩ :=
      (truncates_div (m <<< k) denominator).rounds enough (s / t)
    have exact : ((m <<< k : ℕ) : ℚ) / n * 2 ^ (g + 149) =
        m * 2 ^ (e + 149) / (n * 2 ^ (f + 149)) * 2 ^ 149 := by
      have powers : (2 : ℚ) ^ k * 2 ^ (g + 149) * 2 ^ (f + 149) = 2 ^ (e + 149) * 2 ^ 149 := by
        rw [← zpow_natCast, ← zpow_natCast (2 : ℚ) 149, ← zpow_add₀ two_ne_zero,
          ← zpow_add₀ two_ne_zero, ← zpow_add₀ two_ne_zero]
        congr 1
        push_cast
        linarith
      have power : (2 : ℚ) ^ (f + 149) ≠ 0 := zpow_ne_zero _ two_ne_zero
      have divisor : (n : ℚ) ≠ 0 := by exact_mod_cast denominator.ne'
      rw [Nat.shiftLeft_eq]
      push_cast
      field_simp
      linear_combination powers
    rw [quotient]
    refine ⟨finite, canonical, ?_⟩
    rw [value, cast_units first.2.1, cast_units second.2.1]
    rw [exact] at rounds
    cases s <;> cases t <;> simp only [Sign.apply, Int.cast_neg, neg_mul, div_neg, neg_div, neg_neg]
    · exact rounds
    · exact rounds.neg
    · exact rounds.neg
    · exact rounds

theorem isNaN_sub {u : UnpackedFloat} (finite : u.isFinite = true) (v : UnpackedFloat) :
    (UnpackedFloat.sub .binary32 v u).isNaN = v.isNaN := by
  have number : u.neg.isNaN = false ∧ u.neg.isInf = false := by
    match u, finite with
    | .zero _, _ | .finite .., _ => exact ⟨rfl, rfl⟩
  rw [sub_eq_add, isNaN_add, number.1, number.2, Bool.or_false, Bool.and_false, Bool.false_and,
    Bool.or_false]

theorem isNaN_div (u : UnpackedFloat) {v : UnpackedFloat} (finite : v.isFinite = true)
    (divides : units v ≠ 0) : (UnpackedFloat.div .binary32 u v).isNaN = u.isNaN := by
  match u, v with
  | _, .zero _ => exact absurd rfl divides
  | .notANumber, .finite .. | .infinity _, .finite .. | .zero _, .finite .. => rfl
  | .finite .., .finite .. => exact isNaN_roundWithAccuracy ..

end Unpacked

namespace Sample

variable {x y : Sample} {w : ℚ} {sign : Sign}

def units (x : Sample) : ℤ := Unpacked.units x.toModel.unpack

theorem canonical (x : Sample) : Unpacked.Canonical x.toModel.unpack :=
  (Unpacked.canonical_unpack _).1

theorem abs_units_lt (x : Sample) : |x.units| < Unpacked.ceiling := (Unpacked.canonical_unpack _).2

theorem short_units (x : Sample) : Unpacked.Short x.units := by
  have canonical := x.canonical
  rw [units]
  match x.toModel.unpack, canonical with
  | .notANumber, _ | .infinity _, _ | .zero _, _ =>
    exact Unpacked.short_zero
  | .finite sign m e positive, canonical =>
    refine ⟨sign.apply m, (e + 149).toNat, ?_, ?_⟩
    · have few : (m : ℤ) < 2 ^ 24 := by exact_mod_cast canonical.1
      cases sign
      · exact (abs_neg (m : ℤ)).trans_lt (by rwa [Nat.abs_cast])
      · exact (Nat.abs_cast m).trans_lt few
    · cases sign
      · exact (neg_mul _ _).symm
      · rfl

theorem le_iff_units (left : x.isFinite = true) (right : y.isFinite = true) :
    x ≤ y ↔ x.units ≤ y.units :=
  le_iff.trans (Unpacked.le_iff_units left right x.canonical y.canonical)

theorem of_stored {u : UnpackedFloat}
    (stored : x.toModel.unpack = unpack .binary32 (pack .binary32 u))
    (finite : u.isFinite = true) (canonical : Unpacked.Canonical u)
    (rounds : Unpacked.Rounds w (Unpacked.units u)) (bound : Sample)
    (within : |w| ≤ |bound.units|) :
    x.isFinite = true ∧ Unpacked.Rounds w x.units := by
  have short : Unpacked.Short |bound.units| := by
    rcases abs_choice bound.units with same | same <;> rw [same]
    · exact bound.short_units
    · exact bound.short_units.neg
  obtain ⟨below, above⟩ := abs_le.mp within
  have low := rounds.ge short.neg (by exact_mod_cast below)
  have high := rounds.le short (by exact_mod_cast above)
  have bounded : |Unpacked.units u| < Unpacked.ceiling :=
    (abs_le.mpr ⟨low, high⟩).trans_lt bound.abs_units_lt
  rw [Unpacked.unpack_pack canonical bounded] at stored
  refine ⟨?_, ?_⟩
  · change x.toModel.unpack.isFinite = true
    rwa [stored]
  · rwa [units, stored]

theorem add_spec (left : x.isFinite = true) (right : y.isFinite = true) (bound : Sample)
    (within : |x.units + y.units| ≤ |bound.units|) :
    (x + y).isFinite = true ∧ Unpacked.Rounds (x.units + y.units : ℤ) (x + y).units := by
  obtain ⟨finite, canonical, rounds⟩ := Unpacked.add_spec left right x.canonical y.canonical
  exact of_stored rfl finite canonical rounds bound (by exact_mod_cast within)

theorem sub_spec (left : x.isFinite = true) (right : y.isFinite = true) (bound : Sample)
    (within : |x.units - y.units| ≤ |bound.units|) :
    (x - y).isFinite = true ∧ Unpacked.Rounds (x.units - y.units : ℤ) (x - y).units := by
  obtain ⟨finite, canonical, rounds⟩ := Unpacked.sub_spec left right x.canonical y.canonical
  exact of_stored rfl finite canonical rounds bound (by exact_mod_cast within)

theorem div_spec (left : x.isFinite = true) (right : y.isFinite = true) (divides : y.units ≠ 0)
    (bound : Sample) (within : |(x.units / y.units * 2 ^ 149 : ℚ)| ≤ |bound.units|) :
    (x / y).isFinite = true ∧ Unpacked.Rounds (x.units / y.units * 2 ^ 149) (x / y).units := by
  obtain ⟨finite, canonical, rounds⟩ :=
    Unpacked.div_spec left right x.canonical y.canonical divides
  exact of_stored rfl finite canonical rounds bound (by exact_mod_cast within)

theorem toFloat32_spec (n : UInt32) : n.toFloat32.isFinite = true ∧
    Unpacked.Rounds (n.toNat * 2 ^ 149 : ℤ) (units n.toFloat32) := by
  obtain ⟨finite, canonical, rounds⟩ :=
    Unpacked.normalize_spec n.toNat (by decide : (-149 : ℤ) ≤ 0) .positive
  have shift : (0 + 149 : ℤ).toNat = 149 := rfl
  rw [shift] at rounds
  have bound : units (.ofBits 0x4f800000) = 2 ^ 32 * 2 ^ 149 := by decide +kernel
  refine of_stored rfl finite canonical rounds (.ofBits 0x4f800000) ?_
  have most : (n.toNat : ℤ) ≤ 2 ^ 32 := by exact_mod_cast n.toNat_lt.le
  have nonneg : (0 : ℤ) ≤ n.toNat * 2 ^ 149 := mul_nonneg (Int.natCast_nonneg _) (by decide)
  rw [bound]
  exact_mod_cast abs_le_abs_of_nonneg nonneg (mul_le_mul_of_nonneg_right most (by decide))

theorem units_toFloat32 {n : UInt32} (few : n.toNat < 2 ^ 24) :
    units n.toFloat32 = n.toNat * 2 ^ 149 := by
  refine (toFloat32_spec n).2.eq_of_short ⟨n.toNat, 149, ?_, rfl⟩
  rw [Nat.abs_cast]
  exact_mod_cast few

theorem units_toFloat32_pos {n : UInt32} (some : 0 < n.toNat) : 0 < units n.toFloat32 := by
  have least : (2 : ℤ) ^ 149 ≤ units n.toFloat32 := by
    refine (toFloat32_spec n).2.ge ⟨1, 149, by decide, (one_mul _).symm⟩ ?_
    have bound : (1 : ℤ) * 2 ^ 149 ≤ n.toNat * 2 ^ 149 := by gcongr; exact_mod_cast some
    rw [one_mul] at bound
    exact_mod_cast bound
  exact lt_of_lt_of_le (by positivity) least

theorem div_toFloat32_spec (finite : x.isFinite = true) {n : UInt32} (some : 0 < n.toNat)
    (few : n.toNat < 2 ^ 24) : (x / n.toFloat32).isFinite = true ∧
      Unpacked.Rounds (x.units / n.toNat) (x / n.toFloat32).units := by
  have quotient : (x.units / units n.toFloat32 * 2 ^ 149 : ℚ) = x.units / n.toNat := by
    rw [units_toFloat32 few, Int.cast_mul, Int.cast_natCast, Int.cast_pow, Int.cast_ofNat,
      div_mul_eq_mul_div, mul_div_mul_right _ _ (by positivity)]
  have divisor : (1 : ℚ) ≤ n.toNat := by exact_mod_cast some
  have spec := div_spec finite (toFloat32_spec n).1 (units_toFloat32_pos some).ne' x (by
    rw [quotient, abs_div, Nat.abs_cast, Int.cast_abs]
    exact div_le_self (abs_nonneg _) divisor)
  rwa [quotient] at spec

theorem isFinite_or_infinity (number : x.isNaN = false) :
    x.isFinite = true ∨ ∃ sign, x.toModel.unpack = .infinity sign := by
  change x.toModel.unpack.isNaN = false at number
  change x.toModel.unpack.isFinite = true ∨ _
  match x.toModel.unpack, number with
  | .infinity sign, _ => exact .inr ⟨sign, rfl⟩
  | .zero _, _ | .finite .., _ => exact .inl rfl

theorem add_infinity (infinite : y.toModel.unpack = .infinity sign)
    (along : x.isFinite = true ∨ x.toModel.unpack = .infinity sign) :
    (x + y).toModel.unpack = .infinity sign := by
  have sum : UnpackedFloat.add .binary32 x.toModel.unpack (.infinity sign) = .infinity sign := by
    change x.toModel.unpack.isFinite = true ∨ _ at along
    match x.toModel.unpack, along with
    | .zero _, _ | .finite .., _ => rfl
    | .infinity _, .inr rfl => cases sign <;> rfl
  change unpack .binary32 (pack .binary32
    (UnpackedFloat.add .binary32 x.toModel.unpack y.toModel.unpack)) = _
  rw [infinite, sum]
  cases sign <;> rfl

theorem isNaN_add_opposite (one : x.toModel.unpack = .infinity sign)
    (other : y.toModel.unpack = .infinity (-sign)) : (x + y).isNaN = true := by
  refine (Unpacked.isNaN_unpack_pack _).trans ?_
  rw [one, other]
  cases sign <;> rfl

theorem sub_infinity (infinite : x.toModel.unpack = .infinity sign) (y : Sample) :
    (y - x).isNaN = true ∨ (y - x).toModel.unpack = .infinity (-sign) := by
  have way : (UnpackedFloat.sub .binary32 y.toModel.unpack (.infinity sign)).isNaN = true ∨
      UnpackedFloat.sub .binary32 y.toModel.unpack (.infinity sign) = .infinity (-sign) := by
    match y.toModel.unpack with
    | .notANumber => exact .inl rfl
    | .zero _ | .finite .. => exact .inr rfl
    | .infinity other =>
      cases other <;> cases sign
      · exact .inl rfl
      · exact .inr rfl
      · exact .inr rfl
      · exact .inl rfl
  rcases way with none | far
  · refine .inl ((Unpacked.isNaN_unpack_pack _).trans ?_)
    rwa [infinite]
  · right
    change unpack .binary32 (pack .binary32
      (UnpackedFloat.sub .binary32 y.toModel.unpack x.toModel.unpack)) = _
    rw [infinite, far]
    cases sign <;> rfl

theorem div_infinity (infinite : x.toModel.unpack = .infinity sign) {n : UInt32}
    (some : 0 < n.toNat) : (x / n.toFloat32).toModel.unpack = .infinity sign := by
  have quotient : UnpackedFloat.div .binary32 (.infinity sign) n.toFloat32.toModel.unpack =
      .infinity sign := by
    have positive := units_toFloat32_pos some
    have finite := (toFloat32_spec n).1
    change n.toFloat32.toModel.unpack.isFinite = true at finite
    rw [units] at positive
    match n.toFloat32.toModel.unpack, finite, positive with
    | .finite .positive .., _, _ => cases sign <;> rfl
    | .finite .negative _ _ worth, _, positive =>
      exact absurd positive (Unpacked.units_negative worth).not_gt
  change unpack .binary32 (pack .binary32
    (UnpackedFloat.div .binary32 x.toModel.unpack n.toFloat32.toModel.unpack)) = _
  rw [infinite, quotient]
  cases sign <;> rfl

theorem isNaN_sub (finite : x.isFinite = true) (y : Sample) : (y - x).isNaN = y.isNaN :=
  (Unpacked.isNaN_unpack_pack _).trans (Unpacked.isNaN_sub finite _)

theorem isNaN_div_toFloat32 (x : Sample) {n : UInt32} (some : 0 < n.toNat) :
    (x / n.toFloat32).isNaN = x.isNaN :=
  (Unpacked.isNaN_unpack_pack _).trans
    (Unpacked.isNaN_div _ (toFloat32_spec n).1 (units_toFloat32_pos some).ne')

end Sample

end SharedAudio

import SharedAudio.Proofs.Sample.Arithmetic

namespace SharedAudio

open Float.Model (UnpackedFloat)
open Float.Model.UnpackedFloat

namespace Unpacked

variable {u v : UnpackedFloat}

def Nonneg : UnpackedFloat → Prop
  | .notANumber | .infinity .negative | .finite .negative .. => False
  | _ => True

theorem Nonneg.cases (h : Nonneg u) : u.isFinite = true ∨ u = .infinity .positive := by
  match u, h with
  | .infinity .positive, _ => exact .inr rfl
  | .zero _, _ | .finite .positive .., _ => exact .inl rfl

theorem Nonneg.of_pos (h : (UnpackedFloat.zero .positive).lt u = true) : Nonneg u := by
  match u, h with
  | .infinity .positive, _ | .finite .positive .., _ => trivial

theorem nonneg_iff_units (finite : u.isFinite = true) : Nonneg u ↔ 0 ≤ units u := by
  match u with
  | .zero _ => exact iff_of_true trivial le_rfl
  | .finite .positive _ _ worth => exact iff_of_true trivial (units_positive worth).le
  | .finite .negative _ _ worth => exact iff_of_false id (units_negative worth).not_ge

theorem Nonneg.unpack_pack (h : Nonneg u) : Nonneg (unpack .binary32 (pack .binary32 u)) := by
  have number (exponent : BitVec 8) (mantissa : BitVec 23) (small : exponent ≠ -1#8) :
      Nonneg (unpack .binary32 (packComponents .binary32 .positive exponent mantissa)) := by
    rw [unpack]
    simp only [unpackExponent_packComponents, unpackMantissa_packComponents,
      unpackSign_packComponents, if_neg small]
    split
    · split <;> trivial
    · trivial
  match u, h with
  | .infinity .positive, _ => trivial
  | .zero sign, _ => cases sign <;> trivial
  | .finite .positive m e positive, _ =>
    rw [pack]
    dsimp only
    split
    next => trivial
    next fits =>
      split
      next =>
        refine number _ _ fun full => ?_
        have field := congrArg BitVec.toNat full
        rw [BitVec.toNat_ofNat, Nat.mod_eq_of_lt (by omega)] at field
        exact fits (by rw [field]; decide)
      next => exact number _ _ (by decide)

theorem Nonneg.add (left : Nonneg u) (right : Nonneg v) (first : Canonical u)
    (second : Canonical v) : Nonneg (UnpackedFloat.add .binary32 u v) := by
  rcases left.cases with finite | rfl
  · rcases right.cases with other | rfl
    · obtain ⟨sum, -, rounds⟩ := add_spec finite other first second
      refine (nonneg_iff_units sum).mpr (rounds.ge short_zero ?_)
      have both :=
        add_nonneg ((nonneg_iff_units finite).mp left) ((nonneg_iff_units other).mp right)
      exact_mod_cast both
    · cases u <;> trivial
  · cases v with
    | infinity sign => cases sign <;> trivial
    | notANumber => exact right
    | _ => trivial

theorem Nonneg.sub (right : Nonneg v) (finite : u.isFinite = true) (first : Canonical u)
    (second : Canonical v) (ordered : v.isFinite = true → units u ≤ units v) :
    Nonneg (UnpackedFloat.sub .binary32 v u) := by
  rcases right.cases with other | rfl
  · obtain ⟨difference, -, rounds⟩ := sub_spec other finite second first
    refine (nonneg_iff_units difference).mpr (rounds.ge short_zero ?_)
    exact_mod_cast sub_nonneg.mpr (ordered other)
  · cases u <;> trivial

theorem Nonneg.div (left : Nonneg u) (finite : v.isFinite = true) (first : Canonical u)
    (second : Canonical v) (positive : 0 < units v) : Nonneg (UnpackedFloat.div .binary32 u v) := by
  rcases left.cases with number | rfl
  · obtain ⟨quotient, -, rounds⟩ := div_spec number finite first second positive.ne'
    refine (nonneg_iff_units quotient).mpr (rounds.ge short_zero ?_)
    have numerator : (0 : ℚ) ≤ units u := by exact_mod_cast (nonneg_iff_units number).mp left
    have denominator : (0 : ℚ) < units v := by exact_mod_cast positive
    rw [Int.cast_zero]
    positivity
  · have sign : Nonneg v := (nonneg_iff_units finite).mpr positive.le
    match v, sign, finite with
    | .finite .positive .., _, _ => trivial
    | .zero _, _, _ => exact absurd positive (lt_irrefl 0)

end Unpacked

namespace Sample

variable {x y : Sample}

def IsGain (x : Sample) : Prop := x.isNaN = false ∧ ¬ x < 0

theorem isGain_iff : x.IsGain ↔ Unpacked.Nonneg x.toModel.unpack := by
  have below : x < 0 ↔ x.toModel.unpack.lt (.zero .positive) = true := lt_iff
  change x.toModel.unpack.isNaN = false ∧ _ ↔ _
  rw [below]
  match x.toModel.unpack with
  | .notANumber => exact iff_of_false (fun h => Bool.noConfusion h.1) id
  | .infinity .negative | .finite .negative .. => exact iff_of_false (fun h => h.2 rfl) id
  | .infinity .positive | .finite .positive .. | .zero _ =>
    exact iff_of_true ⟨rfl, Bool.false_ne_true⟩ trivial

theorem isGain_iff_units (finite : x.isFinite = true) : x.IsGain ↔ 0 ≤ x.units :=
  isGain_iff.trans (Unpacked.nonneg_iff_units finite)

theorem isGain_positivePart (x : Sample) : (positivePart x).IsGain := by
  rw [positivePart]
  split
  next above => exact isGain_iff.mpr (.of_pos (lt_iff.mp above))
  next => exact isGain_iff.mpr trivial

theorem IsGain.cases (h : x.IsGain) :
    x.toModel.unpack = .infinity .positive ∨ x.isFinite = true ∧ 0 ≤ x.units := by
  rcases (isGain_iff.mp h).cases with finite | infinite
  · exact .inr ⟨finite, (isGain_iff_units finite).mp h⟩
  · exact .inl infinite

theorem le_of_infinite (finite : x.isFinite = true)
    (infinite : y.toModel.unpack = .infinity .positive) : x ≤ y := by
  rw [le_iff, infinite]
  change x.toModel.unpack.isFinite = true at finite
  match x.toModel.unpack, finite with
  | .zero _, _ | .finite .., _ => rfl

theorem IsGain.add (left : x.IsGain) (right : y.IsGain) : (x + y).IsGain :=
  isGain_iff.mpr
    ((isGain_iff.mp left).add (isGain_iff.mp right) x.canonical y.canonical).unpack_pack

theorem IsGain.sub (right : y.IsGain) (finite : x.isFinite = true) (le : x ≤ y) : (y - x).IsGain :=
  isGain_iff.mpr ((isGain_iff.mp right).sub finite x.canonical y.canonical
    fun other => (le_iff_units finite other).mp le).unpack_pack

theorem IsGain.div {n : UInt32} (left : x.IsGain) (some : 0 < n.toNat) :
    (x / n.toFloat32).IsGain :=
  isGain_iff.mpr ((isGain_iff.mp left).div (toFloat32_spec n).1 x.canonical
    (canonical n.toFloat32) (units_toFloat32_pos some)).unpack_pack

end Sample

end SharedAudio

import Mathlib
import SharedAudio.Sample

namespace SharedAudio

open Float.Model (Format UnpackedFloat)
open Float.Model.UnpackedFloat

namespace Unpacked

variable {spec : Format} {u v : UnpackedFloat}

theorem isNaN_roundWithAccuracy (sign : Sign) (mantissa : Nat) (exponent : Int)
    (accuracy : Accuracy) :
    (roundWithAccuracy spec sign mantissa exponent accuracy).isNaN = false := by
  rw [roundWithAccuracy]
  dsimp only
  split <;> rfl

theorem isNaN_normalize (mantissa exponent : Int) (zero : Sign) :
    (UnpackedFloat.normalize spec mantissa exponent zero).isNaN = false := by
  rw [UnpackedFloat.normalize]
  split
  · exact isNaN_roundWithAccuracy ..
  · rfl
  · exact isNaN_roundWithAccuracy ..

theorem isNaN_unpack_packComponents {sign : Sign} {exponent : BitVec spec.exponentBits}
    {mantissa : BitVec spec.mantissaBitsWithoutImplicit} (small : exponent ≠ -1#_) :
    (unpack spec (packComponents spec sign exponent mantissa)).isNaN = false := by
  rw [unpack]
  simp only [unpackExponent_packComponents, if_neg small]
  split
  · split <;> rfl
  · rfl

theorem isNaN_unpack_pack (u : UnpackedFloat) :
    (unpack .binary32 (pack .binary32 u)).isNaN = u.isNaN := by
  cases u with
  | notANumber => rfl
  | infinity sign => cases sign <;> rfl
  | zero sign => cases sign <;> rfl
  | finite sign mantissa exponent positive =>
    rw [pack]
    dsimp only
    split
    next => cases sign <;> rfl
    next fits =>
      split
      next =>
        refine isNaN_unpack_packComponents fun full => ?_
        have field := congrArg BitVec.toNat full
        rw [BitVec.toNat_ofNat, Nat.mod_eq_of_lt (by omega)] at field
        exact fits (by rw [field]; decide)
      next => exact isNaN_unpack_packComponents (by decide)

theorem isNaN_add (u v : UnpackedFloat) : (UnpackedFloat.add spec u v).isNaN =
    (u.isNaN || v.isNaN || (u.isInf && v.isInf && !u.beq v)) := by
  cases u with
  | notANumber => rfl
  | infinity sign =>
    cases v with
    | infinity other => cases sign <;> cases other <;> rfl
    | _ => rfl
  | zero sign =>
    cases v with
    | zero other => cases sign <;> cases other <;> rfl
    | _ => rfl
  | finite =>
    cases v with
    | finite => exact isNaN_normalize ..
    | _ => rfl

theorem isNaN_mul (u v : UnpackedFloat) : (UnpackedFloat.mul spec u v).isNaN =
    (u.isNaN || v.isNaN || (u.isInf && v.beq (.zero .positive)) ||
      (u.beq (.zero .positive) && v.isInf)) := by
  cases u with
  | notANumber => rfl
  | infinity sign =>
    cases v with
    | infinity other | finite other => cases sign <;> cases other <;> rfl
    | _ => cases sign <;> rfl
  | zero sign =>
    cases v with
    | infinity other | finite other => cases sign <;> cases other <;> rfl
    | _ => rfl
  | finite sign =>
    cases v with
    | finite other =>
      rw [UnpackedFloat.mul, isNaN_roundWithAccuracy]
      cases sign <;> cases other <;> rfl
    | _ => cases sign <;> rfl

theorem compare_swap (u v : UnpackedFloat) : v.compare u = (u.compare v).map Ordering.swap := by
  have signs (s t : Sign) : compare t s = (compare s t).swap := by cases s <;> cases t <;> rfl
  have magnitudes (e f : Int) (m n : Nat) : (compare f e).then (compare n m) =
      ((compare e f).then (compare m n)).swap := by
    rw [Ordering.swap_then, ← Std.OrientedCmp.eq_swap, ← Std.OrientedCmp.eq_swap]
  cases u with
  | notANumber => cases v <;> rfl
  | infinity s =>
    cases v with
    | infinity t => exact congrArg some (signs s t)
    | _ => cases s <;> rfl
  | zero s =>
    cases v with
    | infinity t | finite t => cases t <;> rfl
    | _ => rfl
  | finite s m e =>
    cases v with
    | finite t n f =>
      cases s <;> cases t
      · exact congrArg (some ·.swap) (magnitudes e f m n)
      · rfl
      · rfl
      · exact congrArg some (magnitudes e f m n)
    | infinity t => cases t <;> rfl
    | _ => cases s <;> rfl

theorem compare_eq_none_iff : u.compare v = none ↔ u.isNaN = true ∨ v.isNaN = true := by
  cases u with
  | notANumber => cases v <;> simp [UnpackedFloat.compare, UnpackedFloat.isNaN]
  | infinity s | zero s | finite s =>
    cases v with
    | notANumber => simp [UnpackedFloat.compare, UnpackedFloat.isNaN]
    | infinity t | zero t | finite t =>
      cases s <;> cases t <;> simp [UnpackedFloat.compare, UnpackedFloat.isNaN]

theorem le_of_not_lt (left : u.isNaN = false) (right : v.isNaN = false) (h : u.lt v = false) :
    v.le u = true := by
  rw [UnpackedFloat.le, compare_swap]
  rw [UnpackedFloat.lt] at h
  cases result : u.compare v with
  | none =>
    rw [compare_eq_none_iff, left, right] at result
    rcases result with none | none <;> cases none
  | some order =>
    rw [result] at h
    cases order <;> simp_all

end Unpacked

namespace Sample

variable {x y gain : Sample}

theorem lt_iff : x < y ↔ x.toModel.unpack.lt y.toModel.unpack = true := decide_eq_true_iff

theorem le_iff : x ≤ y ↔ x.toModel.unpack.le y.toModel.unpack = true := decide_eq_true_iff

theorem le_of_not_lt (left : x.isNaN = false) (right : y.isNaN = false) (h : ¬ x < y) : y ≤ x :=
  le_iff.mpr (Unpacked.le_of_not_lt left right (by simpa [lt_iff] using h))

theorem not_lt_of_isNaN (h : x.isNaN = true ∨ y.isNaN = true) : ¬ x < y := by
  rw [lt_iff, UnpackedFloat.lt, Unpacked.compare_eq_none_iff.mpr h]
  decide

theorem isNaN_add (x y : Sample) :
    (x + y).isNaN = (x.isNaN || y.isNaN || (x.isInf && y.isInf && x != y)) :=
  (Unpacked.isNaN_unpack_pack _).trans (Unpacked.isNaN_add _ _)

theorem isNaN_mul (x y : Sample) :
    (x * y).isNaN = (x.isNaN || y.isNaN || (x.isInf && y == 0) || (x == 0 && y.isInf)) :=
  (Unpacked.isNaN_unpack_pack _).trans (Unpacked.isNaN_mul _ _)

theorem isNaN_of_isFinite (h : x.isFinite = true) : x.isNaN = false := by
  change x.toModel.unpack.isFinite = true at h
  change x.toModel.unpack.isNaN = false
  cases unpacked : x.toModel.unpack with
  | notANumber => rw [unpacked] at h; cases h
  | infinity | zero | finite => rfl

theorem isInf_of_isFinite (h : x.isFinite = true) : x.isInf = false := by
  change x.toModel.unpack.isFinite = true at h
  change x.toModel.unpack.isInf = false
  cases unpacked : x.toModel.unpack with
  | infinity => rw [unpacked] at h; cases h
  | notANumber | zero | finite => rfl

theorem isFinite_of_beq_one (h : (gain == 1) = true) : gain.isFinite = true := by
  change gain.toModel.unpack.beq (.finite .positive (2 ^ 23) (-23) (by decide)) = true at h
  change gain.toModel.unpack.isFinite = true
  cases unpacked : gain.toModel.unpack with
  | notANumber => rw [unpacked] at h; cases h
  | infinity sign => rw [unpacked] at h; cases sign <;> cases h
  | zero | finite => rfl

theorem isNaN_scaled (finite : x.isFinite = true) :
    (scaled gain x).isNaN = (gain.isNaN || (gain.isInf && x == 0)) := by
  have number := isNaN_of_isFinite finite
  have bounded := isInf_of_isFinite finite
  rw [scaled]
  split
  next unit =>
    have kept := isFinite_of_beq_one unit
    rw [number, isNaN_of_isFinite kept, isInf_of_isFinite kept]
    rfl
  next =>
    rw [isNaN_mul, number, bounded, Bool.false_or, Bool.false_and, Bool.or_false, Bool.and_comm]

theorem isNaN_clip (x : Sample) : (clip x).isNaN = x.isNaN := by
  rw [clip]
  cases number : x.isNaN with
  | true =>
    rw [if_neg (not_lt_of_isNaN (.inl number)), if_neg (not_lt_of_isNaN (.inr number)), number]
  | false =>
    split
    · rfl
    · split
      · rfl
      · exact number

theorem clip_bounded (h : x.isNaN = false) : -1 ≤ clip x ∧ clip x ≤ 1 := by
  rw [clip]
  split
  next => decide
  next low =>
    split
    next => decide
    next high => exact ⟨le_of_not_lt h rfl low, le_of_not_lt rfl h high⟩

end Sample

end SharedAudio

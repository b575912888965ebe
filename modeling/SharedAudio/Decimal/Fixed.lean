import SharedAudio.Sample

namespace SharedAudio.Decimal

def roundDiv (num den : Nat) : Nat :=
  let quotient := num / den
  let rest := 2 * (num % den)
  if rest < den ∨ rest = den ∧ quotient % 2 = 0 then quotient else quotient + 1

structure Binary where
  negative : Bool
  significand : Nat
  exponent : Int
deriving DecidableEq, Repr

inductive Reading
  | finite (value : Binary)
  | infinite (negative : Bool)
  | undefined
deriving DecidableEq, Repr

def decode (x : Sample) : Reading :=
  let bits := x.toBits.toNat
  let negative := 0x80000000 ≤ bits
  let exponent : Nat := bits / 0x800000 % 0x100
  let fraction : Nat := bits % 0x800000
  if exponent = 255 then
    if fraction = 0 then .infinite negative else .undefined
  else if exponent = 0 then .finite ⟨negative, fraction, -149⟩
  else .finite ⟨negative, 0x800000 + fraction, (exponent : Int) - 150⟩

def Binary.units (b : Binary) (places : Nat) : Nat :=
  let scaled := b.significand * Nat.pow 10 places
  if 0 ≤ b.exponent then scaled <<< b.exponent.toNat
  else roundDiv scaled (1 <<< (-b.exponent).toNat)

def padLeft (width : Nat) (digits : String) : String :=
  "".pushn '0' (width - digits.length) ++ digits

def fixed (places : Nat) (x : Sample) : String :=
  match decode x with
  | .undefined => "NaN"
  | .infinite negative => if negative then "-inf" else "inf"
  | .finite b =>
    let units := b.units places
    let whole := Nat.pow 10 places
    let sign := if b.negative then "-" else ""
    s!"{sign}{units / whole}.{padLeft places (toString (units % whole))}"

theorem roundDiv_mul_sub_le {num den : Nat} (h : 0 < den) :
    2 * (num - roundDiv num den * den) ≤ den ∧ 2 * (roundDiv num den * den - num) ≤ den := by
  have split := Nat.div_add_mod' num den
  have bound := Nat.mod_lt num h
  simp only [roundDiv]
  split
  · rename_i near
    omega
  · rename_i far
    rw [Nat.add_mul]
    omega

end SharedAudio.Decimal

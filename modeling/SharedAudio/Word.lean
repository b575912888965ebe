import SharedAudio.Sample

namespace SharedAudio.Word

-- Sums and products of sizes are checked: a program that cannot count one panics.
def add? (a b : UInt64) : Option UInt64 :=
  if a.toNat + b.toNat < UInt64.size then some (a + b) else none

def mul? (a b : UInt64) : Option UInt64 :=
  if a.toNat * b.toNat < UInt64.size then some (a * b) else none

def maxBytes : Nat := 9223372036854775807

def samples? (a b : UInt64) : Option Nat := do
  let count ← mul? a b
  if 4 * count.toNat ≤ maxBytes then some count.toNat else none

theorem add?_eq_some {a b sum : UInt64} : add? a b = some sum ↔ sum.toNat = a.toNat + b.toNat := by
  unfold add?
  split
  next fits =>
    have exact : (a + b).toNat = a.toNat + b.toNat :=
      (UInt64.toNat_add a b).trans (Nat.mod_eq_of_lt fits)
    rw [Option.some_inj, ← UInt64.toNat_inj, exact, eq_comm]
  next large =>
    have bound := sum.toNat_lt
    simp only [reduceCtorEq, false_iff]
    rw [UInt64.size] at large
    omega

theorem mul?_eq_some {a b product : UInt64} :
    mul? a b = some product ↔ product.toNat = a.toNat * b.toNat := by
  unfold mul?
  split
  next fits =>
    have exact : (a * b).toNat = a.toNat * b.toNat :=
      (UInt64.toNat_mul a b).trans (Nat.mod_eq_of_lt fits)
    rw [Option.some_inj, ← UInt64.toNat_inj, exact, eq_comm]
  next large =>
    have bound := product.toNat_lt
    simp only [reduceCtorEq, false_iff]
    rw [UInt64.size] at large
    omega

theorem mul?_eq_none {a b : UInt64} : mul? a b = none ↔ UInt64.size ≤ a.toNat * b.toNat := by
  unfold mul?
  split <;> simp <;> omega

theorem add?_eq_none {a b : UInt64} : add? a b = none ↔ UInt64.size ≤ a.toNat + b.toNat := by
  unfold add?
  split <;> simp <;> omega

theorem samples?_eq_some {a b : UInt64} {n : Nat} :
    samples? a b = some n ↔ n = a.toNat * b.toNat ∧ 4 * n ≤ maxBytes := by
  unfold samples?
  cases product : mul? a b with
  | none =>
    have large := mul?_eq_none.mp product
    simp only [Option.bind_eq_bind, Option.bind_none, reduceCtorEq, false_iff, maxBytes]
    rw [UInt64.size] at large
    omega
  | some count =>
    rw [← mul?_eq_some.mp product]
    simp only [Option.bind_eq_bind, Option.bind_some]
    split
    next => simp only [Option.some_inj]; constructor <;> intro h <;> omega
    next => simp only [reduceCtorEq, false_iff]; omega

theorem samples?_eq_none {a b : UInt64} :
    samples? a b = none ↔ maxBytes < 4 * (a.toNat * b.toNat) := by
  rw [Option.eq_none_iff_forall_ne_some]
  constructor
  · intro none
    have := mt samples?_eq_some.mpr (none (a.toNat * b.toNat))
    simp only [true_and] at this
    omega
  · intro large n some
    obtain ⟨rfl, fits⟩ := samples?_eq_some.mp some
    omega

end SharedAudio.Word

namespace SharedAudio

-- Clusters end as in version 17 of Unicode, and characters take columns as in version 15.1.
abbrev Property := List (Nat × Nat)

def Property.has (p : Property) (c : Char) : Bool :=
  p.any fun (first, last) => first ≤ c.toNat && c.toNat ≤ last

theorem Property.has_iff {p : Property} {c : Char} :
    p.has c = true ↔ ∃ range ∈ p, range.1 ≤ c.toNat ∧ c.toNat ≤ range.2 := by
  simp [Property.has]

theorem Property.has_append (p q : Property) (c : Char) :
    Property.has (p ++ q) c = (p.has c || q.has c) := List.any_append

end SharedAudio

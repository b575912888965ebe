namespace SharedAudio

def isBlank (c : Char) : Bool :=
  let n := c.toNat
  (0x9 ≤ n && n ≤ 0xd) || n == 0x20 || n == 0x85 || n == 0xa0 || n == 0x1680 ||
    (0x2000 ≤ n && n ≤ 0x200a) || n == 0x2028 || n == 0x2029 || n == 0x202f || n == 0x205f ||
    n == 0x3000

def trimBlanks (text : List Char) : List Char :=
  ((text.dropWhile isBlank).reverse.dropWhile isBlank).reverse

theorem isBlank_of_isWhitespace {c : Char} (h : c.isWhitespace = true) : isBlank c = true := by
  simp only [Char.isWhitespace, Bool.or_eq_true, decide_eq_true_eq] at h
  rcases h with ((h | h) | h) | h <;> subst h <;> decide

theorem trimBlanks_eq_self {text : List Char} (h : ∀ c ∈ text, isBlank c = false) :
    trimBlanks text = text := by
  have stays (cs : List Char) (clean : ∀ c ∈ cs, isBlank c = false) :
      cs.dropWhile isBlank = cs := by
    cases cs with
    | nil => rfl
    | cons c cs => simp [clean c (by simp)]
  have clean : ∀ c ∈ text.reverse, isBlank c = false := by simpa using h
  rw [trimBlanks, stays text h, stays _ clean, List.reverse_reverse]

end SharedAudio

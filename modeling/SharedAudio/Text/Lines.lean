namespace SharedAudio

def splitLines : List Char → List (List Char)
  | [] => [[]]
  | c :: rest => if c = '\n' then [] :: splitLines rest else (splitLines rest).modifyHead (c :: ·)

def withoutReturn (line : List Char) : List Char :=
  if line.getLast? = some '\r' then line.dropLast else line

def linesOf (text : String) : List String :=
  (splitLines text.toList).map fun line => String.ofList (withoutReturn line)

theorem splitLines_ne_nil (text : List Char) : splitLines text ≠ [] := by
  induction text with
  | nil => simp [splitLines]
  | cons c rest ih => by_cases ends : c = '\n' <;> simp [splitLines, ends, ih]

theorem intercalate_splitLines (text : List Char) :
    ['\n'].intercalate (splitLines text) = text := by
  induction text with
  | nil => rfl
  | cons c rest ih =>
    cases divided : splitLines rest with
    | nil => exact absurd divided (splitLines_ne_nil rest)
    | cons line more =>
      rw [divided] at ih
      by_cases ends : c = '\n'
      · simpa [splitLines, ends, divided] using ih
      · cases more <;> simpa [splitLines, ends, divided] using ih

theorem not_mem_of_mem_splitLines (text : List Char) : ∀ line ∈ splitLines text, '\n' ∉ line := by
  induction text with
  | nil => simp [splitLines]
  | cons c rest ih =>
    by_cases ends : c = '\n'
    · simpa [splitLines, ends] using ih
    · cases divided : splitLines rest with
      | nil => simp [splitLines, ends, divided]
      | cons line more =>
        rw [divided] at ih
        simpa [splitLines, ends, divided, Ne.symm ends] using ih

end SharedAudio

import SharedAudio.Text.Glyph

namespace SharedAudio

abbrev Cell := List Char

def blankCell : Cell := [' ']

def cellsOf (text : String) : List Cell := text.toList.map fun c => [c]

def fitRow (width : Nat) (filler : Cell) (row : List Cell) : List Cell :=
  row.take width ++ List.replicate (width - row.length) filler

abbrev Strip := List (Option Cell)

def Strip.ofCells (width : Nat) (row : List Cell) : Strip := (row.take width).map some

def Glyph.strip (g : Glyph) : Strip :=
  ([some g.text, some blankCell] ++ List.replicate (g.columns - 2) none).take g.columns

def Strip.ofGlyphs (row : List Glyph) : Strip := row.flatMap Glyph.strip

def Strip.drawOn : Strip → List Cell → List Cell
  | some cell :: strip, _ :: row => cell :: drawOn strip row
  | none :: strip, cell :: row => cell :: drawOn strip row
  | [], row => row
  | _, [] => []

def chunks (width : Nat) (word : List Cell) : List (List Cell) :=
  if _h : width = 0 ∨ word.length ≤ width then [word]
  else word.take width :: chunks width (word.drop width)
termination_by word.length
decreasing_by
  simp only [List.length_drop]
  omega

@[simp] theorem length_fitRow (width : Nat) (filler : Cell) (row : List Cell) :
    (fitRow width filler row).length = width := by
  simp only [fitRow, List.length_append, List.length_take, List.length_replicate]
  omega

@[simp] theorem length_drawOn (strip : Strip) (row : List Cell) :
    (strip.drawOn row).length = row.length := by
  fun_induction Strip.drawOn strip row <;> simp_all

@[simp] theorem length_strip (g : Glyph) : g.strip.length = g.columns := by
  simp only [Glyph.strip, List.length_take, List.length_append, List.length_cons, List.length_nil,
    List.length_replicate]
  omega

theorem length_ofGlyphs (row : List Glyph) : (Strip.ofGlyphs row).length = columnsOf row := by
  induction row with
  | nil => rfl
  | cons g row ih => simpa [Strip.ofGlyphs, columnsOf] using ih

theorem flatten_chunks (width : Nat) (word : List Cell) : (chunks width word).flatten = word := by
  fun_induction chunks width word with
  | case1 word h => simp
  | case2 word h ih => simp [ih]

theorem length_le_of_mem_chunks {width : Nat} (positive : width ≠ 0) (word : List Cell) :
    ∀ part ∈ chunks width word, part.length ≤ width := by
  fun_induction chunks width word with
  | case1 word h =>
    intro part member
    rcases h with h | h
    · exact absurd h positive
    · simp_all
  | case2 word h ih =>
    intro part member
    rcases List.mem_cons.mp member with rfl | member
    · exact List.length_take_le width word
    · exact ih part member

end SharedAudio

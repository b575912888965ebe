import SharedAudio.Text.Glyph

namespace SharedAudio

structure Filling where
  full : List (List Glyph) := []
  line : List Glyph := []
  blanks : List Glyph := []
  word : List Glyph := []
  inWord : Bool := false

def dropFitting (room : Nat) : List Glyph → List Glyph
  | [] => []
  | g :: rest => if g.columns ≤ room then dropFitting (room - g.columns) rest else g :: rest

namespace Filling

def commit (f : Filling) : Filling :=
  { f with
    line := if f.line.isEmpty then f.word else f.line ++ f.blanks ++ f.word
    blanks := []
    word := [] }

def newLine (width : Nat) (f : Filling) : Filling :=
  { f with
    full := f.full ++ [f.line]
    line := []
    blanks := dropFitting (width - columnsOf f.line) f.blanks }

def append (f : Filling) (g : Glyph) : Filling :=
  if g.isBlank then { f with blanks := f.blanks ++ [g], inWord := false }
  else { f with word := f.word ++ [g], inWord := true }

def endsWord (width : Nat) (f : Filling) (g : Glyph) : Bool :=
  let exceeds (row : List Glyph) : Bool := width < columnsOf row + g.columns
  (f.inWord && g.isBlank) || (f.line.isEmpty && (exceeds f.word || exceeds f.blanks))

def ready (width : Nat) (f : Filling) (g : Glyph) : Filling :=
  if f.endsWord width g then f.commit else f

def isFull (width : Nat) (f : Filling) (g : Glyph) : Bool :=
  width ≤ columnsOf f.line ||
    (g.columns != 0 && width ≤ columnsOf f.line + columnsOf f.blanks + columnsOf f.word)

def put (width : Nat) (f : Filling) (g : Glyph) : Filling :=
  if width < g.columns then f
  else
    let f := f.ready width g
    if f.isFull width g then
      let f := f.newLine width
      if g.isBlank && f.blanks.isEmpty then f else f.append g
    else f.append g

def lines (f : Filling) : List (List Glyph) :=
  let last := f.commit.line
  if last.isEmpty && f.blanks.isEmpty && !f.full.isEmpty then f.full else f.full ++ [last]

end Filling

def wrap (width : Nat) (row : List Glyph) : List (List Glyph) :=
  if width = 0 then [] else (row.foldl (Filling.put width) {}).lines

theorem sublist_dropFitting (room : Nat) (row : List Glyph) :
    (dropFitting room row).Sublist row := by
  induction row generalizing room with
  | nil => exact .slnil
  | cons g rest ih =>
    by_cases fits : g.columns ≤ room
    · simpa [dropFitting, fits] using (ih (room - g.columns)).cons g
    · simp [dropFitting, fits]

namespace Filling

def kept (f : Filling) : List Glyph := f.full.flatten ++ f.line ++ f.blanks ++ f.word

def WordOpen (f : Filling) : Prop := f.word ≠ [] → f.inWord = true

theorem kept_commit (f : Filling) : f.commit.kept.Sublist f.kept := by
  by_cases empty : f.line = [] <;> simp [commit, kept, empty]

theorem kept_newLine (width : Nat) (f : Filling) : (f.newLine width).kept.Sublist f.kept := by
  simp [newLine, kept, sublist_dropFitting]

theorem kept_append {f : Filling} {g : Glyph} (alone : g.isBlank = true → f.word = []) :
    (f.append g).kept = f.kept ++ [g] := by
  by_cases blank : g.isBlank = true
  · simp [append, kept, blank, alone blank]
  · simp [append, kept, blank]

theorem wordOpen_append {f : Filling} {g : Glyph} (alone : g.isBlank = true → f.word = []) :
    (f.append g).WordOpen := by
  by_cases blank : g.isBlank = true
  · simp [append, WordOpen, blank, alone blank]
  · simp [append, WordOpen, blank]

theorem kept_ready (width : Nat) (f : Filling) (g : Glyph) :
    (f.ready width g).kept.Sublist f.kept := by
  unfold ready
  split
  · exact kept_commit f
  · exact .refl _

theorem wordOpen_ready (width : Nat) {f : Filling} {g : Glyph} (started : f.WordOpen) :
    (f.ready width g).WordOpen := by
  unfold ready
  split
  · simp [WordOpen, commit]
  · exact started

theorem word_ready_of_isBlank (width : Nat) {f : Filling} {g : Glyph} (started : f.WordOpen)
    (blank : g.isBlank = true) : (f.ready width g).word = [] := by
  unfold ready
  split
  · rfl
  · next goesOn =>
    by_cases empty : f.word = []
    · exact empty
    · simp [endsWord, started empty, blank] at goesOn

theorem wordOpen_put (width : Nat) {f : Filling} (g : Glyph) (started : f.WordOpen) :
    (f.put width g).WordOpen := by
  have alone := word_ready_of_isBlank width (g := g) started
  unfold put
  split
  · exact started
  · dsimp only
    split
    · split
      · exact wordOpen_ready width started
      · exact wordOpen_append alone
    · exact wordOpen_append alone

theorem kept_put (width : Nat) {f : Filling} (g : Glyph) (started : f.WordOpen) :
    (f.put width g).kept.Sublist (f.kept ++ [g]) := by
  have alone := word_ready_of_isBlank width (g := g) started
  have before := kept_ready width f g
  have broken := (kept_newLine width (f.ready width g)).trans before
  unfold put
  split
  · exact List.sublist_append_left f.kept [g]
  · dsimp only
    split
    · split
      · exact broken.trans (List.sublist_append_left f.kept [g])
      · rw [kept_append (by exact alone)]
        exact broken.append (.refl [g])
    · rw [kept_append alone]
      exact before.append (.refl [g])

theorem kept_foldl_put (width : Nat) (row : List Glyph) {f : Filling} (started : f.WordOpen) :
    (row.foldl (put width) f).kept.Sublist (f.kept ++ row) := by
  induction row generalizing f with
  | nil => simp
  | cons g rest ih =>
    have later := ih (wordOpen_put width g started)
    simpa using later.trans ((kept_put width g started).append (.refl rest))

theorem flatten_lines (f : Filling) : f.lines.flatten.Sublist f.kept := by
  have last : f.commit.kept = f.full.flatten ++ f.commit.line := by simp [kept, commit]
  unfold lines
  dsimp only
  split
  · simp [kept]
  · simpa [← last] using kept_commit f

end Filling

theorem flatten_wrap (width : Nat) (row : List Glyph) : (wrap width row).flatten.Sublist row := by
  unfold wrap
  split
  · simp
  · have filled := Filling.kept_foldl_put width row (f := {}) (by simp [Filling.WordOpen])
    exact (Filling.flatten_lines _).trans filled

example : wrap 5 (glyphs ['a', 'b', ' ', 'c', 'd', 'e']) =
    [glyphs ['a', 'b'], glyphs ['c', 'd', 'e']] := by
  decide +kernel

end SharedAudio

import SharedAudio.Text.Blank
import SharedAudio.Text.Cluster
import SharedAudio.Text.Property.Wide

namespace SharedAudio

def columns (c : Char) : Nat :=
  if c = '\n' then 0
  else if c.toNat ≤ 0xa0 then 1
  else if c = '\u17d8' then 3
  else if Property.unspaced.has c then 0
  else if Property.extend.has c && !Property.spacedExtend.has c then 0
  else if Property.wide.has c then 2
  else 1

def subscriptSign : Char := '\u17d2'

def isSubscript (before : List Char) (c : Char) : Bool :=
  Property.subscript.has c &&
    (before.dropWhile Property.transparent.has).head? == some subscriptSign

def textSelector : Char := '\ufe0e'

def emojiSelector : Char := '\ufe0f'

def keycap : Char := '\u20e3'

def blackFlag : Char := '🏴'

def cancelTag : Char := Char.ofNat 0xe007f

def isTextForm (c : Char) (rest : List Char) : Bool :=
  Property.presentationVariant.has c && !(0x1f200 ≤ c.toNat && c.toNat ≤ 0x1f2ff) &&
    rest.head? == some textSelector

def afterRegion? (text : List Char) : Option (List Char) :=
  let digits := (text.takeWhile Property.tagDigit.has).length
  let letters := ((text.drop digits).takeWhile Property.tagLetter.has).length
  let rest := text.drop (digits + letters)
  let complete := (digits = 0 ∧ 3 ≤ letters ∧ letters ≤ 6) ∨ (digits = 3 ∧ letters ≤ 4)
  if complete ∧ rest.head? = some cancelTag then some rest.tail else none

def afterPicture? : List Char → Option (List Char)
  | [] => none
  | c :: rest =>
    let selectable := Property.presentationVariant.has c || Property.textPresentation.has c
    if isTextForm c rest then none
    else if selectable && rest.head? == some emojiSelector then
      some (if rest.tail.head? = some keycap then rest.tail.tail else rest.tail)
    else if Property.emojiModifierBase.has c && rest.head?.any Property.emojiModifier.has then
      some rest.tail
    else if Property.regionalIndicator.has c && rest.head?.any Property.regionalIndicator.has then
      some rest.tail
    else if c = blackFlag then some ((afterRegion? rest).getD rest)
    else if Property.emojiPresentation.has c then some rest
    else none

def joinsPicture : List Char → Bool
  | c :: rest => c == zeroWidthJoiner && (afterPicture? rest).isSome
  | [] => false

def endsPair (before : List Char) (c : Char) : Bool :=
  Property.emojiModifier.has c && before.head?.any Property.emojiModifierBase.has ||
    Property.regionalIndicator.has c && before.head?.any Property.regionalIndicator.has

def columnsAfter (before : List Char) : List Char → Nat
  | [] => 0
  | c :: rest =>
    let here :=
      if c = '\r' ∧ rest.head? = some '\n' then 0
      else if endsPair before c then 0
      else if isTextForm c rest then 1
      else match afterPicture? (c :: rest) with
        | some behind => if joinsPicture behind then 0 else 2
        | none => if isSubscript before c then 0 else columns c
    here + columnsAfter (c :: before) rest

structure Glyph where
  text : List Char
  columns : Nat := columnsAfter [] text
  deriving DecidableEq, Repr

def Glyph.isBlank (g : Glyph) : Bool :=
  g.text == ['\u200b'] || (g.text.all SharedAudio.isBlank && g.text != ['\u00a0'])

def glyphs (text : List Char) : List Glyph :=
  ((clusters text).filter (· != ['\n'])).map fun cluster => { text := cluster }

def columnsOf : List Glyph → Nat
  | [] => 0
  | g :: row => g.columns + columnsOf row

example : (glyphs ['e', '\u0301', '日', '⚠', '\ufe0f']).map Glyph.columns = [1, 2, 2] := by
  decide +kernel

example : (glyphs ['ក', '\u17d2', 'ត', 'ក', '\u17d2', 'រ']).map Glyph.columns = [1, 2] := by
  decide +kernel

example : (glyphs ['🇩', '🇪', '\u200d', '🏽', '🇩', '🇪', '🇩']).map Glyph.columns = [2, 2, 1] := by
  decide +kernel

@[simp] theorem columnsOf_nil : columnsOf [] = 0 := rfl

@[simp] theorem columnsOf_append (row more : List Glyph) :
    columnsOf (row ++ more) = columnsOf row + columnsOf more := by
  induction row with
  | nil => simp
  | cons g row ih => rw [List.cons_append, columnsOf, ih, columnsOf, Nat.add_assoc]

end SharedAudio

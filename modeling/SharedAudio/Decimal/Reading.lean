import SharedAudio.Sample
import SharedAudio.Text.Digits

namespace SharedAudio.Decimal

def word? (text : List Char) : Option Sample :=
  let word := String.ofList (text.map Char.toLower)
  if word = "inf" ∨ word = "infinity" then some (Float32.ofBits 0x7f800000)
  else if word = "nan" then some (Float32.ofBits 0x7fc00000)
  else none

def magnitude? (text : List Char) : Option Sample :=
  let whole := text.takeWhile (· ≠ '.')
  let places := (text.dropWhile (· ≠ '.')).drop 1
  if whole.isEmpty ∧ places.isEmpty then none
  else (digitsValue? (whole ++ places)).map (Float32.ofScientific · true places.length)

def read? (text : List Char) : Option Sample :=
  let unsigned (rest : List Char) := (word? rest).or (magnitude? rest)
  match text with
  | '-' :: rest => (unsigned rest).map (- ·)
  | '+' :: rest => unsigned rest
  | _ => unsigned text

end SharedAudio.Decimal

namespace SharedAudio

def digitsValue? (digits : List Char) : Option Nat :=
  digits.foldlM (fun n c => if c.isDigit then some (10 * n + (c.toNat - 48)) else none) 0

def readCount (text : List Char) : Option UInt64 :=
  let digits := match text with
    | '+' :: rest => rest
    | _ => text
  if digits.isEmpty then none
  else
    match digitsValue? digits with
    | some n => if n < UInt64.size then some (UInt64.ofNat n) else none
    | none => none

example : readCount ['+', '5'] = some 5 := by decide

example : readCount ['-', '0'] = none := by decide

end SharedAudio

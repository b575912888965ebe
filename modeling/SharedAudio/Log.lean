namespace SharedAudio

structure Log where
  lines : List String := []
deriving DecidableEq, Repr

namespace Log

def limit : Nat := 256

def push (l : Log) (line : String) : Log :=
  let lines := l.lines ++ [line]
  ⟨lines.drop (lines.length - limit)⟩

def pop (l : Log) : Option String × Log := (l.lines.head?, ⟨l.lines.tail⟩)

def drain (l : Log) : List String × Log := (l.lines, {})

theorem length_push_le (l : Log) (line : String) : (l.push line).lines.length ≤ limit := by
  simp only [push, List.length_drop]
  omega

end Log

end SharedAudio

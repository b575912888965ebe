import Mathlib.Algebra.GroupWithZero.Nat
import Mathlib.Algebra.Order.BigOperators.Group.List
import Mathlib.Algebra.Order.Group.Nat
import Mathlib.Logic.Function.Iterate
import SharedAudio.Tone

namespace SharedAudio

inductive ToneCall
  | fill (block : Array Sample)
  | render (frames : UInt64)

namespace ToneCall

def frames (width : Nat) : ToneCall → Nat
  | .fill block => block.size / width
  | .render frames => frames.toNat

def Fits (width : Nat) : ToneCall → Prop
  | .fill _ => True
  | .render frames => 4 * (frames.toNat * width) ≤ Word.maxBytes

end ToneCall

namespace Tone

def width (t : Tone) : Nat := t.channels.toNat

def later (t : Tone) (frames : Nat) : Tone := advance^[frames] t

def opening (t : Tone) (frames : Nat) : Array Sample :=
  .ofFn fun i : Fin (frames * t.width) => (t.later (i / t.width)).value

def serve? (t : Tone) : ToneCall → Option (Array Sample × Tone)
  | .fill block =>
    let (frames, filled, next) := t.fill block
    some (filled.extract 0 (frames * t.width), next)
  | .render frames => t.render? frames

def play? (t : Tone) : List ToneCall → Option (Array Sample × Tone)
  | [] => some (#[], t)
  | call :: calls => do
    let (whole, next) ← t.serve? call
    let (rest, last) ← next.play? calls
    some (whole ++ rest, last)

end Tone

end SharedAudio

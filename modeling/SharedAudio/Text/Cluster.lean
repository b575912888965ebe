import SharedAudio.Text.Property.Marks
import SharedAudio.Text.Property.Emoji

namespace SharedAudio

inductive ClusterRole where
  | plain
  | carriageReturn
  | lineFeed
  | control
  | joiner
  | extend
  | spacingMark
  | prepend
  | regionalIndicator
  | leadingLetter
  | vowelLetter
  | trailingLetter
  | openSyllable
  | closedSyllable
  deriving DecidableEq, Repr

def zeroWidthJoiner : Char := '\u200d'

def zeroWidthNonJoiner : Char := '\u200c'

namespace ClusterRole

def hangul? (c : Char) : Option ClusterRole :=
  let n := c.toNat
  let within (first last : Nat) : Bool := first ≤ n && n ≤ last
  if within 0x1100 0x115f || within 0xa960 0xa97c then some leadingLetter
  else if within 0x1160 0x11a7 || within 0xd7b0 0xd7c6 || within 0x16d63 0x16d63 ||
    within 0x16d67 0x16d6a then some vowelLetter
  else if within 0x11a8 0x11ff || within 0xd7cb 0xd7fb then some trailingLetter
  else if within 0xac00 0xd7a3 then
    some (if (n - 0xac00) % 28 = 0 then openSyllable else closedSyllable)
  else none

def of (c : Char) : ClusterRole :=
  if c = '\r' then carriageReturn
  else if c = '\n' then lineFeed
  else if Property.control.has c then control
  else if c.toNat < 0x300 then plain
  else if c = zeroWidthJoiner then joiner
  else if Property.extend.has c then extend
  else if Property.spacingMark.has c then spacingMark
  else if Property.prepend.has c then prepend
  else if Property.regionalIndicator.has c then regionalIndicator
  else (hangul? c).getD plain

end ClusterRole

def endsPicture (before : List Char) : Bool :=
  (before.dropWhile Property.extend.has).head?.any Property.pictograph.has

def isConjunctMark (c : Char) : Bool :=
  c == zeroWidthJoiner || (Property.extend.has c && c != zeroWidthNonJoiner)

def endsLinked (before : List Char) : Bool :=
  (before.takeWhile isConjunctMark).any Property.conjunctLinker.has &&
    (before.dropWhile isConjunctMark).head?.any Property.conjunctConsonant.has

def joins (last : Char) (before : List Char) (next : Char) : Bool :=
  match ClusterRole.of last, ClusterRole.of next with
  | .carriageReturn, .lineFeed => true
  | .carriageReturn, _ | .lineFeed, _ | .control, _ => false
  | _, .carriageReturn | _, .lineFeed | _, .control => false
  | _, .joiner | _, .extend | _, .spacingMark | .prepend, _ => true
  | .leadingLetter, .leadingLetter | .leadingLetter, .vowelLetter => true
  | .leadingLetter, .openSyllable | .leadingLetter, .closedSyllable => true
  | .openSyllable, .vowelLetter | .openSyllable, .trailingLetter => true
  | .vowelLetter, .vowelLetter | .vowelLetter, .trailingLetter => true
  | .closedSyllable, .trailingLetter | .trailingLetter, .trailingLetter => true
  | .regionalIndicator, .regionalIndicator =>
    (before.takeWhile Property.regionalIndicator.has).length % 2 == 0
  | .joiner, .plain =>
    Property.pictograph.has next && endsPicture before ||
      Property.conjunctConsonant.has next && endsLinked (last :: before)
  | .extend, .plain => Property.conjunctConsonant.has next && endsLinked (last :: before)
  | _, _ => false

def clustersFrom (last : Char) (before : List Char) : List Char → List (List Char)
  | [] => [(last :: before).reverse]
  | next :: rest =>
    if joins last before next then clustersFrom next (last :: before) rest
    else (last :: before).reverse :: clustersFrom next [] rest

def clusters : List Char → List (List Char)
  | [] => []
  | first :: rest => clustersFrom first [] rest

example : clusters ['e', '\u0301', '\r', '\n', 'x'] = [['e', '\u0301'], ['\r', '\n'], ['x']] := by
  decide +kernel

theorem flatten_clustersFrom (last : Char) (before text : List Char) :
    (clustersFrom last before text).flatten = (last :: before).reverse ++ text := by
  induction text generalizing last before with
  | nil => simp [clustersFrom]
  | cons next rest ih =>
    by_cases goesOn : joins last before next <;> simp [clustersFrom, goesOn, ih]

theorem flatten_clusters (text : List Char) : (clusters text).flatten = text := by
  cases text with
  | nil => rfl
  | cons first rest => simp [clusters, flatten_clustersFrom]

theorem ne_nil_of_mem_clustersFrom (last : Char) (before text : List Char) :
    ∀ cluster ∈ clustersFrom last before text, cluster ≠ [] := by
  induction text generalizing last before with
  | nil => simp [clustersFrom]
  | cons next rest ih =>
    by_cases goesOn : joins last before next
    · simpa [clustersFrom, goesOn] using ih next (last :: before)
    · simpa [clustersFrom, goesOn] using ih next []

theorem ne_nil_of_mem_clusters {text cluster : List Char} (member : cluster ∈ clusters text) :
    cluster ≠ [] := by
  cases text with
  | nil => simp [clusters] at member
  | cons first rest => exact ne_nil_of_mem_clustersFrom first [] rest cluster member

end SharedAudio

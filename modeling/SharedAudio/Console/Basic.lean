import SharedAudio.Server.Registry
import SharedAudio.Decimal.Fixed
import SharedAudio.Decimal.Reading

namespace SharedAudio

inductive Key
  | up
  | down
  | enter
  | escape
  | backspace
  | char (c : Char)
  | other
deriving DecidableEq, Repr

def Key.ofName : String → Key
  | "up" => .up
  | "down" => .down
  | "enter" => .enter
  | "esc" => .escape
  | "backspace" => .backspace
  | "tab" | "left" => .other
  | text => (text.toList.head?.map .char).getD .other

inductive Mode
  | normal
  | gainInput (text : List Char)
deriving DecidableEq, Repr

structure Console where
  snapshot : List EndpointStatus := []
  selected : UInt64 := 0
  mode : Mode := .normal
  message : Option String := none

def latest {α : Type} (queue : List α) : Option α × List α := (queue.getLast?, [])

namespace Console

def streams (c : Console) : List (EndpointStatus × ChannelStatus) :=
  c.snapshot.flatMap fun e => e.streams.map (e, ·)

def streamCount (c : Console) : Nat := (c.snapshot.flatMap (·.streams)).length

def current? (c : Console) : Option ChannelStatus := c.streams[c.selected.toNat]?.map (·.2)

def editor? (c : Console) : Option (List Char) :=
  match c.mode with
  | .normal => none
  | .gainInput text => some text

def load (c : Console) (snapshot : List EndpointStatus) : Console := { c with snapshot }

def refresh (c : Console) (snapshot : List EndpointStatus) : Console :=
  let c := c.load snapshot
  { c with selected := UInt64.ofNat (min c.selected.toNat (c.streamCount - 1)) }

def isGainChar (c : Char) : Bool := c.isDigit || c == '.' || c == '-' || c == '+'

def toggleCurrent? (c : Console) (s : Server) : Option (Console × Server) :=
  match c.current? with
  | none => some (c, s)
  | some stream =>
    (s.toggle? stream.id).map fun
    | (.ok state, s) => ({ c with message := some s!"{stream.id.text} {state.name}" }, s)
    | (.error error, s) => ({ c with message := some s!"{stream.id.text}: {error.message}" }, s)

def editGain (c : Console) : Console :=
  match c.current? with
  | none => c
  | some stream =>
    { c with mode := .gainInput (Decimal.fixed 1 (Decibel.shown stream.volume)).toList }

def enterGain (c : Console) (s : Server) (text : List Char) : Console × Server :=
  let c := { c with mode := .normal }
  match c.current?, Decimal.read? (trimBlanks text) with
  | some stream, some level =>
    match s.setLevel stream.id level with
    | (true, s) =>
      ({ c with message := some s!"Set {stream.id.text} gain to {Decimal.fixed 1 level} dB" }, s)
    | (false, s) => (c, s)
  | _, _ => (c, s)

def moveDown? (c : Console) : Option Console :=
  (Word.add? c.selected 1).map fun next =>
    if next.toNat < c.streamCount then { c with selected := next } else c

def pressNormal? (c : Console) (s : Server) : Key → Option (Bool × Console × Server)
  | .up => some (false, if c.selected = 0 then c else { c with selected := c.selected - 1 }, s)
  | .down => c.moveDown?.map (false, ·, s)
  | .char 'q' => some (true, c, s)
  | .char ' ' => (c.toggleCurrent? s).map (false, ·)
  | .char 'g' => some (false, c.editGain, s)
  | _ => some (false, c, s)

def pressEditing (c : Console) (s : Server) (text : List Char) : Key → Console × Server
  | .escape => ({ c with mode := .normal }, s)
  | .enter => c.enterGain s text
  | .backspace => ({ c with mode := .gainInput text.dropLast }, s)
  | .char x => (if isGainChar x then { c with mode := .gainInput (text ++ [x]) } else c, s)
  | _ => (c, s)

def press? (c : Console) (s : Server) (key : Key) : Option (Bool × Console × Server) :=
  match c.mode with
  | .normal => c.pressNormal? s key
  | .gainInput text => some (false, c.pressEditing s text key)

theorem selected_refresh (c : Console) (snapshot : List EndpointStatus) :
    (c.refresh snapshot).selected = 0 ∨
      (c.refresh snapshot).selected.toNat < (c.refresh snapshot).streamCount := by
  have count : (c.refresh snapshot).streamCount = (c.load snapshot).streamCount := rfl
  have selected : (c.refresh snapshot).selected =
      UInt64.ofNat (min c.selected.toNat ((c.load snapshot).streamCount - 1)) := rfl
  have bound := c.selected.toNat_lt
  rw [count, selected]
  by_cases empty : (c.load snapshot).streamCount = 0
  · left
    simp [empty]
  · right
    rw [UInt64.toNat_ofNat']
    omega

end Console

end SharedAudio

import SharedAudio.Ring.Attachment

namespace SharedAudio

inductive AttachError
  | noHeader
  | tooSmall (bytes : UInt64) (capacity channels : UInt32)
deriving DecidableEq, Repr

def AttachError.message : AttachError → String
  | .noHeader => "mapping smaller than ring header"
  | .tooSmall bytes capacity channels =>
      s!"mapping of {bytes} bytes cannot hold {capacity} frames x {channels} channels"

namespace Mapping

-- Only the cells that the header speaks of are kept: no attachment reaches further.
def zeroed (bytes : UInt64) (header : Header) : Mapping :=
  let present := (bytes.toNat - Header.size.toNat) / 4
  ⟨bytes, header, Array.replicate (min header.sampleCount present) 0⟩

def anonymous? (capacity channels : UInt64) : Option Mapping :=
  (Header.extent? capacity channels).map
    (zeroed · { capacity := capacity.toUInt32, channels := channels.toUInt32 })

def attach? (m : Mapping) : Option (Except AttachError Attachment) :=
  if m.bytes < Header.size then some (.error .noHeader)
  else
    m.header.needed?.map fun needed =>
      if h : m.header.channels = 0 ∨ m.bytes < needed then
        .error (.tooSmall m.bytes m.header.capacity m.header.channels)
      else
        .ok {
          window := .full m.header.capacity.toUInt64
          channels := m.header.channels.toNat
          channels_pos := Nat.pos_of_ne_zero fun zero =>
            h (.inl (UInt32.toNat_inj.mp (by simpa using zero)))
          channels_lt := Nat.lt_trans m.header.channels.toNat_lt (by decide) }

end Mapping

structure Ring where
  attachment : Attachment
  memory : Memory

namespace Ring

def atLeastOne (channels : UInt64) : UInt64 := if channels = 0 then 1 else channels

theorem atLeastOne_pos (channels : UInt64) : 0 < (atLeastOne channels).toNat := by
  unfold atLeastOne
  split
  · decide
  · exact Nat.pos_of_ne_zero fun zero => ‹channels ≠ 0› (UInt64.toNat_inj.mp (by simpa using zero))

def heap (capacity channels : UInt64) : Ring :=
  { attachment := {
      window := .full capacity
      channels := (atLeastOne channels).toNat
      channels_pos := atLeastOne_pos channels
      channels_lt := (atLeastOne channels).toNat_lt }
    memory := .heap {} (.given 0)
      (Array.replicate (capacity.toNat * (atLeastOne channels).toNat) 0) }

def heap? (capacity channels : UInt64) : Option Ring :=
  (Word.samples? capacity (atLeastOne channels)).map fun _ => heap capacity channels

def shared? (capacity channels : UInt64) : Option (Except AttachError Ring) := do
  let mapping ← Mapping.anonymous? capacity (atLeastOne channels)
  let attached ← mapping.attach?
  return attached.map ({ attachment := ·, memory := .mapped mapping })

def capacity (r : Ring) : UInt64 := r.attachment.window.capacity

def channels (r : Ring) : Nat := r.attachment.channels

def threshold (r : Ring) : UInt64 := r.attachment.window.threshold

def counters (r : Ring) : Counters := r.memory.counters

def stamp (r : Ring) : Stamp := r.memory.stamp

def queued (r : Ring) : Nat := r.memory.queued

def room (r : Ring) : Nat := r.attachment.room r.memory

def readIndex (r : Ring) : Nat := r.attachment.readIndex r.memory

def writeIndex (r : Ring) : Nat := r.attachment.writeIndex r.memory

def readable (r : Ring) (frames : Nat) : Stretch × Stretch :=
  r.attachment.readable r.memory frames

def peek (r : Ring) (frames : Nat) : Array Sample × Array Sample :=
  r.attachment.peek r.memory frames

def fill (r : Ring) : Sample := r.attachment.fill r.memory

def push (r : Ring) (samples : Array Sample) (stamp : Stamp := .clock) : Nat × Ring :=
  let (frames, memory) := r.attachment.push r.memory samples stamp
  (frames, { r with memory })

def pop (r : Ring) (block : Array Sample) : Nat × Array Sample × Ring :=
  let (frames, block, memory) := r.attachment.pop r.memory block
  (frames, block, { r with memory })

def discard (r : Ring) (frames : Nat) : Nat × Ring :=
  let (frames, memory) := r.memory.discard frames
  (frames, { r with memory })

def consume (r : Ring) (frames : Nat) : Ring := { r with memory := r.memory.consume frames }

def publish (r : Ring) (frames : Nat) : Ring := { r with memory := r.memory.publish frames }

def retarget? (r : Ring) (value : Int) : Option Ring :=
  (r.attachment.retarget? value).map ({ r with attachment := · })

def contents (r : Ring) : Array Sample :=
  let (first, second) := r.peek r.queued
  first ++ second

theorem channels_pos (r : Ring) : 0 < r.channels := r.attachment.channels_pos

theorem channels_lt (r : Ring) : r.channels < UInt64.size := r.attachment.channels_lt

theorem heap?_eq_some {capacity channels : UInt64} {r : Ring} :
    heap? capacity channels = some r ↔
      4 * (capacity.toNat * (atLeastOne channels).toNat) ≤ Word.maxBytes ∧
        heap capacity channels = r := by
  simp only [heap?, Option.map_eq_some_iff, Word.samples?_eq_some]
  constructor
  · rintro ⟨_, ⟨rfl, fits⟩, rfl⟩
    exact ⟨fits, rfl⟩
  · rintro ⟨fits, rfl⟩
    exact ⟨_, ⟨rfl, fits⟩, rfl⟩

theorem heap?_eq_none {capacity channels : UInt64} :
    heap? capacity channels = none ↔
      Word.maxBytes < 4 * (capacity.toNat * (atLeastOne channels).toNat) := by
  rw [heap?, Option.map_eq_none_iff, Word.samples?_eq_none]

@[simp] theorem queued_heap (capacity channels : UInt64) :
    (heap capacity channels).queued = 0 := by
  simp [heap, queued, Memory.queued, Memory.counters, Counters.queued]

end Ring

structure Pair where
  near : Attachment
  far : Attachment
  memory : Memory

namespace Pair

inductive Side
  | near
  | far
deriving DecidableEq, Repr

def attach? (m : Mapping) : Option (Except AttachError Pair) := do
  let near ← m.attach?
  let far ← m.attach?
  return do return { near := ← near, far := ← far, memory := .mapped m }

def ring (p : Pair) : Side → Ring
  | .near => ⟨p.near, p.memory⟩
  | .far => ⟨p.far, p.memory⟩

def update (p : Pair) (side : Side) (r : Ring) : Pair :=
  match side with
  | .near => { p with near := r.attachment, memory := r.memory }
  | .far => { p with far := r.attachment, memory := r.memory }

end Pair

end SharedAudio

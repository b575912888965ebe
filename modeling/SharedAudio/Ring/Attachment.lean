import SharedAudio.Ring.Memory
import SharedAudio.Ring.Stretch

namespace SharedAudio

structure Attachment where
  window : Window
  channels : Nat
  channels_pos : 0 < channels
  channels_lt : channels < UInt64.size

namespace Attachment

def capacity (a : Attachment) : Nat := a.window.capacity.toNat

def stretches (a : Attachment) (start frames : Nat) : Stretch × Stretch :=
  let frames := min frames a.capacity
  let start := min start a.capacity
  let first := min (a.capacity - start) frames
  (⟨start * a.channels, first * a.channels⟩, ⟨0, (frames - first) * a.channels⟩)

def room (a : Attachment) (m : Memory) : Nat := a.window.room m.counters

def readIndex (a : Attachment) (m : Memory) : Nat := a.window.index m.counters.read

def writeIndex (a : Attachment) (m : Memory) : Nat := a.window.index m.counters.write

def readable (a : Attachment) (m : Memory) (frames : Nat) : Stretch × Stretch :=
  let frames := min frames m.queued
  if frames = 0 then (⟨0, 0⟩, ⟨0, 0⟩) else a.stretches (a.readIndex m) frames

def peek (a : Attachment) (m : Memory) (frames : Nat) : Array Sample × Array Sample :=
  let (first, second) := a.readable m frames
  (first.read m.cells, second.read m.cells)

def push (a : Attachment) (m : Memory) (samples : Array Sample) (stamp : Stamp) : Nat × Memory :=
  let frames := min (samples.size / a.channels) (a.room m)
  if frames = 0 then (0, m)
  else
    let (first, second) := a.stretches (a.writeIndex m) frames
    let head := samples.extract 0 first.size
    let tail := samples.extract first.size (first.size + second.size)
    let cells := overlay (overlay m.cells first.start head.toList) second.start tail.toList
    (frames, (m.setCells cells).setCounters (m.counters.publish frames) |>.setStamp stamp)

def pop (a : Attachment) (m : Memory) (block : Array Sample) : Nat × Array Sample × Memory :=
  let (first, second) := a.readable m (block.size / a.channels)
  let frames := (first.size + second.size) / a.channels
  if frames = 0 then (0, block, m)
  else
    let block := overlay block 0 (first.read m.cells).toList
    let block := overlay block first.size (second.read m.cells).toList
    (frames, block, m.consume frames)

def fill (a : Attachment) (m : Memory) : Sample :=
  if a.window.threshold = 0 then 0
  else
    let ratio := (m.counters.write - m.counters.read).toFloat32 / a.window.threshold.toFloat32
    if ratio < 1 then ratio else 1

def retarget? (a : Attachment) (value : Int) : Option Attachment :=
  (a.window.retarget? value).map ({ a with window := · })

theorem stretches_size (a : Attachment) (start frames : Nat) :
    (a.stretches start frames).1.size + (a.stretches start frames).2.size =
      min frames a.capacity * a.channels := by
  simp only [stretches, ← Nat.add_mul]
  congr 1
  omega

theorem stretches_stop_le (a : Attachment) (start frames : Nat) :
    (a.stretches start frames).1.stop ≤ a.capacity * a.channels ∧
      (a.stretches start frames).2.stop ≤ a.capacity * a.channels := by
  simp only [stretches, Stretch.stop, ← Nat.add_mul, Nat.zero_add]
  constructor <;> apply Nat.mul_le_mul_right <;> omega

end Attachment

end SharedAudio

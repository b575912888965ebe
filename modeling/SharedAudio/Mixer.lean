import SharedAudio.Ring.Basic

namespace SharedAudio

structure Mixer where
  channels : UInt64
  burst : UInt64
  sum : Array Sample

namespace Mixer

def new (channels burst : UInt64) : Mixer :=
  ⟨channels, burst, Array.replicate (channels.toNat * burst.toNat) 0⟩

def new? (channels burst : UInt64) : Option Mixer :=
  (Word.samples? channels burst).map fun samples => ⟨channels, burst, Array.replicate samples 0⟩

def clear (m : Mixer) : Mixer := { m with sum := Array.replicate m.sum.size 0 }

def addAt (sum : Array Sample) (start : Nat) (block : Array Sample) (volume : Sample) :
    Array Sample :=
  sum.mapIdx fun i old =>
    if start ≤ i then ((block[i - start]?).map (old + Sample.scaled volume ·)).getD old else old

structure Share where
  mixer : Mixer
  ring : Ring
  frames : Nat

def add? (m : Mixer) (r : Ring) (volume : Sample) : Option Share :=
  let (first, second) := r.readable m.burst.toNat
  let samples := first.size + second.size
  if m.channels = 0 ∨ m.sum.size < samples then none
  else
    let sum := addAt m.sum 0 (first.read r.memory.cells) volume
    let sum := addAt sum first.size (second.read r.memory.cells) volume
    let frames := samples / m.channels.toNat
    some ⟨{ m with sum }, (r.discard frames).2, frames⟩

def mix? (m : Mixer) (r : Ring) (volume : Sample) : Option Share :=
  if m.channels.toNat = r.channels then m.add? r volume else none

def Share.underflowed (s : Share) : Bool := s.frames < s.mixer.burst.toNat

def set? (m : Mixer) (i : Nat) (value : Sample) : Option Mixer :=
  if i < m.sum.size then some { m with sum := m.sum.setIfInBounds i value } else none

theorem new?_eq_some {channels burst : UInt64} {m : Mixer} : new? channels burst = some m ↔
    4 * (channels.toNat * burst.toNat) ≤ Word.maxBytes ∧ new channels burst = m := by
  simp only [new?, Option.map_eq_some_iff, Word.samples?_eq_some]
  constructor
  · rintro ⟨_, ⟨rfl, fits⟩, rfl⟩
    exact ⟨fits, rfl⟩
  · rintro ⟨fits, rfl⟩
    exact ⟨_, ⟨rfl, fits⟩, rfl⟩

@[simp] theorem size_clear (m : Mixer) : m.clear.sum.size = m.sum.size := by simp [clear]

@[simp] theorem size_addAt (sum : Array Sample) (start : Nat) (block : Array Sample)
    (volume : Sample) : (addAt sum start block volume).size = sum.size := by simp [addAt]

theorem size_of_add? {m : Mixer} {r : Ring} {volume : Sample} {s : Share}
    (h : m.add? r volume = some s) : s.mixer.sum.size = m.sum.size := by
  simp only [add?] at h
  split at h
  · cases h
  · cases h
    simp

end Mixer

end SharedAudio

namespace SharedAudio

structure Counters where
  read : UInt64 := 0
  write : UInt64 := 0
deriving DecidableEq, Repr

namespace Counters

def startingAt (start : UInt64) : Counters := ⟨start, start⟩

def queued (c : Counters) : Nat := (c.write - c.read).toNat

def consume (c : Counters) (frames : Nat) : Counters :=
  { c with read := c.read + UInt64.ofNat frames }

def publish (c : Counters) (frames : Nat) : Counters :=
  { c with write := c.write + UInt64.ofNat frames }

@[simp] theorem queued_startingAt (start : UInt64) : (startingAt start).queued = 0 := by
  simp [queued, startingAt]

theorem queued_lt (c : Counters) : c.queued < UInt64.size := (c.write - c.read).toNat_lt

theorem queued_consume {c : Counters} {frames : Nat} (h : frames ≤ c.queued) :
    (c.consume frames).queued = c.queued - frames := by
  have bound := c.queued_lt
  simp only [queued, consume, UInt64.toNat_sub, UInt64.toNat_add, UInt64.toNat_ofNat'] at *
  have := c.read.toNat_lt
  have := c.write.toNat_lt
  omega

theorem queued_publish {c : Counters} {frames : Nat} (h : c.queued + frames < UInt64.size) :
    (c.publish frames).queued = c.queued + frames := by
  simp only [queued, publish, UInt64.toNat_sub, UInt64.toNat_add, UInt64.toNat_ofNat',
    UInt64.size] at *
  have := c.read.toNat_lt
  have := c.write.toNat_lt
  omega

end Counters

structure Window where
  capacity : UInt64
  threshold : UInt64
  within : threshold ≤ capacity

namespace Window

def new (capacity threshold : UInt64) : Window where
  capacity
  threshold := if threshold ≤ capacity then threshold else capacity
  within := by
    split
    · assumption
    · exact UInt64.le_refl capacity

def full (capacity : UInt64) : Window := ⟨capacity, capacity, UInt64.le_refl capacity⟩

-- A capacity from `2 ^ 63` on has no such range, as bounds are signed words.
def retarget? (w : Window) (value : Int) : Option Window :=
  if w.capacity.toNat < UInt64.size / 2 then
    some (new w.capacity (UInt64.ofNat (min value.toNat w.capacity.toNat)))
  else none

def room (w : Window) (c : Counters) : Nat := w.threshold.toNat - c.queued

def index (w : Window) (counter : UInt64) : Nat :=
  if w.capacity = 0 then 0 else counter.toNat % w.capacity.toNat

theorem threshold_le (w : Window) : w.threshold.toNat ≤ w.capacity.toNat :=
  UInt64.le_iff_toNat_le.mp w.within

theorem room_add_queued {w : Window} {c : Counters} (h : c.queued ≤ w.threshold.toNat) :
    w.room c + c.queued = w.threshold.toNat := by
  simp only [room]; omega

theorem room_le (w : Window) (c : Counters) : w.room c ≤ w.capacity.toNat := by
  have := w.threshold_le
  simp only [room]; omega

theorem index_lt {w : Window} (h : w.capacity ≠ 0) (counter : UInt64) :
    w.index counter < w.capacity.toNat := by
  have : 0 < w.capacity.toNat :=
    Nat.pos_of_ne_zero fun zero => h (UInt64.toNat_inj.mp (by simpa using zero))
  simp only [index, if_neg h]
  exact Nat.mod_lt _ this

end Window

structure Fifo where
  window : Window
  counters : Counters := {}

namespace Fifo

def new (capacity threshold start : UInt64) : Fifo :=
  ⟨Window.new capacity threshold, .startingAt start⟩

def queued (f : Fifo) : Nat := f.counters.queued

def room (f : Fifo) : Nat := f.window.room f.counters

def readIndex (f : Fifo) : Nat := f.window.index f.counters.read

def writeIndex (f : Fifo) : Nat := f.window.index f.counters.write

def consume (f : Fifo) (frames : Nat) : Fifo := { f with counters := f.counters.consume frames }

def publish (f : Fifo) (frames : Nat) : Fifo := { f with counters := f.counters.publish frames }

def consumeUpTo (f : Fifo) (frames : Nat) : Nat × Fifo :=
  let used := min frames f.queued
  (used, f.consume used)

def publishUpTo (f : Fifo) (frames : Nat) : Nat × Fifo :=
  let used := min frames f.room
  (used, f.publish used)

def retarget? (f : Fifo) (value : Int) : Option Fifo :=
  (f.window.retarget? value).map ({ f with window := · })

theorem queued_consumeUpTo (f : Fifo) (frames : Nat) :
    (f.consumeUpTo frames).2.queued = f.queued - min frames f.queued :=
  Counters.queued_consume (Nat.min_le_right _ _)

theorem queued_publishUpTo (f : Fifo) (frames : Nat) :
    (f.publishUpTo frames).2.queued = f.queued + min frames f.room := by
  apply Counters.queued_publish
  have room : f.room = f.window.threshold.toNat - f.counters.queued := rfl
  have bound := f.counters.queued_lt
  have := f.window.threshold.toNat_lt
  rw [UInt64.size] at bound ⊢
  omega

end Fifo

end SharedAudio

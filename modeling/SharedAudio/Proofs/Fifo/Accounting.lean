import Mathlib.Algebra.GroupWithZero.Nat
import SharedAudio.Fifo

namespace SharedAudio

inductive FifoCall
  | publish (frames : Nat)
  | consume (frames : Nat)
  | retarget (value : Int)
deriving DecidableEq

-- Nothing in the book is read back from the counters.
structure Account where
  fifo : Fifo
  written : Nat := 0
  taken : Nat := 0
  target : Int

namespace Account

def opened (capacity threshold start : UInt64) : Account :=
  { fifo := .new capacity threshold start, target := threshold.toNat }

def serve? (a : Account) : FifoCall → Option Account
  | .publish frames =>
      let (used, fifo) := a.fifo.publishUpTo frames
      some { a with fifo, written := a.written + used }
  | .consume frames =>
      let (used, fifo) := a.fifo.consumeUpTo frames
      some { a with fifo, taken := a.taken + used }
  | .retarget value =>
      (a.fifo.retarget? value).map fun fifo => { a with fifo, target := value }

def serveAll? (a : Account) (calls : List FifoCall) : Option Account := calls.foldlM serve? a

end Account

namespace Window

theorem toNat_threshold_new (capacity threshold : UInt64) :
    (new capacity threshold).threshold.toNat = min threshold.toNat capacity.toNat := by
  simp only [new, UInt64.le_iff_toNat_le]
  split <;> omega

theorem retarget?_of_lt {w : Window} (small : w.capacity.toNat < 2 ^ 63) (value : Int) :
    ∃ moved, w.retarget? value = some moved ∧ moved.capacity = w.capacity ∧
      (moved.threshold.toNat : Int) = min (max value 0) w.capacity.toNat := by
  refine ⟨_, if_pos small, rfl, ?_⟩
  have bound := w.capacity.toNat_lt
  rw [toNat_threshold_new, UInt64.toNat_ofNat']
  omega

theorem ext_of_eq {v w : Window} (capacity : v.capacity = w.capacity)
    (threshold : v.threshold.toNat = w.threshold.toNat) : v = w := by
  obtain ⟨_, _, _⟩ := v
  obtain ⟨_, _, _⟩ := w
  obtain rfl := capacity
  obtain rfl := UInt64.toNat_inj.mp threshold
  rfl

theorem retarget?_of_settled {w : Window} (small : w.capacity.toNat < 2 ^ 63) {value : Int}
    (settled : (w.threshold.toNat : Int) = min (max value 0) w.capacity.toNat) :
    w.retarget? value = some w := by
  obtain ⟨moved, found, capacity, threshold⟩ := retarget?_of_lt small value
  rw [found, ext_of_eq capacity (Int.ofNat_inj.mp (threshold.trans settled.symm))]

end Window

theorem Fifo.queued_add_room (f : Fifo) :
    f.queued + f.room = max f.window.threshold.toNat f.queued := by
  change f.queued + (f.window.threshold.toNat - f.queued) = _
  omega

namespace Account

structure Balanced (capacity : UInt64) (a : Account) : Prop where
  sized : a.fifo.window.capacity = capacity
  queued : (a.fifo.queued : Int) = a.written - a.taken
  within : a.fifo.queued ≤ capacity.toNat
  threshold : (a.fifo.window.threshold.toNat : Int) = min (max a.target 0) capacity.toNat

variable {capacity : UInt64} {a : Account}

theorem balanced_opened (capacity threshold start : UInt64) :
    (opened capacity threshold start).Balanced capacity where
  sized := rfl
  queued := by simp [opened, Fifo.queued, Fifo.new]
  within := by simp [opened, Fifo.queued, Fifo.new]
  threshold := by
    simp only [opened, Fifo.new, Window.toNat_threshold_new]
    omega

namespace Balanced

theorem publish (h : a.Balanced capacity) (frames : Nat) :
    ∃ b, a.serve? (.publish frames) = some b ∧ b.Balanced capacity := by
  have grown := a.fifo.queued_publishUpTo frames
  have queued := h.queued
  have within := h.within
  have room := a.fifo.queued_add_room
  have threshold := h.threshold
  refine ⟨_, rfl, h.sized, ?_, ?_, threshold⟩
  · change ((a.fifo.publishUpTo frames).2.queued : Int) =
      ((a.written + min frames a.fifo.room : Nat) : Int) - a.taken
    omega
  · change (a.fifo.publishUpTo frames).2.queued ≤ capacity.toNat
    omega

theorem consume (h : a.Balanced capacity) (frames : Nat) :
    ∃ b, a.serve? (.consume frames) = some b ∧ b.Balanced capacity := by
  have shrunk := a.fifo.queued_consumeUpTo frames
  have queued := h.queued
  have within := h.within
  refine ⟨_, rfl, h.sized, ?_, ?_, h.threshold⟩
  · change ((a.fifo.consumeUpTo frames).2.queued : Int) =
      a.written - ((a.taken + min frames a.fifo.queued : Nat) : Int)
    omega
  · change (a.fifo.consumeUpTo frames).2.queued ≤ capacity.toNat
    omega

theorem retarget (h : a.Balanced capacity) (small : capacity.toNat < 2 ^ 63) (value : Int) :
    ∃ b, a.serve? (.retarget value) = some b ∧ b.Balanced capacity := by
  rw [← h.sized] at small
  obtain ⟨window, found, kept, threshold⟩ := Window.retarget?_of_lt small value
  rw [h.sized] at threshold
  refine ⟨_, by rw [serve?, Fifo.retarget?, found]; rfl, ?_⟩
  exact ⟨kept.trans h.sized, h.queued, h.within, threshold⟩

theorem serve? (h : a.Balanced capacity) (small : capacity.toNat < 2 ^ 63) (call : FifoCall) :
    ∃ b, a.serve? call = some b ∧ b.Balanced capacity := by
  cases call with
  | publish frames => exact h.publish frames
  | consume frames => exact h.consume frames
  | retarget value => exact h.retarget small value

theorem serveAll? (h : a.Balanced capacity) (small : capacity.toNat < 2 ^ 63)
    (calls : List FifoCall) : ∃ b, a.serveAll? calls = some b ∧ b.Balanced capacity := by
  induction calls generalizing a with
  | nil => exact ⟨a, rfl, h⟩
  | cons call calls ih =>
    obtain ⟨b, served, balanced⟩ := h.serve? small call
    obtain ⟨c, rest, last⟩ := ih balanced
    refine ⟨c, ?_, last⟩
    rw [Account.serveAll?, List.foldlM_cons, served]
    exact rest

theorem retarget?_target (h : a.Balanced capacity) (small : capacity.toNat < 2 ^ 63) :
    a.fifo.retarget? a.target = some a.fifo := by
  rw [← h.sized] at small
  have settled := h.threshold
  rw [← h.sized] at settled
  rw [Fifo.retarget?, Window.retarget?_of_settled small settled]
  rfl

end Balanced

theorem occupancy_accounted {capacity : UInt64} (small : capacity.toNat < 2 ^ 63)
    (threshold start : UInt64) (calls : List FifoCall) :
    ∃ a, (opened capacity threshold start).serveAll? calls = some a ∧
      (a.fifo.queued : Int) = a.written - a.taken ∧
      a.fifo.queued ≤ a.fifo.window.capacity.toNat ∧ a.fifo.window.capacity = capacity ∧
      (a.fifo.window.threshold.toNat : Int) = min (max a.target 0) capacity.toNat ∧
      a.fifo.queued + a.fifo.room = max a.fifo.window.threshold.toNat a.fifo.queued ∧
      a.fifo.retarget? a.target = some a.fifo ∧
      ∀ value, ∃ b, a.serve? (.retarget value) = some b ∧ b.serve? (.retarget value) = some b := by
  obtain ⟨a, served, balanced⟩ := (balanced_opened capacity threshold start).serveAll? small calls
  refine ⟨a, served, balanced.queued, ?_, balanced.sized, balanced.threshold,
    a.fifo.queued_add_room, balanced.retarget?_target small, ?_⟩
  · rw [balanced.sized]
    exact balanced.within
  · intro value
    obtain ⟨b, moved, after⟩ := balanced.retarget small value
    have target : b.target = value := by
      obtain ⟨fifo, -, rfl⟩ := Option.map_eq_some_iff.mp moved
      rfl
    have again := after.retarget?_target small
    rw [target] at again
    refine ⟨b, moved, ?_⟩
    rw [Account.serve?, again, ← target]
    rfl

theorem occupancy_accounted_across_wrap :
    let calls := [.publish 7, .consume 2, .retarget (-3), .publish 4, .consume 1, .retarget 80,
      .publish 4]
    (5 : UInt64).toNat < 2 ^ 63 ∧
    ((opened 5 9 18446744073709551612).serveAll? calls).map
      (fun a => (a.written, a.taken, a.fifo.queued, a.fifo.room)) = some (8, 3, 5, 0) ∧
    ∃ a, (opened 5 9 18446744073709551612).serveAll? calls = some a ∧
      (a.fifo.queued : Int) = a.written - a.taken := by
  have small : (5 : UInt64).toNat < 2 ^ 63 := by decide
  obtain ⟨a, served, queued, -⟩ := occupancy_accounted small 9 18446744073709551612
    [.publish 7, .consume 2, .retarget (-3), .publish 4, .consume 1, .retarget 80, .publish 4]
  exact ⟨small, by decide, a, served, queued⟩

end Account

end SharedAudio

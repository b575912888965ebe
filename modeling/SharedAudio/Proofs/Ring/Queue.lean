import Mathlib.Algebra.GroupWithZero.Nat
import SharedAudio.Ring.Basic

namespace SharedAudio

abbrev Frame := List Sample

def framesOf (channels : Nat) : Nat → List Sample → List Frame
  | 0, _ => []
  | n + 1, samples => samples.take channels :: framesOf channels n (samples.drop channels)

theorem length_framesOf (channels n : Nat) (samples : List Sample) :
    (framesOf channels n samples).length = n := by
  induction n generalizing samples with
  | zero => rfl
  | succ n ih => simp [framesOf, ih]

theorem flatten_framesOf (channels n : Nat) (samples : List Sample) :
    (framesOf channels n samples).flatten = samples.take (n * channels) := by
  induction n generalizing samples with
  | zero => simp [framesOf]
  | succ n ih =>
    rw [framesOf, List.flatten_cons, ih, Nat.succ_mul, Nat.add_comm, List.take_add]

def Wide (channels : Nat) (frames : List Frame) : Prop := ∀ f ∈ frames, f.length = channels

theorem wide_framesOf {channels n : Nat} {samples : List Sample}
    (h : n * channels ≤ samples.length) : Wide channels (framesOf channels n samples) := by
  induction n generalizing samples with
  | zero => simp [Wide, framesOf]
  | succ n ih =>
    rw [Nat.succ_mul] at h
    intro f member
    rw [framesOf, List.mem_cons] at member
    rcases member with rfl | later
    · rw [List.length_take]
      omega
    · exact ih (by rw [List.length_drop]; omega) f later

namespace Wide

variable {channels : Nat} {frames more : List Frame}

theorem append (h : Wide channels frames) (g : Wide channels more) :
    Wide channels (frames ++ more) := by
  intro f member
  exact (List.mem_append.mp member).elim (h f) (g f)

theorem drop (h : Wide channels frames) (n : Nat) : Wide channels (frames.drop n) :=
  fun f member => h f (List.mem_of_mem_drop member)

theorem take (h : Wide channels frames) (n : Nat) : Wide channels (frames.take n) :=
  fun f member => h f (List.mem_of_mem_take member)

theorem length_flatten (h : Wide channels frames) :
    frames.flatten.length = frames.length * channels := by
  induction frames with
  | nil => simp
  | cons f frames ih =>
    have rest := ih fun g member => h g (List.mem_cons_of_mem f member)
    rw [List.flatten_cons, List.length_append, rest, h f List.mem_cons_self, List.length_cons,
      Nat.succ_mul, Nat.add_comm]

theorem flatten_take (h : Wide channels frames) (n : Nat) :
    (frames.take n).flatten = frames.flatten.take (n * channels) := by
  have split := congrArg List.flatten (List.take_append_drop n frames)
  rw [List.flatten_append] at split
  have length := (h.take n).length_flatten
  rw [List.length_take] at length
  by_cases short : n ≤ frames.length
  · rw [Nat.min_eq_left short] at length
    rw [← split, List.take_left' length]
  · have all := List.take_of_length_le (show frames.length ≤ n by omega)
    have le := Nat.mul_le_mul_right channels (show frames.length ≤ n by omega)
    rw [all, List.take_of_length_le (by rw [h.length_flatten]; exact le)]

theorem flatten_drop (h : Wide channels frames) (n : Nat) :
    (frames.drop n).flatten = frames.flatten.drop (n * channels) := by
  have split := congrArg List.flatten (List.take_append_drop n frames)
  rw [List.flatten_append, h.flatten_take] at split
  exact List.append_cancel_left (split.trans (List.take_append_drop _ _).symm)

theorem framesOf_flatten (h : Wide channels frames) :
    framesOf channels frames.length frames.flatten = frames := by
  induction frames with
  | nil => rfl
  | cons f frames ih =>
    have rest := ih fun g member => h g (List.mem_cons_of_mem f member)
    have width := h f List.mem_cons_self
    rw [List.length_cons, framesOf, List.flatten_cons, List.take_left' width,
      List.drop_left' width, rest]

end Wide

structure FrameQueue where
  capacity : Nat
  threshold : Nat
  channels : Nat
  frames : List Frame := []

inductive BufferCall
  | push (samples : Array Sample) (stamp : Stamp)
  | pop (block : Array Sample)
  | peek (frames : Nat)
  | advance (frames : Nat)
  | discard (frames : Nat)
  | retarget (value : Int)

inductive BufferReply
  | accepted (frames : Nat)
  | popped (frames : Nat) (block : Array Sample)
  | peeked (samples : Array Sample)
  | discarded (frames : Nat)
  | done
  | refused

def BufferReply.framesAccepted : BufferReply → Nat
  | .accepted frames => frames
  | _ => 0

namespace FrameQueue

def accepts (q : FrameQueue) (samples : Array Sample) : Nat :=
  min (samples.size / q.channels) (q.threshold - q.frames.length)

def push (q : FrameQueue) (samples : Array Sample) : FrameQueue :=
  { q with frames := q.frames ++ framesOf q.channels (q.accepts samples) samples.toList }

theorem length_push (q : FrameQueue) (samples : Array Sample) :
    (q.push samples).frames.length = q.frames.length + q.accepts samples := by
  rw [push, List.length_append, length_framesOf]

def remove (q : FrameQueue) (n : Nat) : FrameQueue := { q with frames := q.frames.drop n }

theorem length_remove (q : FrameQueue) (n : Nat) :
    (q.remove n).frames.length = q.frames.length - min n q.frames.length := by
  rw [remove, List.length_drop]
  omega

theorem take_of_min_eq_zero (q : FrameQueue) {n : Nat} (h : min n q.frames.length = 0) :
    q.frames.take n = [] := by
  rw [List.take_eq_nil_iff, ← List.length_eq_zero_iff]
  omega

theorem remove_of_min_eq_zero {q : FrameQueue} {n : Nat} (h : min n q.frames.length = 0) :
    q.remove n = q := by
  have same : q.frames.drop n = q.frames := by
    rcases Nat.min_eq_zero_iff.mp h with zero | zero
    · rw [zero, List.drop_zero]
    · rw [List.length_eq_zero_iff.mp zero, List.drop_nil]
  rw [remove, same]

def fillFront (q : FrameQueue) (block : Array Sample) : Array Sample :=
  let moved := (q.frames.take (block.size / q.channels)).flatten
  (moved ++ block.toList.drop moved.length).toArray

def perform (q : FrameQueue) : BufferCall → BufferReply × FrameQueue
  | .push samples _ => (.accepted (q.accepts samples), q.push samples)
  | .pop block =>
      let frames := block.size / q.channels
      (.popped (min frames q.frames.length) (q.fillFront block), q.remove frames)
  | .peek frames => (.peeked (q.frames.take frames).flatten.toArray, q)
  | .advance frames => (.done, q.remove frames)
  | .discard frames => (.discarded (min frames q.frames.length), q.remove frames)
  | .retarget value =>
      if q.capacity < 2 ^ 63 then (.done, { q with threshold := min value.toNat q.capacity })
      else (.refused, q)

@[simp] theorem capacity_perform (q : FrameQueue) (call : BufferCall) :
    (q.perform call).2.capacity = q.capacity := by
  cases call with
  | retarget value =>
    rw [perform]
    split <;> rfl
  | _ => rfl

end FrameQueue

namespace Ring

def perform (r : Ring) : BufferCall → BufferReply × Ring
  | .push samples stamp =>
      let (frames, r) := r.push samples stamp
      (.accepted frames, r)
  | .pop block =>
      let (frames, block, r) := r.pop block
      (.popped frames block, r)
  | .peek frames =>
      let (first, second) := r.peek frames
      (.peeked (first ++ second), r)
  | .advance frames => (.done, r.consume (min frames r.queued))
  | .discard frames =>
      let (frames, r) := r.discard frames
      (.discarded frames, r)
  | .retarget value =>
      match r.retarget? value with
      | some r => (.done, r)
      | none => (.refused, r)

def frames (r : Ring) : List Frame := framesOf r.channels r.queued r.contents.toList

def emptyQueue (r : Ring) : FrameQueue :=
  { capacity := r.capacity.toNat, threshold := r.threshold.toNat, channels := r.channels }

end Ring

def transcript {σ : Type} (perform : σ → BufferCall → BufferReply × σ) (s : σ) :
    List BufferCall → List BufferReply × σ
  | [] => ([], s)
  | call :: calls =>
      let (reply, next) := perform s call
      let (replies, last) := transcript perform next calls
      (reply :: replies, last)

theorem capacity_transcript (q : FrameQueue) (calls : List BufferCall) :
    (transcript FrameQueue.perform q calls).2.capacity = q.capacity := by
  induction calls generalizing q with
  | nil => rfl
  | cons call calls ih =>
    rw [transcript, ih, q.capacity_perform]

def framesAccepted (replies : List BufferReply) : Nat :=
  (replies.map BufferReply.framesAccepted).sum

end SharedAudio

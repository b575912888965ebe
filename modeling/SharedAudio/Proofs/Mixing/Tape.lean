import SharedAudio.Proofs.Ring.Refinement
import SharedAudio.Mixer

namespace SharedAudio

structure Tape where
  given : List Frame := []
  used : List Frame := []
  queue : List Frame := []

namespace Tape

def write (t : Tape) (frames : List Frame) : Tape :=
  { t with given := t.given ++ frames, queue := t.queue ++ frames }

def use (t : Tape) (n : Nat) : Tape :=
  { t with used := t.used ++ t.queue.take n, queue := t.queue.drop n }

structure Tracks (t : Tape) (r : Ring) : Prop where
  held : r.Holds { r.emptyQueue with frames := t.queue } t.used.length
  split : t.given = t.used ++ t.queue
  short : t.given.length < 2 ^ 64

theorem tracks_fresh {r : Ring} (idle : r.counters = {}) (backed : r.Backed) : Tracks {} r where
  held := @Ring.holds_emptyQueue r 0 idle backed
  split := rfl
  short := by simp

namespace Tracks

variable {t : Tape} {r : Ring}

theorem exact (h : t.Tracks r) :
    r.attachment.window.Exact (t.used.length + t.queue.length) := by
  right
  rw [← List.length_append, ← h.split]
  exact h.short

theorem frames (h : t.Tracks r) : r.frames = t.queue := h.held.frames h.exact

theorem write (h : t.Tracks r) (samples : Array Sample) (stamp : Stamp)
    (short : (t.given ++ framesOf r.channels (r.push samples stamp).1 samples.toList).length <
      2 ^ 64) :
    (t.write (framesOf r.channels (r.push samples stamp).1 samples.toList)).Tracks
      (r.push samples stamp).2 := by
  have accepted := h.held.push_fst samples stamp
  have queue : (FrameQueue.push { r.emptyQueue with frames := t.queue } samples).frames =
      t.queue ++ framesOf r.channels (r.push samples stamp).1 samples.toList := by
    rw [accepted]
    rfl
  have given : t.given ++ framesOf r.channels (r.push samples stamp).1 samples.toList =
      t.used ++ (t.queue ++ framesOf r.channels (r.push samples stamp).1 samples.toList) := by
    rw [h.split, List.append_assoc]
  have fits : r.attachment.window.Exact (t.used.length +
      (FrameQueue.push { r.emptyQueue with frames := t.queue } samples).frames.length) := by
    right
    rw [queue, ← List.length_append, ← given]
    exact short
  refine ⟨?_, given, short⟩
  rw [Tape.write, ← queue]
  exact h.held.push samples stamp fits

theorem use (h : t.Tracks r) (n : Nat) : (t.use n).Tracks (r.consume (min n r.queued)) := by
  have held := h.held.consume n
  have queued := h.held.queued
  refine ⟨?_, ?_, h.short⟩
  · have length : (t.use n).used.length = t.used.length + min n r.queued := by
      rw [Tape.use, List.length_append, List.length_take, queued]
    rw [length]
    exact held
  · rw [Tape.use, List.append_assoc, List.take_append_drop]
    exact h.split

end Tracks

end Tape

end SharedAudio

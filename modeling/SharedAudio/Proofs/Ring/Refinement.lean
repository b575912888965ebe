import SharedAudio.Proofs.Fifo.Position
import SharedAudio.Proofs.Ring.Circle
import SharedAudio.Proofs.Ring.Mapping
import SharedAudio.Proofs.Ring.Queue

namespace SharedAudio

theorem toList_overlay_twice (cells : Array Sample) (first second : List Sample)
    (fits : first.length + second.length ≤ cells.size) :
    (overlay (overlay cells 0 first) first.length second).toList =
      first ++ second ++ cells.toList.drop (first.length + second.length) := by
  apply List.ext_getElem?
  intro i
  rw [Array.getElem?_toList, List.append_assoc]
  by_cases front : i < first.length
  · have place := @getElem?_overlay cells first 0 i (by omega) front
    rw [Nat.zero_add] at place
    rw [getElem?_overlay_of_lt front, place, List.getElem?_append_left front]
  · obtain ⟨j, rfl⟩ := Nat.exists_eq_add_of_le (Nat.le_of_not_lt front)
    rw [List.getElem?_append_right (by omega), Nat.add_sub_cancel_left]
    by_cases middle : j < second.length
    · rw [getElem?_overlay (by rw [size_overlay]; omega) middle,
        List.getElem?_append_left middle]
    · rw [getElem?_overlay_of_ge (by omega), getElem?_overlay_of_ge (by omega),
        List.getElem?_append_right (by omega), List.getElem?_drop, Array.getElem?_toList]
      congr 1
      omega

namespace Attachment

theorem arc_index (a : Attachment) (cells : Array Sample) (n count : Nat) :
    arc cells a.span (n % a.capacity * a.channels) count =
      arc cells a.span (n * a.channels) count := by
  rw [← arc_mod cells a.span (n * a.channels), span, Nat.mul_mod_mul_right]

theorem arc_write_behind (a : Attachment) {cells : Array Sample} {block : List Sample}
    {first queued count : Nat} (backed : a.span ≤ cells.size) (some : 0 < count)
    (length : block.length = count * a.channels) (room : queued + count ≤ a.capacity) :
    let parts := a.stretches ((first + queued) % a.capacity) count
    arc (Stretch.Cover.write parts.1 parts.2 cells block) a.span (first * a.channels)
        ((queued + count) * a.channels) =
      arc cells a.span (first * a.channels) (queued * a.channels) ++ block := by
  intro parts
  have cover := a.cover_stretches (Nat.mod_lt (first + queued) (show 0 < a.capacity by omega))
    (show count ≤ a.capacity by omega)
  have meets : (first * a.channels + queued * a.channels) % a.span =
      ((first + queued) % a.capacity * a.channels) % a.span := by
    rw [span, Nat.mul_mod_mul_right, Nat.mod_mod, ← Nat.add_mul, Nat.mul_mod_mul_right]
  have apart : queued * a.channels + count * a.channels ≤ a.span := by
    rw [← Nat.add_mul]
    exact Nat.mul_le_mul_right _ room
  have old := cover.arc_write_of_disjoint backed length meets apart
  have new := cover.arc_write backed length
  rw [arc_index] at new
  rw [Nat.add_mul, arc_add, ← Nat.add_mul, old, new]

theorem push_of_pos (a : Attachment) (m : Memory) (samples : Array Sample) (stamp : Stamp)
    {frames : Nat} (accepted : min (samples.size / a.channels) (a.room m) = frames)
    (some : 0 < frames) (within : frames ≤ a.capacity) :
    a.push m samples stamp =
      (frames, ((m.setCells (Stretch.Cover.write (a.stretches (a.writeIndex m) frames).1
        (a.stretches (a.writeIndex m) frames).2 m.cells
        (samples.toList.take (frames * a.channels)))).setCounters
          (m.counters.publish frames)).setStamp stamp) := by
  have total := a.stretches_size (a.writeIndex m) frames
  rw [Nat.min_eq_left within] at total
  simp only [push, accepted, if_neg (Nat.ne_of_gt some), Stretch.Cover.write]
  generalize a.stretches (a.writeIndex m) frames = parts at total
  have head : (samples.extract 0 parts.1.size).toList =
      (samples.toList.take (frames * a.channels)).take parts.1.size := by
    rw [Array.toList_extract, List.extract_eq_take_drop, List.drop_zero, Nat.sub_zero,
      List.take_take, Nat.min_eq_left (by omega)]
  have tail : (samples.extract parts.1.size (parts.1.size + parts.2.size)).toList =
      (samples.toList.take (frames * a.channels)).drop parts.1.size := by
    rw [total, Array.toList_extract, List.extract_eq_take_drop, List.drop_take]
  rw [head, tail]

end Attachment

namespace Ring

structure Holds (r : Ring) (q : FrameQueue) (first : Nat) : Prop where
  capacity : r.capacity.toNat = q.capacity
  threshold : r.threshold.toNat = q.threshold
  channels : r.channels = q.channels
  backed : r.attachment.span ≤ r.memory.cells.size
  counted : r.counters.Span first (first + q.frames.length)
  within : q.frames.length ≤ q.capacity
  wide : Wide r.channels q.frames
  stored : arc r.memory.cells r.attachment.span (first * r.channels)
    (q.frames.length * r.channels) = q.frames.flatten

namespace Holds

variable {r : Ring} {q : FrameQueue} {first : Nat}

theorem queued (h : r.Holds q first) : r.queued = q.frames.length := by
  have count := h.counted.queued
  rw [Nat.add_sub_cancel_left] at count
  exact count

theorem room (h : r.Holds q first) : r.room = q.threshold - q.frames.length := by
  rw [← h.threshold, ← h.queued]
  rfl

theorem capacity_ne_zero (h : r.Holds q first) (n : Nat) (some : 0 < n) (le : n ≤ q.capacity) :
    r.attachment.window.capacity ≠ 0 := by
  intro zero
  have none : r.capacity.toNat = 0 := by rw [Ring.capacity, zero]; rfl
  rw [h.capacity] at none
  omega

theorem writeIndex (h : r.Holds q first) (nonzero : r.attachment.window.capacity ≠ 0)
    (exact : r.attachment.window.Exact (first + q.frames.length)) :
    r.attachment.writeIndex r.memory = (first + q.frames.length) % r.attachment.capacity := by
  rw [Attachment.writeIndex, show r.memory.counters.write = _ from h.counted.write,
    Window.index_ofNat nonzero exact]
  rfl

theorem cover_readable (h : r.Holds q first)
    (exact : r.attachment.window.Exact (first + q.frames.length)) (n : Nat)
    (some : 0 < min n q.frames.length) :
    (r.readable n).1.Cover (r.readable n).2 r.attachment.span
      (first % r.attachment.capacity * r.channels) (min n q.frames.length * r.channels) := by
  have within := h.within
  have nonzero := h.capacity_ne_zero (min n q.frames.length) some (by omega)
  have index : r.attachment.readIndex r.memory = first % r.attachment.capacity := by
    rw [Attachment.readIndex, show r.memory.counters.read = _ from h.counted.read,
      Window.index_ofNat nonzero (exact.mono (by omega))]
    rfl
  have readable : r.readable n =
      r.attachment.stretches (first % r.attachment.capacity) (min n q.frames.length) := by
    have queued : r.memory.queued = q.frames.length := h.queued
    simp only [Ring.readable, Attachment.readable, queued]
    rw [if_neg (by omega), index]
  rw [readable]
  apply r.attachment.cover_stretches
  · exact Nat.mod_lt _ (Window.capacity_pos nonzero)
  · have capacity : r.attachment.capacity = q.capacity := h.capacity
    omega

theorem read_of_cover (h : r.Holds q first) {front back : Stretch} {k : Nat}
    (le : k ≤ q.frames.length) (cover : front.Cover back r.attachment.span
      (first % r.attachment.capacity * r.channels) (k * r.channels)) :
    (front.read r.memory.cells).toList ++ (back.read r.memory.cells).toList =
      (q.frames.take k).flatten := by
  have read := cover.toList_read h.backed
  rw [show r.channels = r.attachment.channels from rfl, Attachment.arc_index] at read
  rw [h.wide.flatten_take, ← h.stored, take_arc _ _ _ (Nat.mul_le_mul_right _ le)]
  exact read

theorem peek (h : r.Holds q first)
    (exact : r.attachment.window.Exact (first + q.frames.length)) (n : Nat) :
    (r.peek n).1.toList ++ (r.peek n).2.toList = (q.frames.take n).flatten := by
  rcases Nat.eq_zero_or_pos (min n q.frames.length) with none | some
  · have queued : r.memory.queued = q.frames.length := h.queued
    have taken := q.take_of_min_eq_zero none
    simp [Ring.peek, Attachment.peek, Attachment.readable, queued, none, taken, Stretch.read,
      Stretch.stop]
  · rw [List.take_eq_take_min]
    exact h.read_of_cover (Nat.min_le_right _ _) (h.cover_readable exact n some)

theorem size_peek (h : r.Holds q first)
    (exact : r.attachment.window.Exact (first + q.frames.length)) (n : Nat) :
    (r.peek n).1.size = (r.readable n).1.size ∧ (r.peek n).2.size = (r.readable n).2.size := by
  rcases Nat.eq_zero_or_pos (min n q.frames.length) with none | some
  · have queued : r.memory.queued = q.frames.length := h.queued
    simp [Ring.readable, Ring.peek, Attachment.peek, Attachment.readable, queued, none,
      Stretch.read, Stretch.stop]
  · exact (h.cover_readable exact n some).size_read h.backed

theorem frames (h : r.Holds q first)
    (exact : r.attachment.window.Exact (first + q.frames.length)) : r.frames = q.frames := by
  have peeked := h.peek exact q.frames.length
  rw [List.take_length] at peeked
  rw [Ring.frames, Ring.contents, Array.toList_append, h.queued, peeked, h.wide.framesOf_flatten]

theorem consume (h : r.Holds q first) (n : Nat) :
    (r.consume (min n r.queued)).Holds (q.remove n) (first + min n r.queued) := by
  have queued := h.queued
  have within := h.within
  have length : (q.remove n).frames.length = q.frames.length - min n r.queued := by
    rw [FrameQueue.remove, List.length_drop, queued]
    omega
  refine ⟨h.capacity, h.threshold, h.channels, ?_, ?_, ?_, h.wide.drop n, ?_⟩
  · have backed := h.backed
    simpa [Ring.consume, Memory.consume] using backed
  · have moved := h.counted.consume (Nat.min_le_right n r.counters.queued)
    rw [length]
    have all : first + min n r.queued + (q.frames.length - min n r.queued) =
        first + q.frames.length := by omega
    rw [all]
    simpa [Ring.consume, Ring.counters, Memory.consume, Ring.queued, Memory.queued] using moved
  · rw [length]
    exact Nat.le_trans (Nat.sub_le _ _) within
  · have cut : min n r.queued * r.channels ≤ q.frames.length * r.channels :=
      Nat.mul_le_mul_right _ (by omega)
    have rest := drop_arc r.memory.cells r.attachment.span (first * r.channels) cut
    rw [h.stored, ← Nat.add_mul, ← Nat.sub_mul, ← h.wide.flatten_drop] at rest
    have dropped : q.frames.drop (min n r.queued) = q.frames.drop n := by
      rw [queued]
      rcases Nat.le_total n q.frames.length with le | le
      · rw [Nat.min_eq_left le]
      · rw [Nat.min_eq_right le, List.drop_length, List.drop_of_length_le le]
    rw [dropped] at rest
    rw [length]
    simpa [Ring.consume, Memory.consume, FrameQueue.remove, Ring.channels] using rest.symm

theorem accepted (h : r.Holds q first) (samples : Array Sample) :
    min (samples.size / r.attachment.channels) (r.attachment.room r.memory) =
      q.accepts samples := by
  rw [FrameQueue.accepts, ← h.room, ← h.channels]
  rfl

theorem push_fst (h : r.Holds q first) (samples : Array Sample) (stamp : Stamp) :
    (r.push samples stamp).1 = q.accepts samples := by
  simp only [Ring.push, Attachment.push, h.accepted]
  split
  next none => exact none.symm
  next => rfl

theorem accepts_le (h : r.Holds q first) (samples : Array Sample) :
    q.accepts samples ≤ q.capacity - q.frames.length := by
  have threshold : q.threshold ≤ q.capacity := by
    rw [← h.threshold, ← h.capacity]
    exact r.attachment.window.threshold_le
  have := Nat.min_le_right (samples.size / q.channels) (q.threshold - q.frames.length)
  rw [FrameQueue.accepts]
  omega

theorem accepts_mul_le (h : r.Holds q first) (samples : Array Sample) :
    q.accepts samples * r.channels ≤ samples.size := by
  have le := Nat.min_le_left (samples.size / q.channels) (q.threshold - q.frames.length)
  rw [h.channels]
  exact Nat.le_trans (Nat.mul_le_mul_right _ le) (Nat.div_mul_le_self _ _)

theorem push (h : r.Holds q first) (samples : Array Sample) (stamp : Stamp)
    (exact : r.attachment.window.Exact (first + (q.push samples).frames.length)) :
    (r.push samples stamp).2.Holds (q.push samples) first := by
  have accepted := h.accepted samples
  have length := q.length_push samples
  have bound := h.accepts_le samples
  have present := h.accepts_mul_le samples
  rcases Nat.eq_zero_or_pos (q.accepts samples) with none | some
  · have same : q.push samples = q := by
      rw [FrameQueue.push, none]
      simp [framesOf]
    simp only [Ring.push, Attachment.push, accepted, none, if_true, same]
    exact h
  · have within := h.within
    have nonzero := h.capacity_ne_zero (q.accepts samples) some (by omega)
    have capacity : r.attachment.capacity = q.capacity := h.capacity
    have index : r.attachment.writeIndex r.memory =
        (first + q.frames.length) % r.attachment.capacity :=
      h.writeIndex nonzero (exact.mono (by omega))
    have count : (samples.toList.take (q.accepts samples * r.attachment.channels)).length =
        q.accepts samples * r.attachment.channels := by
      rw [List.length_take, Array.length_toList]
      exact Nat.min_eq_left present
    have pushed := r.attachment.push_of_pos r.memory samples stamp accepted some (by omega)
    rw [index] at pushed
    simp only [Ring.push, pushed]
    refine ⟨h.capacity, h.threshold, h.channels, ?_, ?_, ?_, ?_, ?_⟩
    · simpa [Stretch.Cover.write] using h.backed
    · have moved := h.counted.publish (show r.counters.queued + q.accepts samples < 2 ^ 64 by
        have := r.attachment.window.capacity.toNat_lt
        have queued : r.counters.queued = q.frames.length := h.queued
        have capacity : r.attachment.window.capacity.toNat = q.capacity := h.capacity
        omega)
      rw [length, ← Nat.add_assoc]
      simpa [Ring.counters] using moved
    · rw [length]
      change q.frames.length + q.accepts samples ≤ q.capacity
      omega
    · exact h.wide.append (by
        rw [← h.channels]
        exact wide_framesOf present)
    · simp only [Memory.cells_setStamp, Memory.cells_setCounters, Memory.cells_setCells]
      have room : q.frames.length + q.accepts samples ≤ r.attachment.capacity := by omega
      have stored := @Attachment.arc_write_behind _ _ _ first _ _ h.backed some count room
      rw [length, FrameQueue.push, List.flatten_append, flatten_framesOf, ← h.stored, ← h.channels]
      exact stored

theorem pop_of_none (h : r.Holds q first) {block : Array Sample}
    (none : min (block.size / r.channels) q.frames.length = 0) : r.pop block = (0, block, r) := by
  have empty : r.attachment.readable r.memory (block.size / r.channels) = (⟨0, 0⟩, ⟨0, 0⟩) := by
    simp only [Attachment.readable, show r.memory.queued = q.frames.length from h.queued, none,
      if_true]
  simp only [Ring.pop, Attachment.pop]
  rw [show r.attachment.channels = r.channels from rfl, empty]
  simp

theorem pop_of_some (h : r.Holds q first)
    (exact : r.attachment.window.Exact (first + q.frames.length)) {block : Array Sample}
    (some : 0 < min (block.size / r.channels) q.frames.length) :
    r.pop block = (min (block.size / r.channels) q.frames.length,
      overlay (overlay block 0 (r.peek (block.size / r.channels)).1.toList)
        (r.readable (block.size / r.channels)).1.size (r.peek (block.size / r.channels)).2.toList,
      r.consume (min (block.size / r.channels) q.frames.length)) := by
  have total := (h.cover_readable exact (block.size / r.channels) some).total
  have frames : ((r.readable (block.size / r.channels)).1.size +
      (r.readable (block.size / r.channels)).2.size) / r.channels =
        min (block.size / r.channels) q.frames.length := by
    rw [total, Nat.mul_div_cancel _ r.channels_pos]
  simp only [Ring.readable] at frames
  simp only [Ring.pop, Attachment.pop]
  rw [show r.attachment.channels = r.channels from rfl, frames, if_neg (by omega)]
  rfl

theorem pop (h : r.Holds q first)
    (exact : r.attachment.window.Exact (first + q.frames.length)) (block : Array Sample) :
    (r.pop block).1 = min (block.size / q.channels) q.frames.length ∧
      (r.pop block).2.1 = q.fillFront block ∧
      (r.pop block).2.2.Holds (q.remove (block.size / q.channels))
        (first + min (block.size / q.channels) q.frames.length) := by
  rw [← h.channels]
  rcases Nat.eq_zero_or_pos (min (block.size / r.channels) q.frames.length) with none | some
  · have moved := q.take_of_min_eq_zero none
    rw [h.pop_of_none none, none, FrameQueue.remove_of_min_eq_zero none, FrameQueue.fillFront,
      ← h.channels, moved]
    exact ⟨rfl, by simp, h⟩
  · have consumed := h.consume (block.size / r.channels)
    have peeked := h.peek exact (block.size / r.channels)
    have sizes := h.size_peek exact (block.size / r.channels)
    have total := (h.cover_readable exact (block.size / r.channels) some).total
    have fits : min (block.size / r.channels) q.frames.length * r.channels ≤ block.size :=
      Nat.le_trans (Nat.mul_le_mul_right _ (Nat.min_le_left _ _)) (Nat.div_mul_le_self _ _)
    rw [h.queued] at consumed
    rw [← sizes.1, ← sizes.2] at total
    rw [h.pop_of_some exact some, ← sizes.1]
    have filled := toList_overlay_twice block (r.peek (block.size / r.channels)).1.toList
      (r.peek (block.size / r.channels)).2.toList (by
        rw [Array.length_toList, Array.length_toList, total]
        exact fits)
    rw [← List.length_append, peeked, Array.length_toList] at filled
    refine ⟨rfl, ?_, consumed⟩
    apply Array.toList_inj.mp
    rw [FrameQueue.fillFront, ← h.channels]
    exact filled

theorem retarget? (h : r.Holds q first) (value : Int) :
    if q.capacity < 2 ^ 63 then
      ∃ s, r.retarget? value = some s ∧
        s.Holds { q with threshold := min value.toNat q.capacity } first
    else r.retarget? value = none := by
  have half : UInt64.size / 2 = 2 ^ 63 := rfl
  have capacity : r.attachment.window.capacity.toNat = q.capacity := h.capacity
  split
  next small =>
    have found : r.attachment.window.retarget? value =
        some (.new r.attachment.window.capacity (UInt64.ofNat (min value.toNat q.capacity))) := by
      rw [Window.retarget?, capacity, half, if_pos small]
    refine ⟨_, by rw [Ring.retarget?, Attachment.retarget?, found]; rfl, ?_⟩
    refine ⟨capacity, ?_, h.channels, h.backed, h.counted, h.within, h.wide, h.stored⟩
    have bound := r.attachment.window.capacity.toNat_lt
    have value :
        (UInt64.ofNat (min value.toNat q.capacity)).toNat = min value.toNat q.capacity := by
      rw [UInt64.toNat_ofNat', Nat.mod_eq_of_lt (by omega)]
    simp only [Ring.threshold, Window.new]
    rw [if_pos (UInt64.le_iff_toNat_le.mpr (by omega)), value]
  next large =>
    have none : r.attachment.window.retarget? value = none := by
      rw [Window.retarget?, capacity, half, if_neg large]
    rw [Ring.retarget?, Attachment.retarget?, none]
    rfl

theorem perform (h : r.Holds q first) (call : BufferCall)
    (exact : r.attachment.window.Exact
      (first + q.frames.length + (r.perform call).1.framesAccepted)) :
    (r.perform call).1 = (q.perform call).1 ∧
      ∃ next, (r.perform call).2.Holds (q.perform call).2 next ∧
        next + (q.perform call).2.frames.length =
          first + q.frames.length + (r.perform call).1.framesAccepted := by
  have now := exact.mono (Nat.le_add_right (first + q.frames.length) _)
  have removed (n : Nat) : first + min n q.frames.length + (q.remove n).frames.length =
      first + q.frames.length + 0 := by
    rw [q.length_remove]
    omega
  cases call with
  | push samples stamp =>
    have count := h.push_fst samples stamp
    have length := q.length_push samples
    simp only [Ring.perform, BufferReply.framesAccepted, count] at exact ⊢
    rw [Nat.add_assoc, ← length] at exact
    refine ⟨rfl, first, h.push samples stamp exact, ?_⟩
    rw [FrameQueue.perform, length, Nat.add_assoc]
  | pop block =>
    obtain ⟨count, filled, held⟩ := h.pop now block
    refine ⟨?_, _, held, removed _⟩
    simp only [Ring.perform, FrameQueue.perform, count, filled]
  | peek n =>
    refine ⟨?_, first, h, rfl⟩
    have peeked := h.peek now n
    simp only [Ring.perform, FrameQueue.perform, ← peeked]
    simp
  | advance n =>
    have held := h.consume n
    rw [h.queued] at held
    refine ⟨rfl, _, ?_, removed n⟩
    simp only [Ring.perform, h.queued]
    exact held
  | discard n =>
    have held := h.consume n
    rw [h.queued] at held
    have dropped : r.discard n = (min n q.frames.length, r.consume (min n q.frames.length)) := by
      rw [← h.queued]
      rfl
    simp only [Ring.perform, FrameQueue.perform, dropped, true_and]
    exact ⟨_, held, removed n⟩
  | retarget value =>
    have moved := h.retarget? value
    simp only [Ring.perform, FrameQueue.perform]
    split at moved
    next small =>
      obtain ⟨s, found, held⟩ := moved
      rw [found, if_pos small]
      exact ⟨rfl, first, held, rfl⟩
    next large =>
      rw [moved, if_neg large]
      exact ⟨rfl, first, h, rfl⟩

theorem transcript (h : r.Holds q first) (calls : List BufferCall)
    (exact : q.capacity ∣ 2 ^ 64 ∨ first + q.frames.length +
      framesAccepted (transcript Ring.perform r calls).1 < 2 ^ 64) :
    (transcript Ring.perform r calls).1 = (transcript FrameQueue.perform q calls).1 ∧
      ∃ next, (transcript Ring.perform r calls).2.Holds
          (transcript FrameQueue.perform q calls).2 next ∧
        next + (transcript FrameQueue.perform q calls).2.frames.length =
          first + q.frames.length + framesAccepted (transcript Ring.perform r calls).1 := by
  induction calls generalizing r q first with
  | nil => exact ⟨rfl, first, h, rfl⟩
  | cons call calls ih =>
    simp only [SharedAudio.transcript, framesAccepted, List.map_cons, List.sum_cons] at exact ih ⊢
    have now : r.attachment.window.Exact
        (first + q.frames.length + (r.perform call).1.framesAccepted) := by
      rw [Window.Exact, show r.attachment.window.capacity.toNat = q.capacity from h.capacity]
      exact exact.imp id fun small => by omega
    obtain ⟨reply, next, held, place⟩ := h.perform call now
    obtain ⟨replies, last, final, lastPlace⟩ := ih held (by
      rw [FrameQueue.capacity_perform, place]
      exact exact.imp id fun small => by omega)
    refine ⟨by rw [reply, replies], last, final, ?_⟩
    rw [lastPlace, place]
    omega

end Holds

def Backed (r : Ring) : Prop := r.capacity.toNat * r.channels ≤ r.memory.cells.size

theorem backed_heap (capacity channels : UInt64) : (heap capacity channels).Backed := by
  have size : (heap capacity channels).memory.cells.size =
      capacity.toNat * (atLeastOne channels).toNat := by simp [heap, Memory.cells]
  rw [Backed, size]
  exact Nat.le_refl _

theorem backed_shared {capacity channels : UInt64} {r : Ring}
    (made : shared? capacity channels = some (.ok r)) : r.Backed := by
  obtain ⟨bytes, a, attached, rfl⟩ := exists_attachment made
  change a.capacity * a.channels ≤ (Mapping.zeroed bytes _).cells.size
  rw [Mapping.cells_zeroed attached, Array.size_replicate]

theorem holds_emptyQueue {r : Ring} {start : UInt64} (idle : r.counters = .startingAt start)
    (backed : r.Backed) : r.Holds r.emptyQueue start.toNat where
  capacity := rfl
  threshold := rfl
  channels := rfl
  backed := backed
  counted := idle ▸ Counters.span_startingAt start
  within := Nat.zero_le _
  wide := by simp [Wide, emptyQueue]
  stored := by simp [arc, emptyQueue]

theorem refines_queue (r : Ring) (start : UInt64) (calls : List BufferCall)
    (idle : r.counters = .startingAt start) (backed : r.Backed)
    (exact : r.capacity.toNat ∣ 2 ^ 64 ∨
      start.toNat + framesAccepted (transcript Ring.perform r calls).1 < 2 ^ 64) :
    let queue := (transcript FrameQueue.perform r.emptyQueue calls).2
    let ring := (transcript Ring.perform r calls).2
    (transcript Ring.perform r calls).1 = (transcript FrameQueue.perform r.emptyQueue calls).1 ∧
      ring.frames = queue.frames ∧ ring.threshold.toNat = queue.threshold ∧
      ring.queued = queue.frames.length ∧ ring.queued ≤ r.capacity.toNat := by
  intro queue ring
  obtain ⟨replies, next, final, place⟩ := (holds_emptyQueue idle backed).transcript calls exact
  have bound := final.within
  have capacity : queue.capacity = r.capacity.toNat := capacity_transcript r.emptyQueue calls
  have last : ring.attachment.window.Exact (next + queue.frames.length) := by
    rw [Window.Exact, show ring.attachment.window.capacity.toNat = queue.capacity from
      final.capacity, capacity, place]
    exact exact
  refine ⟨replies, final.frames last, final.threshold, final.queued, ?_⟩
  rw [final.queued]
  exact capacity ▸ bound

theorem refines_queue_across_wrap :
    let r : Ring := ⟨⟨.full 4, 2, by decide, by decide⟩,
      .heap (.startingAt 18446744073709551615) (.given 0) (.replicate 8 0)⟩
    let calls := [.push #[1, 2, 3, 4, 5, 6] .clock, .pop #[0, 0, 0, 0, 9]]
    (transcript Ring.perform r calls).1 =
        [.accepted 3, .popped 2 #[1, 2, 3, 4, 9]] ∧
      (transcript Ring.perform r calls).2.frames = [[5, 6]] := by
  intro r calls
  have backed : r.Backed := by
    rw [Backed, show r.memory.cells.size = 8 by rfl]
    decide
  obtain ⟨replies, frames, -⟩ :=
    refines_queue r 18446744073709551615 calls rfl backed (.inl (by decide))
  refine ⟨replies.trans ?_, frames.trans ?_⟩
  · simp [transcript, FrameQueue.perform, FrameQueue.accepts, FrameQueue.push, FrameQueue.fillFront,
      emptyQueue, calls, r, Ring.capacity, Ring.threshold, Ring.channels, Window.full, framesOf]
  · simp [transcript, FrameQueue.perform, FrameQueue.accepts, FrameQueue.push, FrameQueue.remove,
      emptyQueue, calls, r, Ring.capacity, Ring.threshold, Ring.channels, Window.full, framesOf]

end Ring

end SharedAudio

import SharedAudio.Proofs.Ring.Refinement

namespace SharedAudio

@[simp] theorem FrameQueue.channels_perform (q : FrameQueue) (call : BufferCall) :
    (q.perform call).2.channels = q.channels := by
  cases call with
  | retarget value =>
    rw [perform]
    split <;> rfl
  | _ => rfl

theorem framesAccepted_cons (reply : BufferReply) (replies : List BufferReply) :
    framesAccepted (reply :: replies) = reply.framesAccepted + framesAccepted replies := by
  simp [framesAccepted]

theorem framesAccepted_append (replies more : List BufferReply) :
    framesAccepted (replies ++ more) = framesAccepted replies + framesAccepted more := by
  simp [framesAccepted]

def BufferCall.produces : BufferCall → Bool
  | .push _ _ | .retarget _ => true
  | .pop _ | .peek _ | .advance _ | .discard _ => false

def Ring.through (r : Ring) (regions : Stretch × Stretch) : Array Sample × Array Sample :=
  (regions.1.read r.memory.cells, regions.2.read r.memory.cells)

def joined (parts : Array Sample × Array Sample) : List Sample :=
  parts.1.toList ++ parts.2.toList

namespace Ring.Holds

variable {r s : Ring} {q : FrameQueue} {first : Nat}

theorem share (h : r.Holds q first) (memory : s.memory = r.memory)
    (capacity : s.capacity = r.capacity) (channels : s.channels = r.channels) :
    s.Holds { q with threshold := s.threshold.toNat } first := by
  have span : s.attachment.span = r.attachment.span := by
    rw [Attachment.span, Attachment.span, Attachment.capacity, Attachment.capacity]
    rw [show s.attachment.window.capacity = r.attachment.window.capacity from capacity,
      show s.attachment.channels = r.attachment.channels from channels]
  refine ⟨?_, rfl, channels.trans h.channels, ?_, ?_, h.within, ?_, ?_⟩
  · rw [capacity]
    exact h.capacity
  · rw [span, memory]
    exact h.backed
  · rw [counters, memory]
    exact h.counted
  · rw [channels]
    exact h.wide
  · rw [memory, span, channels]
    exact h.stored

theorem produce (h : r.Holds q first) {call : BufferCall} (produces : call.produces = true)
    (exact : r.attachment.window.Exact
      (first + q.frames.length + (r.perform call).1.framesAccepted)) :
    ∃ more, (r.perform call).2.Holds
        { q with
          threshold := (r.perform call).2.threshold.toNat
          frames := q.frames ++ more } first ∧
      more.length = (r.perform call).1.framesAccepted := by
  cases call with
  | push samples stamp =>
    have count := h.push_fst samples stamp
    simp only [Ring.perform, BufferReply.framesAccepted, count] at exact ⊢
    rw [Nat.add_assoc, ← q.length_push samples] at exact
    refine ⟨framesOf q.channels (q.accepts samples) samples.toList, ?_, length_framesOf ..⟩
    exact (h.push samples stamp exact).share rfl rfl rfl
  | retarget value =>
    have moved := h.retarget? value
    simp only [Ring.perform]
    split at moved
    next small =>
      obtain ⟨s, found, held⟩ := moved
      rw [found]
      refine ⟨[], ?_, rfl⟩
      rw [List.append_nil]
      exact held.share rfl rfl rfl
    next large =>
      rw [moved]
      refine ⟨[], ?_, rfl⟩
      rw [List.append_nil]
      exact h.share rfl rfl rfl
  | pop _ | peek _ | advance _ | discard _ => cases produces

theorem through_readable (h : r.Holds q first) {more : List Frame} {threshold : Nat}
    (later : s.Holds { q with threshold, frames := q.frames ++ more } first)
    (exact : r.attachment.window.Exact (first + q.frames.length)) (n : Nat) :
    s.through (r.readable n) = r.through (r.readable n) := by
  rcases Nat.eq_zero_or_pos (min n q.frames.length) with none | some
  · have queued : r.memory.queued = q.frames.length := h.queued
    simp [through, Ring.readable, Attachment.readable, queued, none, Stretch.read, Stretch.stop]
  · have le := Nat.min_le_right n q.frames.length
    have cover := h.cover_readable exact n some
    have capacity : s.attachment.capacity = r.attachment.capacity :=
      later.capacity.trans h.capacity.symm
    have channels : s.channels = r.channels := later.channels.trans h.channels.symm
    have span : s.attachment.span = r.attachment.span := by
      rw [Attachment.span, Attachment.span, capacity]
      exact congrArg _ channels
    have coverLater := cover
    rw [← span, ← capacity, ← channels] at coverLater
    have before := h.read_of_cover le cover
    have after := later.read_of_cover (Nat.le_trans le (by simp)) coverLater
    rw [List.take_append_of_le_length le, ← before] at after
    have sizes := (coverLater.size_read later.backed).1.trans (cover.size_read h.backed).1.symm
    obtain ⟨front, back⟩ := List.append_inj after (by simpa using sizes)
    exact Prod.ext (Array.toList_inj.mp front) (Array.toList_inj.mp back)

theorem joined_peek_consume (h : r.Holds q first) {more : List Frame} {threshold : Nat}
    (later : s.Holds { q with threshold, frames := q.frames ++ more } first)
    (exact : r.attachment.window.Exact (first + q.frames.length))
    (exactLater : s.attachment.window.Exact (first + (q.frames ++ more).length)) (n m : Nat) :
    ∃ rest, ∀ k, joined ((s.consume (min m s.queued)).peek k) =
      ((joined (r.peek n)).drop (m * r.channels) ++ rest).take (k * r.channels) := by
  refine ⟨((q.frames.drop n ++ more).drop (m - (q.frames.take n).length)).flatten, fun k => ?_⟩
  have seen : joined (r.peek n) = (q.frames.take n).flatten := h.peek exact n
  have held := later.consume m
  have channels : s.channels = r.channels := later.channels.trans h.channels.symm
  have count :
      (FrameQueue.remove { q with threshold, frames := q.frames ++ more } m).frames.length =
        (q.frames ++ more).length - min m s.queued := by
    rw [FrameQueue.length_remove, later.queued]
  have within : min m s.queued ≤ (q.frames ++ more).length := by
    rw [later.queued]
    exact Nat.min_le_right _ _
  have left : joined ((s.consume (min m s.queued)).peek k) =
      (((q.frames ++ more).drop m).take k).flatten :=
    held.peek (by
      rw [count, Nat.add_assoc, Nat.add_sub_cancel' within]
      exact exactLater) k
  have wide := later.wide.drop m
  rw [channels] at wide
  rw [left, wide.flatten_take, seen, ← (h.wide.take n).flatten_drop, ← List.flatten_append,
    ← List.drop_append, ← List.append_assoc, List.take_append_drop]

end Ring.Holds

namespace Pair

def performAll (p : Pair) : List (Side × BufferCall) → List BufferReply × Pair
  | [] => ([], p)
  | (side, call) :: calls =>
      let (reply, r) := (p.ring side).perform call
      let (replies, last) := (p.update side r).performAll calls
      (reply :: replies, last)

theorem performAll_append (p : Pair) (calls more : List (Side × BufferCall)) :
    p.performAll (calls ++ more) =
      ((p.performAll calls).1 ++ ((p.performAll calls).2.performAll more).1,
        ((p.performAll calls).2.performAll more).2) := by
  induction calls generalizing p with
  | nil => rfl
  | cons call calls ih => simp only [List.cons_append, performAll, ih]

structure Stores (p : Pair) (capacity : UInt64) (channels : Nat) (frames : List Frame)
    (first : Nat) : Prop where
  tall : ∀ side, (p.ring side).capacity = capacity
  wide : ∀ side, (p.ring side).channels = channels
  holds : ∀ side, (p.ring side).Holds
    ⟨capacity.toNat, (p.ring side).threshold.toNat, channels, frames⟩ first

namespace Stores

variable {p : Pair} {capacity : UInt64} {channels : Nat} {frames more : List Frame}
  {first next : Nat}

theorem update (h : p.Stores capacity channels frames first) (side : Side) {r : Ring}
    {q : FrameQueue} (sameCapacity : r.capacity = capacity) (sameChannels : r.channels = channels)
    (held : r.Holds q next) : (p.update side r).Stores capacity channels q.frames next := by
  have capacities (other : Side) : ((p.update side r).ring other).capacity = capacity := by
    have kept := h.tall other
    cases side <;> cases other <;> first | exact sameCapacity | exact kept
  have channelCounts (other : Side) : ((p.update side r).ring other).channels = channels := by
    have kept := h.wide other
    cases side <;> cases other <;> first | exact sameChannels | exact kept
  have memory (other : Side) : ((p.update side r).ring other).memory = r.memory := by
    cases side <;> cases other <;> rfl
  refine ⟨capacities, channelCounts, fun other => ?_⟩
  have shared := held.share (memory other) ((capacities other).trans sameCapacity.symm)
    ((channelCounts other).trans sameChannels.symm)
  have size : q.capacity = capacity.toNat := by rw [← held.capacity, sameCapacity]
  have width : q.channels = channels := by rw [← held.channels, sameChannels]
  rw [size, width] at shared
  exact shared

theorem exact_of (h : p.Stores capacity channels frames first) (side : Side) {n : Nat}
    (exact : (Window.full capacity).Exact n) : (p.ring side).attachment.window.Exact n := by
  rw [Window.Exact, show (p.ring side).attachment.window.capacity = _ from h.tall side]
  exact exact

theorem perform (h : p.Stores capacity channels frames first) (side : Side) (call : BufferCall)
    (exact : (Window.full capacity).Exact
      (first + frames.length + ((p.ring side).perform call).1.framesAccepted)) :
    ∃ left next, (p.update side ((p.ring side).perform call).2).Stores capacity channels left next ∧
      next + left.length =
        first + frames.length + ((p.ring side).perform call).1.framesAccepted := by
  obtain ⟨-, next, held, place⟩ := (h.holds side).perform call (h.exact_of side exact)
  have size := held.capacity
  have width := held.channels
  rw [FrameQueue.capacity_perform] at size
  rw [FrameQueue.channels_perform] at width
  exact ⟨_, next, h.update side (UInt64.toNat_inj.mp size) width held, place⟩

theorem performAll (h : p.Stores capacity channels frames first) (calls : List (Side × BufferCall))
    (exact : (Window.full capacity).Exact
      (first + frames.length + framesAccepted (p.performAll calls).1)) :
    ∃ left next, (p.performAll calls).2.Stores capacity channels left next ∧
      next + left.length = first + frames.length + framesAccepted (p.performAll calls).1 := by
  induction calls generalizing p frames first with
  | nil => exact ⟨frames, first, h, rfl⟩
  | cons call calls ih =>
    simp only [Pair.performAll, framesAccepted_cons] at exact ⊢
    obtain ⟨left, next, stores, place⟩ :=
      h.perform call.1 call.2 (exact.mono (by omega))
    obtain ⟨last, final, stored, lastPlace⟩ :=
      ih stores (by rw [place, Nat.add_assoc]; exact exact)
    exact ⟨last, final, stored, by omega⟩

theorem produceAll (h : p.Stores capacity channels frames first) (calls : List (Side × BufferCall))
    (produces : ∀ call ∈ calls, call.2.produces = true)
    (exact : (Window.full capacity).Exact
      (first + frames.length + framesAccepted (p.performAll calls).1)) :
    ∃ more, (p.performAll calls).2.Stores capacity channels (frames ++ more) first ∧
      more.length = framesAccepted (p.performAll calls).1 := by
  induction calls generalizing p frames with
  | nil => exact ⟨[], by rw [List.append_nil]; exact h, rfl⟩
  | cons call calls ih =>
    obtain ⟨mine, others⟩ := List.forall_mem_cons.mp produces
    simp only [Pair.performAll, framesAccepted_cons] at exact ⊢
    obtain ⟨more, held, count⟩ := (h.holds call.1).produce mine
      (h.exact_of call.1 (exact.mono (by rw [← Nat.add_assoc]; exact Nat.le_add_right _ _)))
    have size : ((p.ring call.1).perform call.2).2.capacity = capacity :=
      UInt64.toNat_inj.mp held.capacity
    have stores := h.update call.1 size held.channels held
    obtain ⟨rest, stored, total⟩ := ih stores others (by
      rw [List.length_append, count, ← Nat.add_assoc, Nat.add_assoc]
      exact exact)
    refine ⟨more ++ rest, ?_, ?_⟩
    · rw [← List.append_assoc]
      exact stored
    · rw [List.length_append, count, total]

end Stores

theorem stores_idle {p : Pair} {start : UInt64}
    (sameCapacity : (p.ring .far).capacity = (p.ring .near).capacity)
    (sameChannels : (p.ring .far).channels = (p.ring .near).channels)
    (idle : p.memory.counters = .startingAt start) (backed : (p.ring .near).Backed) :
    p.Stores (p.ring .near).capacity (p.ring .near).channels [] start.toNat where
  tall side := by cases side <;> trivial
  wide side := by cases side <;> trivial
  holds side := by
    have held := Ring.holds_emptyQueue (r := p.ring .near) idle backed
    cases side with
    | near => exact held
    | far => exact held.share rfl sameCapacity sameChannels

theorem regions_outlast_producers (p : Pair) (start : UInt64)
    (sameCapacity : (p.ring .far).capacity = (p.ring .near).capacity)
    (sameChannels : (p.ring .far).channels = (p.ring .near).channels)
    (idle : p.memory.counters = .startingAt start) (backed : (p.ring .near).Backed)
    (earlier later : List (Side × BufferCall)) (produces : ∀ call ∈ later, call.2.produces = true)
    (exact : p.near.window.Exact
      (start.toNat + framesAccepted (p.performAll (earlier ++ later)).1))
    (reader : Side) (n : Nat) :
    let between := (p.performAll earlier).2
    let before := between.ring reader
    let after := (between.performAll later).2.ring reader
    let seen := before.peek n
    joined seen = (before.frames.take n).flatten ∧
    after.through (before.readable n) = seen ∧
    ∀ m ≤ n, ∃ rest, ∀ k, joined ((after.consume (min m after.queued)).peek k) =
      ((joined seen).drop (m * before.channels) ++ rest).take (k * before.channels) := by
  intro between before after seen
  rw [performAll_append, framesAccepted_append, ← Nat.add_assoc] at exact
  obtain ⟨frames, first, stores, place⟩ :=
    (stores_idle sameCapacity sameChannels idle backed).performAll earlier
      (exact.mono (Nat.le_add_right _ _))
  have room : (Window.full (p.ring .near).capacity).Exact
      (first + frames.length + framesAccepted (between.performAll later).1) := by
    rw [place]
    exact exact
  obtain ⟨more, stored, count⟩ := stores.produceAll later produces room
  have held := stores.holds reader
  have now := stores.exact_of reader (room.mono (Nat.le_add_right _ _))
  have last := stored.exact_of reader (n := first + (frames ++ more).length) (by
    rw [List.length_append, count, ← Nat.add_assoc]
    exact room)
  refine ⟨?_, held.through_readable (stored.holds reader) now n, fun m _ => ?_⟩
  · rw [held.frames now]
    exact held.peek now n
  · exact held.joined_peek_consume (stored.holds reader) now last n m

theorem regions_outlast_producers_across_wrap :
    let side : Attachment := ⟨.full 4, 2, by decide, by decide⟩
    let pair : Pair :=
      ⟨side, side, .heap (.startingAt 18446744073709551613) (.given 0) (.replicate 8 0)⟩
    let earlier := [(.near, .push #[1, 2, 3, 4, 5, 6, 7, 8] .clock), (.far, .discard 1)]
    let later := [(.far, .retarget 3), (.near, .push #[9, 10, 11, 12] .clock),
      (.far, .push #[13, 14] .clock)]
    let between := (pair.performAll earlier).2
    let after := (between.performAll later).2
    let regions := (between.ring .near).readable 3
    regions = (⟨4, 4⟩, ⟨0, 2⟩) ∧
      (after.ring .near).through regions = (#[3, 4, 5, 6], #[7, 8]) ∧
      joined (((after.ring .near).consume 2).peek 2) = [7, 8, 9, 10] := by
  intro side pair earlier later between after regions
  obtain ⟨-, stays, -⟩ := regions_outlast_producers pair 18446744073709551613 rfl rfl rfl
    (show 4 * 2 ≤ (Array.replicate 8 (0 : Sample)).size by decide) earlier later
    (by simp [later, BufferCall.produces]) (.inl (by decide)) .near 3
  exact ⟨by decide +kernel, stays.trans (by decide +kernel), by decide +kernel⟩

end Pair

end SharedAudio

import SharedAudio.Proofs.Fifo.Slots
import SharedAudio.Proofs.Ring.Regions
import SharedAudio.Proofs.Mixing.Bounds

namespace SharedAudio

namespace Ring

def frameAt (r : Ring) (slot : Nat) : Frame :=
  (List.range r.channels).map fun i => r.memory.cells.getD (slot * r.channels + i) 0

def upcoming (r : Ring) (n : Nat) : List Nat := r.attachment.window.slots r.readIndex n

variable {r : Ring}

theorem wide_frameAt (slots : List Nat) : Wide r.channels (slots.map r.frameAt) := by
  intro frame member
  obtain ⟨slot, -, rfl⟩ := List.mem_map.mp member
  rw [frameAt, List.length_map, List.length_range]

theorem frameAt_mod (n : Nat) : r.frameAt (n % r.attachment.capacity) =
    arc r.memory.cells r.attachment.span (n * r.channels) r.channels := by
  rw [← arc_mod, Attachment.span, show r.attachment.channels = r.channels from rfl,
    Nat.mul_mod_mul_right, frameAt, arc]
  apply List.map_congr_left
  intro i inside
  rw [List.mem_range] at inside
  congr 1
  rcases Nat.eq_zero_or_pos r.attachment.capacity with none | some
  · rw [none, Nat.zero_mul, Nat.mod_zero, Nat.mod_zero]
  · have slot := Nat.mod_lt n some
    have next := Nat.mul_le_mul_right r.channels (Nat.succ_le_of_lt slot)
    rw [Nat.succ_mul] at next
    exact (Nat.mod_eq_of_lt (by omega)).symm

theorem flatten_upcoming (n : Nat) : ((r.upcoming n).map r.frameAt).flatten =
    arc r.memory.cells r.attachment.span (r.readIndex * r.channels) (n * r.channels) := by
  induction n with
  | zero => simp [upcoming, Window.slots, arc]
  | succ n ih =>
    have last : r.attachment.window.slots (r.readIndex + n) 1 =
        [(r.readIndex + n) % r.attachment.capacity] := rfl
    rw [upcoming, Window.slots_add, List.map_append, List.flatten_append, last, Nat.succ_mul,
      arc_add, ← Nat.add_mul, List.map_singleton, List.flatten_singleton, frameAt_mod]
    exact congrArg (· ++ _) ih

theorem joined_peek (backed : r.Backed) (bound : r.queued ≤ r.capacity.toNat) (n : Nat) :
    joined (r.peek n) = ((r.upcoming (min n r.queued)).map r.frameAt).flatten ∧
      (r.peek n).1.size = (r.readable n).1.size ∧ (r.peek n).2.size = (r.readable n).2.size := by
  rw [flatten_upcoming]
  have le : min n r.queued ≤ r.attachment.capacity := Nat.le_trans (Nat.min_le_right _ _) bound
  have readable : r.readable n = if min n r.queued = 0 then (⟨0, 0⟩, ⟨0, 0⟩)
      else r.attachment.stretches r.readIndex (min n r.queued) := rfl
  rcases Nat.eq_zero_or_pos (min n r.queued) with none | some
  · rw [if_pos none] at readable
    have peek : r.peek n = (#[], #[]) := by
      change ((r.readable n).1.read _, (r.readable n).2.read _) = _
      rw [readable]
      simp [Stretch.read, Stretch.stop]
    rw [peek, readable, none, Nat.zero_mul]
    exact ⟨rfl, rfl, rfl⟩
  · rw [if_neg (Nat.ne_of_gt some)] at readable
    have nonzero : r.attachment.window.capacity ≠ 0 := by
      intro zero
      have : r.attachment.capacity = 0 := by rw [Attachment.capacity, zero]; rfl
      omega
    have inside : r.readIndex < r.attachment.capacity := Window.index_lt nonzero r.counters.read
    have cover := r.attachment.cover_stretches inside le
    rw [← readable] at cover
    exact ⟨cover.toList_read backed, cover.size_read backed⟩

theorem upcoming_consume_iff {n : Nat} (within : n ≤ r.queued)
    (bound : r.queued ≤ r.capacity.toNat) :
    (r.consume n).upcoming (r.queued - n) = (r.upcoming r.queued).drop n ↔
      n = r.queued ∨ r.attachment.window.Exact (r.counters.read.toNat + n) := by
  have index : (r.consume n).readIndex =
      r.attachment.window.index (r.counters.read + UInt64.ofNat n) := by
    simp [Ring.consume, readIndex, Attachment.readIndex, Memory.consume, Counters.consume, counters]
  have left : (r.consume n).upcoming (r.queued - n) =
      r.attachment.window.slots (r.consume n).readIndex (r.queued - n) := rfl
  rw [left, upcoming, Window.drop_slots _ within, index]
  rcases Nat.eq_or_lt_of_le within with rfl | less
  · simp [Window.slots]
  · have nonzero : r.attachment.window.capacity ≠ 0 := by
      intro zero
      have : r.capacity.toNat = 0 := by rw [capacity, zero]; rfl
      omega
    have law := Window.index_add_iff nonzero r.counters.read (Nat.le_trans within bound)
    obtain ⟨more, count⟩ : ∃ more, r.queued - n = more + 1 := ⟨r.queued - n - 1, by omega⟩
    rw [or_iff_right (Nat.ne_of_lt less), ← law, count]
    constructor
    · intro same
      have first := congrArg List.head? same
      simp only [Window.slots, List.range_succ_eq_map, List.map_cons, List.head?_cons,
        Option.some.injEq, Nat.add_zero] at first
      rwa [Nat.mod_eq_of_lt (Window.index_lt nonzero _)] at first
    · intro same
      rw [same, Window.slots_mod]
      rfl

end Ring

namespace Mixer

variable {m : Mixer} {r : Ring} {volume : Sample} {share : Share}

structure Takes (m : Mixer) (r : Ring) : Prop where
  matched : m.channels.toNat = r.channels
  backed : r.Backed
  bounded : r.queued ≤ r.capacity.toNat

def brought (m : Mixer) (r : Ring) : List Sample :=
  ((r.upcoming (min m.burst.toNat r.queued)).map r.frameAt).flatten

theorem Takes.congr {n : Mixer} (h : m.Takes r) (alike : m.Alike n) : n.Takes r :=
  ⟨alike.channels ▸ h.matched, h.backed, h.bounded⟩

theorem Takes.length_brought (h : m.Takes r) :
    (m.brought r).length = min m.burst.toNat r.queued * m.channels.toNat := by
  rw [brought, (Ring.wide_frameAt _).length_flatten, List.length_map, Ring.upcoming,
    Window.length_slots, h.matched]

theorem Takes.add?_eq_none_iff (h : m.Takes r) (volume : Sample) :
    m.add? r volume = none ↔ m.sum.size < (m.brought r).length := by
  rw [Mixer.add?_eq_none_iff h.matched, h.length_brought, h.matched,
    Nat.min_eq_left (Nat.le_trans (Nat.min_le_right _ _) h.bounded)]

def summed (m : Mixer) (i : Nat) (old : Sample) (part : Ring × Sample) : Sample :=
  match (m.brought part.1)[i]? with
  | some x => if part.2 == 1 then old + x else old + x * part.2
  | none => old

theorem getElem?_addSamples_brought (m : Mixer) (r : Ring) (volume : Sample) (sum : List Sample)
    (i : Nat) : (addSamples volume sum (m.brought r))[i]? =
      sum[i]?.map (m.summed i · (r, volume)) := by
  rw [getElem?_addSamples]
  congr 1
  funext old
  simp only [summed, Sample.scaled]
  cases (m.brought r)[i]? with
  | none => rfl
  | some x =>
    simp only [Option.map_some, Option.getD_some]
    split <;> rfl

theorem Takes.sum_of_add? (h : m.Takes r) (added : m.add? r volume = some share) (i : Nat) :
    share.mixer.sum[i]? = m.sum[i]?.map (m.summed i · (r, volume)) := by
  obtain ⟨joined, front, -⟩ := Ring.joined_peek h.backed h.bounded m.burst.toNat
  have summed := toList_addAt_twice m.sum (r.peek m.burst.toNat).1 (r.peek m.burst.toNat).2 volume
  rw [front] at summed
  have total : share.mixer.sum.toList = addSamples volume m.sum.toList (m.brought r) := by
    simp only [add?] at added
    split at added
    · cases added
    · cases added
      exact summed.trans (congrArg (addSamples volume m.sum.toList) joined)
  rw [← Array.getElem?_toList, total, getElem?_addSamples_brought, Array.getElem?_toList]

structure Share.Sums (share : Share) (m : Mixer) (r : Ring) (volume : Sample) (k : Nat) : Prop where
  frames : share.frames = k
  underflowed : share.underflowed = true ↔ k < m.burst.toNat
  alike : m.Alike share.mixer
  inside : ∀ i < k * m.channels.toNat, ∃ old x, m.sum[i]? = some old ∧
    ((r.upcoming k).map r.frameAt).flatten[i]? = some x ∧
    share.mixer.sum[i]? = some (if volume == 1 then old + x else old + x * volume)
  outside : ∀ i, k * m.channels.toNat ≤ i → share.mixer.sum[i]? = m.sum[i]?
  ring : share.ring = r.consume k
  queued : share.ring.queued = r.queued - k
  left : share.ring.upcoming (r.queued - k) = (r.upcoming r.queued).drop k ↔
    k = r.queued ∨ r.attachment.window.Exact (r.counters.read.toNat + k)

theorem Takes.sums (h : m.Takes r) (added : m.add? r volume = some share) :
    share.Sums m r volume (min m.burst.toNat r.queued) := by
  have le : min m.burst.toNat r.queued ≤ r.queued := Nat.min_le_right _ _
  have length := h.length_brought
  have alike : m.Alike share.mixer := .of_add? added
  obtain ⟨frames, ring⟩ := frames_of_add? h.matched added
  rw [Nat.min_eq_left (Nat.le_trans le h.bounded)] at frames
  rw [frames, Nat.min_eq_left le] at ring
  have fits : (m.brought r).length ≤ m.sum.size := by
    rw [← Nat.not_lt, ← h.add?_eq_none_iff volume, added]
    exact Option.some_ne_none _
  refine ⟨frames, ?_, alike, fun i inside => ?_, fun i outside => ?_, ring, ?_, ?_⟩
  · rw [Share.underflowed, decide_eq_true_iff, frames, alike.burst]
  · have there : i < (m.brought r).length := by rwa [length]
    refine ⟨_, _, Array.getElem?_eq_getElem (by omega), List.getElem?_eq_getElem there, ?_⟩
    rw [h.sum_of_add? added, Array.getElem?_eq_getElem (by omega), Option.map_some, summed,
      List.getElem?_eq_getElem there]
  · have beyond : (m.brought r)[i]? = none := List.getElem?_eq_none (by omega)
    have same : (m.summed i · (r, volume)) = id := by
      funext old
      rw [summed, beyond]
      rfl
    rw [h.sum_of_add? added, same, Option.map_id_fun, id]
  · rw [ring]
    simpa [Ring.consume, Ring.queued, Memory.queued, Memory.consume] using
      Counters.queued_consume (c := r.memory.counters) le
  · rw [ring]
    exact Ring.upcoming_consume_iff le h.bounded

def addAll? (m : Mixer) (parts : List (Ring × Sample)) : Option Mixer :=
  parts.foldlM (fun m part => (m.add? part.1 part.2).map (·.mixer)) m

theorem sum_of_addAll? {after : Mixer} {parts : List (Ring × Sample)}
    (takes : ∀ part ∈ parts, m.Takes part.1) (added : m.addAll? parts = some after) (i : Nat) :
    after.sum[i]? = m.sum[i]?.map (parts.foldl (m.summed i) ·) := by
  induction parts generalizing m with
  | nil => cases added; exact Option.map_id'.symm
  | cons part parts ih =>
    obtain ⟨first, others⟩ := List.forall_mem_cons.mp takes
    rw [addAll?, List.foldlM_cons] at added
    obtain ⟨next, mixed, rest⟩ := Option.bind_eq_some_iff.mp added
    obtain ⟨share, shared, rfl⟩ := Option.map_eq_some_iff.mp mixed
    have alike := Alike.of_add? shared
    have same : share.mixer.summed i = m.summed i := by
      funext old part
      rw [summed, summed, brought, brought, alike.burst]
    rw [ih (fun p member => (others p member).congr alike) rest, first.sum_of_add? shared,
      Option.map_map, same]
    rfl

theorem addAll?_ne_none {parts : List (Ring × Sample)} (takes : ∀ part ∈ parts, m.Takes part.1)
    (shaped : m.Shaped) : ∃ after, m.addAll? parts = some after := by
  induction parts generalizing m with
  | nil => exact ⟨m, rfl⟩
  | cons part parts ih =>
    obtain ⟨first, others⟩ := List.forall_mem_cons.mp takes
    have added : m.add? part.1 part.2 ≠ none := add?_ne_none _ first.matched shaped
    obtain ⟨share, shared⟩ := Option.ne_none_iff_exists'.mp added
    have alike := Alike.of_add? shared
    obtain ⟨after, rest⟩ := ih (fun p member => (others p member).congr alike)
      (alike.shaped shaped)
    exact ⟨after, by rw [addAll?, List.foldlM_cons, shared]; exact rest⟩

theorem mixing_sums_frames (m : Mixer) (shaped : m.Shaped) :
    (∀ r volume, m.Takes r → ∃ share, m.add? r volume = some share ∧
      share.Sums m r volume (min m.burst.toNat r.queued)) ∧
    ∀ parts : List (Ring × Sample), (∀ part ∈ parts, m.Takes part.1) →
      ∃ after, m.clear.addAll? parts = some after ∧ ∀ i, after.sum[i]? =
        if i < m.sum.size then some (parts.foldl (m.summed i) 0) else none := by
  have cleared : m.Alike m.clear := ⟨rfl, rfl, m.size_clear⟩
  refine ⟨fun r volume takes => ?_, fun parts takes => ?_⟩
  · obtain ⟨share, added⟩ := Option.ne_none_iff_exists'.mp (add?_ne_none _ takes.matched shaped)
    exact ⟨share, added, takes.sums added⟩
  · have all (part) (member : part ∈ parts) := (takes part member).congr cleared
    obtain ⟨after, added⟩ := addAll?_ne_none all (cleared.shaped shaped)
    refine ⟨after, added, fun i => ?_⟩
    rw [sum_of_addAll? all added, clear, Array.getElem?_replicate]
    split <;> rfl

theorem mixing_sums_frames_round_the_end :
    let r : Ring := ⟨⟨.full 8, 1, by decide, by decide⟩,
      .heap ⟨18446744073709551613, 2⟩ (.given 0) #[4, 5, 0, 0, 0, 1, 2, 3]⟩
    (new 1 4).Shaped ∧ (new 1 4).Takes r ∧
      (r.upcoming r.queued).map r.frameAt = [[1], [2], [3], [4], [5]] ∧
      (∃ share, (new 1 4).add? r 0.5 = some share ∧ share.frames = 4 ∧
        share.ring.upcoming 1 = [1]) ∧
      ∃ after, (new 1 4).clear.addAll? [(r, 0.5), (r, 1)] = some after ∧
        after.sum[3]? = some 6 := by
  intro r
  have takes : (new 1 4).Takes r := ⟨by decide, by unfold Ring.Backed; decide, by decide⟩
  obtain ⟨one, all⟩ := mixing_sums_frames (new 1 4) (shaped_new 1 4)
  obtain ⟨share, added, sums⟩ := one r 0.5 takes
  obtain ⟨after, mixed, folds⟩ := all [(r, 0.5), (r, 1)] (by simp [takes])
  have left := sums.left.mpr (.inr (.inl (by decide)))
  refine ⟨shaped_new 1 4, takes, by decide +kernel, ⟨share, added, ?_, ?_⟩, after, mixed, ?_⟩
  · rw [sums.frames]
    decide
  · exact left.trans (by decide)
  · rw [folds 3]
    decide +kernel

theorem wrap_skips_frames :
    let ten : Ring := ⟨⟨.full 10, 1, by decide, by decide⟩,
      .heap ⟨18446744073709551613, 2⟩ (.given 0) #[0, 0, 0, 1, 2, 3, 4, 5, 0, 0]⟩
    (new 1 3).Takes ten ∧ (ten.upcoming 5).map ten.frameAt = [[1], [2], [3], [4], [5]] ∧
      ((new 1 3).add? ten 1).map (fun share => (share.ring.upcoming 2).map share.ring.frameAt) =
        some [[0], [0]] := by
  intro ten
  exact ⟨⟨by decide, by unfold Ring.Backed; decide, by decide⟩,
    by decide +kernel, by decide +kernel⟩

end Mixer

end SharedAudio

import SharedAudio.Proofs.Ring.Circle
import SharedAudio.Ring.Basic

namespace SharedAudio

namespace Stretch

theorem getElem?_read (s : Stretch) (cells : Array Sample) {i : Nat} (inside : i < s.size) :
    (s.read cells)[i]? = cells[s.start + i]? := by
  rw [read, Array.getElem?_extract, stop]
  split
  next => rfl
  next outside => rw [Array.getElem?_eq_none (by omega)]

end Stretch

namespace Attachment

variable {a : Attachment} {m : Memory} {parts : Stretch × Stretch} {frames : Nat}

structure Owns (a : Attachment) (parts : Stretch × Stretch) (frames : Nat) : Prop where
  within : parts.1.stop ≤ a.span ∧ parts.2.stop ≤ a.span
  front : parts.2.start = 0
  apart : parts.2.stop ≤ parts.1.start
  aligned : a.channels ∣ parts.1.start ∧ a.channels ∣ parts.1.size ∧ a.channels ∣ parts.2.size
  total : parts.1.size + parts.2.size = frames * a.channels

theorem owns_stretches (a : Attachment) (start frames : Nat) :
    a.Owns (a.stretches start frames) (min frames a.capacity) where
  within := a.stretches_stop_le start frames
  front := rfl
  apart := by
    simp only [stretches, Stretch.stop, Nat.zero_add]
    apply Nat.mul_le_mul_right
    omega
  aligned := ⟨⟨_, Nat.mul_comm _ _⟩, ⟨_, Nat.mul_comm _ _⟩, ⟨_, Nat.mul_comm _ _⟩⟩
  total := a.stretches_size start frames

theorem owns_readable (a : Attachment) (m : Memory) (frames : Nat) :
    a.Owns (a.readable m frames) (min (min frames m.queued) a.capacity) := by
  simp only [readable]
  split
  next none =>
    rw [none, Nat.zero_min]
    exact ⟨⟨Nat.zero_le _, Nat.zero_le _⟩, rfl, Nat.le_refl _,
      ⟨Nat.dvd_zero _, Nat.dvd_zero _, Nat.dvd_zero _⟩, (Nat.zero_mul _).symm⟩
  next => exact a.owns_stretches _ _

def writable (a : Attachment) (m : Memory) (samples : Array Sample) : Stretch × Stretch :=
  a.stretches (a.writeIndex m) (min (samples.size / a.channels) (a.room m))

theorem owns_writable (a : Attachment) (m : Memory) (samples : Array Sample) :
    a.Owns (a.writable m samples) (min (samples.size / a.channels) (a.room m)) := by
  have room : a.room m ≤ a.capacity := a.window.room_le m.counters
  have owns := a.owns_stretches (a.writeIndex m) (min (samples.size / a.channels) (a.room m))
  have le := Nat.le_trans (Nat.min_le_right (samples.size / a.channels) _) room
  rwa [Nat.min_eq_left le] at owns

namespace Owns

theorem size_le (h : a.Owns parts frames) {count : Nat} (whole : frames ≤ count / a.channels) :
    parts.1.size + parts.2.size ≤ count := by
  rw [h.total]
  exact Nat.le_trans (Nat.mul_le_mul_right _ whole) (Nat.div_mul_le_self _ _)

theorem div_channels (h : a.Owns parts frames) :
    (parts.1.size + parts.2.size) / a.channels = frames := by
  rw [h.total, Nat.mul_div_cancel _ a.channels_pos]

theorem empty (h : a.Owns parts 0) : parts.1.size = 0 ∧ parts.2.size = 0 := by
  have total := h.total
  omega

theorem size_read (h : a.Owns parts frames) (sized : m.cells.size = a.span) :
    (parts.1.read m.cells).size = parts.1.size ∧ (parts.2.read m.cells).size = parts.2.size :=
  ⟨Stretch.size_read (sized ▸ h.within.1), Stretch.size_read (sized ▸ h.within.2)⟩

end Owns

theorem push_fst (a : Attachment) (m : Memory) (samples : Array Sample) (stamp : Stamp) :
    (a.push m samples stamp).1 = min (samples.size / a.channels) (a.room m) := by
  simp only [push]
  split
  next none => exact none.symm
  next => rfl

theorem getElem?_push (sized : m.cells.size = a.span) (samples : Array Sample) (stamp : Stamp)
    (i : Nat) :
    let parts := a.writable m samples
    (a.push m samples stamp).2.cells[i]? =
      if i < parts.2.size then samples[parts.1.size + i]?
      else if parts.1.start ≤ i ∧ i < parts.1.start + parts.1.size then samples[i - parts.1.start]?
      else m.cells[i]? := by
  intro parts
  have owns : a.Owns parts _ := a.owns_writable m samples
  have source := owns.size_le (Nat.min_le_left _ _)
  simp only [push]
  split
  next none =>
    rw [none] at owns
    obtain ⟨first, second⟩ := owns.empty
    rw [if_neg (by omega), if_neg (by omega)]
  next =>
    rw [show a.stretches _ _ = parts from rfl]
    obtain ⟨⟨first, second⟩, front, apart, -, -⟩ := owns
    simp only [Stretch.stop, front, Nat.zero_add] at first second apart
    have head : (samples.extract 0 parts.1.size).toList.length = parts.1.size := by
      rw [Array.length_toList, Array.size_extract]
      omega
    have tail : (samples.extract parts.1.size (parts.1.size + parts.2.size)).toList.length =
        parts.2.size := by
      rw [Array.length_toList, Array.size_extract]
      omega
    simp only [Memory.cells_setStamp, Memory.cells_setCounters, Memory.cells_setCells]
    rw [getElem?_overlay_ite (by rw [tail, size_overlay, sized]; omega), tail,
      getElem?_overlay_ite (by rw [head, sized]; omega), head, front]
    simp only [Nat.zero_le, true_and, Nat.zero_add, Nat.sub_zero, Array.getElem?_toList,
      Array.getElem?_extract]
    by_cases tailed : i < parts.2.size
    · rw [if_pos tailed, if_pos tailed, if_pos (by omega)]
    · rw [if_neg tailed, if_neg tailed]
      by_cases headed : parts.1.start ≤ i ∧ i < parts.1.start + parts.1.size
      · rw [if_pos headed, if_pos headed, if_pos (by omega)]
      · rw [if_neg headed, if_neg headed]

theorem pop_fst (a : Attachment) (m : Memory) (block : Array Sample) :
    (a.pop m block).1 = min (min (block.size / a.channels) m.queued) a.capacity := by
  have frames := (a.owns_readable m (block.size / a.channels)).div_channels
  simp only [pop, frames]
  split
  next none => exact none.symm
  next => rfl

theorem cells_pop (a : Attachment) (m : Memory) (block : Array Sample) :
    (a.pop m block).2.2.cells = m.cells := by
  simp only [pop]
  split
  next => rfl
  next => exact Memory.cells_setCounters _ m

theorem getElem?_pop (sized : m.cells.size = a.span) (block : Array Sample) (i : Nat) :
    let parts := a.readable m (block.size / a.channels)
    (a.pop m block).2.1[i]? =
      if i < parts.1.size then m.cells[parts.1.start + i]?
      else if i < parts.1.size + parts.2.size then m.cells[i - parts.1.size]?
      else block[i]? := by
  intro parts
  have owns : a.Owns parts _ := a.owns_readable m (block.size / a.channels)
  have target := owns.size_le (Nat.le_trans (Nat.min_le_left _ _) (Nat.min_le_left _ _))
  obtain ⟨head, tail⟩ := owns.size_read sized
  simp only [pop]
  rw [show a.readable m (block.size / a.channels) = parts from rfl, owns.div_channels]
  split
  next none =>
    rw [none] at owns
    obtain ⟨first, second⟩ := owns.empty
    rw [if_neg (by omega), if_neg (by omega)]
  next =>
    rw [getElem?_overlay_ite (by rw [Array.length_toList, tail, size_overlay]; omega),
      getElem?_overlay_ite (by rw [Array.length_toList, head]; omega)]
    simp only [Array.length_toList, head, tail, Array.getElem?_toList, Nat.zero_le, true_and,
      Nat.zero_add, Nat.sub_zero]
    by_cases first : i < parts.1.size
    · rw [if_neg (by omega), if_pos first, if_pos first, Stretch.getElem?_read _ _ first]
    · rw [if_neg first, if_neg first]
      by_cases second : i < parts.1.size + parts.2.size
      · rw [if_pos (by omega), if_pos second, Stretch.getElem?_read _ _ (by omega), owns.front,
          Nat.zero_add]
      · rw [if_neg (by omega), if_neg second]

end Attachment

namespace Ring

structure Confined (r : Ring) : Prop where
  divisor : 0 < r.channels
  slots : r.capacity ≠ 0 →
    r.readIndex < r.capacity.toNat ∧ r.writeIndex < r.capacity.toNat
  peeks : ∀ frames,
    let parts := r.readable frames
    r.attachment.Owns parts (min (min frames r.queued) r.capacity.toNat) ∧
      (r.peek frames).1.size = parts.1.size ∧ (r.peek frames).2.size = parts.2.size
  pushes : ∀ samples stamp,
    let parts := r.attachment.writable r.memory samples
    r.attachment.Owns parts (r.push samples stamp).1 ∧
      (r.push samples stamp).1 = min (samples.size / r.channels) r.room ∧
      r.room ≤ r.capacity.toNat ∧ parts.1.size + parts.2.size ≤ samples.size ∧
      ∀ i, (r.push samples stamp).2.memory.cells[i]? =
        if i < parts.2.size then samples[parts.1.size + i]?
        else if parts.1.start ≤ i ∧ i < parts.1.start + parts.1.size then
          samples[i - parts.1.start]?
        else r.memory.cells[i]?
  pops : ∀ block,
    let parts := r.readable (block.size / r.channels)
    (r.pop block).1 = (parts.1.size + parts.2.size) / r.channels ∧
      parts.1.size + parts.2.size ≤ block.size ∧
      (r.pop block).2.2.memory.cells = r.memory.cells ∧
      ∀ i, (r.pop block).2.1[i]? =
        if i < parts.1.size then r.memory.cells[parts.1.start + i]?
        else if i < parts.1.size + parts.2.size then r.memory.cells[i - parts.1.size]?
        else block[i]?

theorem confined {r : Ring} (sized : r.memory.cells.size = r.attachment.span) : r.Confined where
  divisor := r.channels_pos
  slots nonzero := ⟨Window.index_lt nonzero _, Window.index_lt nonzero _⟩
  peeks frames :=
    have owns := r.attachment.owns_readable r.memory frames
    ⟨owns, owns.size_read sized⟩
  pushes samples stamp := by
    have owns := r.attachment.owns_writable r.memory samples
    have accepted := r.attachment.push_fst r.memory samples stamp
    refine ⟨?_, accepted, r.attachment.window.room_le _, owns.size_le (Nat.min_le_left _ _),
      Attachment.getElem?_push sized samples stamp⟩
    rw [← accepted] at owns
    exact owns
  pops block := by
    have owns := r.attachment.owns_readable r.memory (block.size / r.channels)
    refine ⟨?_, owns.size_le ?_, Attachment.cells_pop .., Attachment.getElem?_pop sized block⟩
    · exact (Attachment.pop_fst ..).trans owns.div_channels.symm
    · exact Nat.le_trans (Nat.min_le_left _ _) (Nat.min_le_left _ _)

end Ring

end SharedAudio

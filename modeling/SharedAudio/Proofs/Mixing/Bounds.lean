import SharedAudio.Proofs.Ring.Bounds
import SharedAudio.Proofs.Mixing.Parts

namespace SharedAudio

theorem Ring.ahead?_of_lt {r : Ring} (sized : r.memory.cells.size = r.attachment.span)
    {frames place : Nat}
    (inside : place < (r.readable frames).1.size + (r.readable frames).2.size) :
    ∃ x, r.ahead? frames place = some x := by
  obtain ⟨head, tail⟩ := (r.attachment.owns_readable r.memory frames).size_read sized
  change ((r.readable frames).1.read r.memory.cells).size = (r.readable frames).1.size at head
  change ((r.readable frames).2.read r.memory.cells).size = (r.readable frames).2.size at tail
  rw [ahead?]
  dsimp only
  split
  next front => exact ⟨_, Array.getElem?_eq_getElem (by omega)⟩
  next => exact ⟨_, Array.getElem?_eq_getElem (by omega)⟩

theorem Ring.ahead?_of_ge {r : Ring} {frames place : Nat}
    (outside : (r.readable frames).1.size + (r.readable frames).2.size ≤ place) :
    r.ahead? frames place = none := by
  rw [ahead?]
  dsimp only
  rw [if_neg (by omega)]
  refine Array.getElem?_eq_none ?_
  rw [Stretch.read, Array.size_extract, Stretch.stop]
  omega

namespace Mixer

variable {m n : Mixer} {r : Ring} {volume : Sample} {share : Share}

def Shaped (m : Mixer) : Prop := m.sum.size = m.channels.toNat * m.burst.toNat

theorem shaped_new (channels burst : UInt64) : (new channels burst).Shaped := Array.size_replicate

theorem shaped_of_opened {e : Endpoint} {line : Line} (shaped : e.Shaped)
    (opened : e.phase = .opened line) (has : line.loop.mixer? = some m) : m.Shaped := by
  obtain ⟨channels, burst, size⟩ := shaped line m opened has
  rw [Shaped, size, channels, burst]

theorem Alike.shaped (h : m.Alike n) (shaped : m.Shaped) : n.Shaped := by
  rw [Shaped, h.size, h.channels, h.burst]
  exact shaped

theorem add?_eq_none_iff (matched : m.channels.toNat = r.channels) :
    m.add? r volume = none ↔
      m.sum.size < min (min m.burst.toNat r.queued) r.capacity.toNat * r.channels := by
  have total : (r.attachment.readable r.memory m.burst.toNat).1.size +
      (r.attachment.readable r.memory m.burst.toNat).2.size =
        min (min m.burst.toNat r.queued) r.capacity.toNat * r.channels :=
    (r.attachment.owns_readable r.memory m.burst.toNat).total
  have some : m.channels ≠ 0 := by
    intro zero
    have positive := r.channels_pos
    rw [← matched, zero] at positive
    exact absurd positive (by decide)
  simp only [add?, Ring.readable, total]
  split
  next none => simpa [some] using none
  next fits =>
    rw [not_or] at fits
    exact iff_of_false (Option.some_ne_none _) fits.2

theorem add?_ne_none (volume : Sample) (matched : m.channels.toNat = r.channels)
    (shaped : m.Shaped) :
    m.add? r volume ≠ none := by
  rw [Ne, add?_eq_none_iff matched, shaped, ← matched, Nat.not_lt, Nat.mul_comm]
  exact Nat.mul_le_mul_left _ (Nat.le_trans (Nat.min_le_left _ _) (Nat.min_le_left _ _))

theorem mix?_ne_none_iff (shaped : m.Shaped) :
    m.mix? r volume ≠ none ↔ m.channels.toNat = r.channels := by
  rw [mix?]
  split
  next matched => exact iff_of_true (add?_ne_none volume matched shaped) matched
  next other => exact iff_of_false (fun some => some rfl) other

theorem frames_of_add? (matched : m.channels.toNat = r.channels)
    (h : m.add? r volume = some share) :
    share.frames = min (min m.burst.toNat r.queued) r.capacity.toNat ∧
      share.ring = { r with memory := r.memory.consume (min share.frames r.queued) } := by
  have count := (r.attachment.owns_readable r.memory m.burst.toNat).div_channels
  simp only [add?, Ring.readable, matched, show r.channels = r.attachment.channels from rfl,
    count] at h
  split at h <;> cases h
  exact ⟨rfl, rfl⟩

structure Share.Confined (share : Share) (m : Mixer) (r : Ring) (volume : Sample) : Prop where
  alike : m.Alike share.mixer
  fits : share.frames * r.channels ≤ m.sum.size
  storage : share.ring.memory.cells = r.memory.cells
  inside : ∀ place < share.frames * r.channels, ∃ x, r.ahead? m.burst.toNat place = some x ∧
    share.mixer.sum[place]? = m.sum[place]?.map (· + Sample.scaled volume x)
  outside : ∀ place, share.frames * r.channels ≤ place →
    share.mixer.sum[place]? = m.sum[place]?

theorem confined_add? (sized : r.memory.cells.size = r.attachment.span)
    (matched : m.channels.toNat = r.channels) (h : m.add? r volume = some share) :
    share.frames = min (min m.burst.toNat r.queued) r.capacity.toNat ∧
      share.Confined m r volume := by
  have owns := r.attachment.owns_readable r.memory m.burst.toNat
  have mixed := getElem?_add? h
  have alike := Alike.of_add? h
  have frames : share.frames = min (min m.burst.toNat r.queued) r.capacity.toNat ∧
      share.ring.memory.cells = r.memory.cells := by
    obtain ⟨count, left⟩ := frames_of_add? matched h
    exact ⟨count, by rw [left]; exact Memory.cells_setCounters _ r.memory⟩
  have fits : share.frames * r.channels ≤ m.sum.size := by
    by_contra exceeds
    rw [Nat.not_le, frames.1] at exceeds
    rw [(add?_eq_none_iff matched).mpr exceeds] at h
    cases h
  have total : (r.readable m.burst.toNat).1.size + (r.readable m.burst.toNat).2.size =
      share.frames * r.channels := by
    rw [frames.1]
    exact owns.total
  refine ⟨frames.1, alike, fits, frames.2, ?_, ?_⟩
  · intro place inside
    obtain ⟨x, ahead⟩ := Ring.ahead?_of_lt sized (total ▸ inside)
    refine ⟨x, ahead, ?_⟩
    rw [mixed place, ahead]
    rfl
  · intro place outside
    rw [mixed place, Ring.ahead?_of_ge (total ▸ outside)]
    exact Option.map_id'

theorem accesses_are_confined (m : Mixer) (r : Ring)
    (sized : r.memory.cells.size = r.attachment.span) (matched : m.channels.toNat = r.channels)
    (shaped : m.Shaped) :
    r.Confined ∧ ∀ volume, ∃ share, m.add? r volume = some share ∧
      share.frames = min (min m.burst.toNat r.queued) r.capacity.toNat ∧
      share.Confined m r volume := by
  refine ⟨Ring.confined sized, fun volume => ?_⟩
  obtain ⟨share, added⟩ := Option.ne_none_iff_exists'.mp (add?_ne_none _ matched shaped)
  exact ⟨share, added, confined_add? sized matched added⟩

theorem accesses_are_confined_beyond_capacity :
    let r : Ring := ⟨⟨.full 4, 2, by decide, by decide⟩, .heap ⟨3, 9⟩ (.given 0) (.replicate 8 0)⟩
    r.readable 9 = (⟨6, 2⟩, ⟨0, 6⟩) ∧ (r.pop #[0, 0, 0, 0, 9]).1 = 2 ∧
      r.room = 0 ∧ ∃ share, (Mixer.new 2 2).add? r 1 = some share ∧ share.frames = 2 := by
  intro r
  obtain ⟨confined, mixes⟩ := accesses_are_confined (.new 2 2) r (by decide) rfl (shaped_new 2 2)
  obtain ⟨share, added, frames, -⟩ := mixes 1
  refine ⟨by decide, (confined.pops _).1.trans (by decide), by decide, share, added, ?_⟩
  exact frames.trans (by decide)

end Mixer

end SharedAudio

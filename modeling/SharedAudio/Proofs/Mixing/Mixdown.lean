import Mathlib.Logic.Function.Basic
import SharedAudio.Proofs.Mixing.Tape
import SharedAudio.Proofs.Endpoint.Easing

namespace SharedAudio

def addSamples (volume : Sample) : List Sample → List Sample → List Sample
  | s :: sum, x :: samples => (s + Sample.scaled volume x) :: addSamples volume sum samples
  | sum, _ => sum

theorem length_addSamples (volume : Sample) (sum samples : List Sample) :
    (addSamples volume sum samples).length = sum.length := by
  induction sum generalizing samples with
  | nil => cases samples <;> rfl
  | cons s sum ih =>
    cases samples with
    | nil => rfl
    | cons x samples => simp [addSamples, ih]

theorem getElem?_addSamples (volume : Sample) (sum samples : List Sample) (i : Nat) :
    (addSamples volume sum samples)[i]? =
      sum[i]?.map fun s => (samples[i]?.map (s + Sample.scaled volume ·)).getD s := by
  induction sum generalizing samples i with
  | nil => cases samples <;> rfl
  | cons s sum ih =>
    cases samples with
    | nil => cases i <;> simp [addSamples]
    | cons x samples =>
      cases i with
      | zero => rfl
      | succ i =>
        rw [addSamples, List.getElem?_cons_succ, ih, List.getElem?_cons_succ,
          List.getElem?_cons_succ]

theorem toList_addAt_twice (sum first second : Array Sample) (volume : Sample) :
    (Mixer.addAt (Mixer.addAt sum 0 first volume) first.size second volume).toList =
      addSamples volume sum.toList (first.toList ++ second.toList) := by
  apply List.ext_getElem?
  intro i
  rw [getElem?_addSamples, List.getElem?_append, Array.getElem?_toList, Array.getElem?_toList,
    Array.getElem?_toList, Array.getElem?_toList, Array.length_toList, Mixer.addAt,
    Array.getElem?_mapIdx, Mixer.addAt, Array.getElem?_mapIdx, Option.map_map]
  congr 1
  funext s
  simp only [Function.comp_apply, Nat.zero_le, if_true, Nat.sub_zero]
  by_cases front : i < first.size
  · rw [if_neg (by omega), if_pos front]
  · rw [if_pos (by omega), if_neg front, Array.getElem?_eq_none (by omega)]
    rfl

theorem add?_of_tracks {t : Tape} {r : Ring} (h : t.Tracks r) (m : Mixer) (volume : Sample)
    (width : m.channels.toNat = r.channels)
    (room : m.burst.toNat * m.channels.toNat ≤ m.sum.size) :
    let samples := (t.queue.take m.burst.toNat).flatten
    ∃ share, m.add? r volume = some share ∧
      share.mixer = { m with sum := (addSamples volume m.sum.toList samples).toArray } ∧
      (t.use m.burst.toNat).Tracks share.ring := by
  intro samples
  have peeked : _ = samples := h.held.peek h.exact m.burst.toNat
  have sizes := h.held.size_peek h.exact m.burst.toNat
  have total : (r.readable m.burst.toNat).1.size + (r.readable m.burst.toNat).2.size =
      samples.length := by
    rw [← sizes.1, ← sizes.2, ← peeked, List.length_append, Array.length_toList,
      Array.length_toList]
  have positive := r.channels_pos
  have wide : m.channels ≠ 0 := by
    intro zero
    rw [zero] at width
    simp at width
    omega
  have length : samples.length = min m.burst.toNat r.queued * m.channels.toNat := by
    have queued : r.queued = t.queue.length := h.held.queued
    rw [width, queued, ← List.length_take]
    exact (h.held.wide.take m.burst.toNat).length_flatten
  have count : samples.length / m.channels.toNat = min m.burst.toNat r.queued := by
    rw [length, Nat.mul_div_cancel _ (width ▸ positive)]
  have fits : samples.length ≤ m.sum.size := by
    rw [length]
    exact Nat.le_trans (Nat.mul_le_mul_right _ (Nat.min_le_left _ _)) room
  simp only [Mixer.add?, total, count]
  rw [if_neg (not_or.mpr ⟨wide, Nat.not_lt.mpr fits⟩)]
  refine ⟨_, rfl, ?_, ?_⟩
  · have summed : Mixer.addAt (Mixer.addAt m.sum 0 (r.peek m.burst.toNat).1 volume)
        (r.readable m.burst.toNat).1.size (r.peek m.burst.toNat).2 volume =
          (addSamples volume m.sum.toList samples).toArray := by
      apply Array.toList_inj.mp
      rw [← sizes.1, toList_addAt_twice, peeked]
    exact congrArg (fun sum => { m with sum }) summed
  · have used := h.use m.burst.toNat
    rw [Ring.discard, Memory.discard]
    rw [show r.memory.queued = r.queued from rfl,
      Nat.min_eq_left (Nat.min_le_right m.burst.toNat r.queued)]
    exact used

structure Voice where
  key : Nat
  gain : Sample

structure Mixdown where
  sum : List Sample
  tapes : Nat → Tape

namespace Mixdown

variable {burst size : Nat} {m : Mixdown} {tapes : Nat → Tape}

def add (burst : Nat) (m : Mixdown) (v : Voice) : Mixdown where
  sum := addSamples v.gain m.sum ((m.tapes v.key).queue.take burst).flatten
  tapes := Function.update m.tapes v.key ((m.tapes v.key).use burst)

def ofVoices (size burst : Nat) (tapes : Nat → Tape) (voices : List Voice) : Mixdown :=
  voices.foldl (add burst) ⟨List.replicate size 0, tapes⟩

theorem tapes_add (v : Voice) {key : Nat} (blank : m.tapes key = {}) :
    (m.add burst v).tapes key = {} := by
  change Function.update m.tapes v.key _ key = {}
  by_cases same : key = v.key
  · subst same
    rw [Function.update_self, blank]
    simp [Tape.use]
  · rw [Function.update_of_ne same]
    exact blank

theorem tapes_ofVoices (voices : List Voice) {key : Nat} (blank : tapes key = {}) :
    (ofVoices size burst tapes voices).tapes key = {} := by
  have kept (m : Mixdown) (blank : m.tapes key = {}) :
      (voices.foldl (add burst) m).tapes key = {} := by
    induction voices generalizing m with
    | nil => exact blank
    | cons v voices ih => exact ih _ (tapes_add v blank)
  exact kept _ blank

end Mixdown

def Site.voice? (s : Site) (key : Nat) : Option Voice :=
  s.channels[key]?.bind fun c => if c.isRunning then some ⟨key, c.ramp.next.current⟩ else none

def Site.voices (s : Site) : List Voice := s.endpoint.registered.filterMap s.voice?

section Voice

variable {s : Site} {key : Nat} {c : Channel} {v : Voice}

theorem Site.voice?_of_running (there : s.channels[key]? = some c) (running : c.isRunning = true) :
    s.voice? key = some ⟨key, c.ramp.next.current⟩ := by simp [voice?, there, running]

theorem Site.voice?_of_still (there : s.channels[key]? = some c) (still : c.isRunning = false) :
    s.voice? key = none := by simp [voice?, there, still]

theorem Site.of_voice? (h : s.voice? key = some v) :
    ∃ c, s.channels[key]? = some c ∧ c.isRunning = true ∧ v = ⟨key, c.ramp.next.current⟩ := by
  obtain ⟨c, present, voiced⟩ := Option.bind_eq_some_iff.mp h
  split at voiced
  next running =>
    cases voiced
    exact ⟨c, present, running, rfl⟩
  next => cases voiced

end Voice

def TracksAll (tapes : Nat → Tape) (channels : Array Channel) : Prop :=
  ∀ (key : Nat) (c : Channel), channels[key]? = some c → (tapes key).Tracks c.ring

theorem TracksAll.of_ring {tapes : Nat → Tape} {channels : Array Channel} {key : Nat} {c : Channel}
    (h : TracksAll tapes channels) (ring : channels[key]?.map (·.ring) = some c.ring) :
    (tapes key).Tracks c.ring := by
  obtain ⟨before, there, same⟩ := Option.map_eq_some_iff.mp ring
  exact same ▸ h key before there

theorem TracksAll.set {tapes : Nat → Tape} {channels : Array Channel} (h : TracksAll tapes channels)
    {t : Tape} {c : Channel} (key : Nat) (tracks : t.Tracks c.ring) :
    TracksAll (Function.update tapes key t) (channels.setIfInBounds key c) := by
  intro other found there
  rw [Array.getElem?_setIfInBounds] at there
  split at there
  next same =>
    subst same
    split at there
    · cases there
      rw [Function.update_self]
      exact tracks
    · cases there
  next different =>
    rw [Function.update_of_ne fun same => different same.symm]
    exact h other found there

namespace Mixing

structure Agrees (m : Mixing) (d : Mixdown) (channels burst : UInt64) (size : Nat) : Prop where
  mixer : ∃ mixer, m.mixer = some mixer ∧ mixer.sum.toList = d.sum ∧
    mixer.channels = channels ∧ mixer.burst = burst ∧ mixer.sum.size = size
  tracks : TracksAll d.tapes m.channels

variable {m : Mixing} {d : Mixdown} {channels burst : UInt64} {size key : Nat}

theorem Agrees.take (h : m.Agrees d channels burst size)
    (room : burst.toNat * channels.toNat ≤ size) {c : Channel}
    (present : m.channels[key]? = some c) (width : channels.toNat = c.ring.channels) :
    (m.take key).Agrees (if c.isRunning then d.add burst.toNat ⟨key, c.ramp.next.current⟩ else d)
      channels burst size := by
  cases running : c.isRunning with
  | false =>
    rw [take_of_not_running present running]
    exact h
  | true =>
    obtain ⟨sum, mixer, so_far, rfl, rfl, size'⟩ := h.mixer
    have inside : key < m.channels.size := (Array.getElem?_eq_some_iff.mp present).1
    obtain ⟨share, found, summed, tracks⟩ := add?_of_tracks (h.tracks key c present) sum
      c.ramp.next.current width (size' ▸ room)
    simp only [Mixing.take, mixer, present, running, if_true, Channel.stepGain, found]
    refine ⟨⟨_, rfl, ?_, ?_, ?_, ?_⟩, h.tracks.set key tracks⟩
    · rw [summed, List.toList_toArray, so_far]
      rfl
    · rw [summed]
    · rw [summed]
    · rw [summed, List.size_toArray, length_addSamples, Array.length_toList, size']

theorem Agrees.foldl {s : Site} {keys : List Nat} (nodup : keys.Nodup)
    (room : burst.toNat * channels.toNat ≤ size)
    (untouched : ∀ key ∈ keys, m.channels[key]? = s.channels[key]?)
    (widths : ∀ key ∈ keys, ∃ c, s.channels[key]? = some c ∧ channels.toNat = c.ring.channels)
    (h : m.Agrees d channels burst size) :
    (keys.foldl Mixing.take m).Agrees ((keys.filterMap s.voice?).foldl (Mixdown.add burst.toNat) d)
      channels burst size := by
  -- The induction is over the keys that are still to come. A key comes only once, so its channel is
  -- as it was when the burst was begun.
  induction keys generalizing m d with
  | nil => exact h
  | cons key keys ih =>
    obtain ⟨fresh, rest⟩ := List.nodup_cons.mp nodup
    obtain ⟨c, present, width⟩ := widths key List.mem_cons_self
    have taken := h.take room ((untouched key List.mem_cons_self).trans present) width
    have later := untouched_take fresh untouched
    have done := ih rest later (fun other member => widths other (List.mem_cons_of_mem key member))
      taken
    rw [List.foldl_cons]
    cases running : c.isRunning with
    | false =>
      rw [List.filterMap_cons_none (Site.voice?_of_still present running)]
      simpa [running] using done
    | true =>
      rw [List.filterMap_cons_some (Site.voice?_of_running present running)]
      simpa [running] using done

end Mixing

namespace Site

variable {s : Site} {mixer : Mixer} {tapes : Nat → Tape}

def mixdown (s : Site) (size : Nat) (burst : UInt64) (tapes : Nat → Tape) : Mixdown :=
  .ofVoices size burst.toNat tapes s.voices

theorem mix_agrees (tracks : TracksAll tapes s.channels) (nodup : s.endpoint.registered.Nodup)
    (room : mixer.burst.toNat * mixer.channels.toNat ≤ mixer.sum.size)
    (widths : ∀ key ∈ s.endpoint.registered, ∃ c, s.channels[key]? = some c ∧
      mixer.channels.toNat = c.ring.channels) :
    let done := s.mixdown mixer.sum.size mixer.burst tapes
    (∃ mixed, (s.mix mixer).1 = some mixed ∧
      mixed.sum = s.endpoint.options.limiter.apply done.sum.toArray ∧
      mixed.channels = mixer.channels ∧ mixed.burst = mixer.burst ∧
      mixed.sum.size = mixer.sum.size) ∧
    TracksAll done.tapes (s.mix mixer).2.channels := by
  intro done
  have begun : Mixing.Agrees ⟨some mixer.clear, s.channels, s.endpoint.underflows⟩
      ⟨List.replicate mixer.sum.size 0, tapes⟩ mixer.channels mixer.burst mixer.sum.size :=
    ⟨⟨mixer.clear, rfl, by simp [Mixer.clear], rfl, rfl, mixer.size_clear⟩, tracks⟩
  obtain ⟨⟨mixed, has, sum, channels, burst, size⟩, tracked⟩ :=
    begun.foldl nodup room (fun _ _ => rfl) widths
  refine ⟨⟨_, congrArg (Option.map _) has, ?_, channels, burst, ?_⟩, tracked⟩
  · dsimp only
    have listed : mixed.sum = mixed.sum.toList.toArray := Array.toArray_toList.symm
    rw [listed, sum]
    rfl
  · dsimp only
    rw [Limiter.size_apply, size]

structure Continues (s : Site) (line : Line) (mixer : Mixer) (done : Mixdown) (t : Site) :
    Prop where
  made : t.endpoint.made =
    s.endpoint.handed ++ [s.endpoint.options.limiter.apply done.sum.toArray]
  bursts : t.endpoint.bursts = s.endpoint.bursts
  phase : ∃ loop, t.endpoint.phase = .opened { line with loop } ∧ loop.runs = true ∧
    ∀ next, loop.mixer? = some next → next.channels = mixer.channels ∧
      next.burst = mixer.burst ∧ next.sum.size = mixer.sum.size
  tracks : TracksAll done.tapes t.channels
  states : ∀ key : Nat, t.channels[key]?.map (·.state) = s.channels[key]?.map (·.state)
  widths : ∀ key : Nat, t.channels[key]?.map (·.channels) = s.channels[key]?.map (·.channels)

theorem continues_continueLoop {line : Line} {loop : Loop}
    (opened : s.endpoint.phase = .opened { line with loop }) (tracks : TracksAll tapes s.channels)
    (nodup : s.endpoint.registered.Nodup)
    (room : mixer.burst.toNat * mixer.channels.toNat ≤ mixer.sum.size)
    (widths : ∀ key ∈ s.endpoint.registered, ∃ c, s.channels[key]? = some c ∧
      mixer.channels.toNat = c.ring.channels) :
    s.Continues line mixer (s.mixdown mixer.sum.size mixer.burst tapes) (s.continueLoop mixer) := by
  obtain ⟨⟨mixed, sum, limited, shape⟩, tracked⟩ := mix_agrees tracks nodup room widths
  obtain ⟨next, after, runs, has⟩ := phase_continueLoop mixer opened
  refine ⟨?_, s.bursts_continueLoop mixer, ⟨next, after, runs, ?_⟩, ?_, ?_, ?_⟩
  · rw [Endpoint.made, handed_continueLoop,
      waiting_continueLoop mixer (Endpoint.isOpen_of_opened opened), sum, ← limited]
    rfl
  · intro other same
    rw [sum] at has
    cases has.symm.trans same
    exact shape
  · rw [channels_continueLoop]
    exact tracked
  · rw [channels_continueLoop]
    exact s.state_mix mixer
  · rw [channels_continueLoop]
    exact s.width_mix mixer

end Site

end SharedAudio

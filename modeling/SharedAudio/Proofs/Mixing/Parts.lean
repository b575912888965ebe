import Mathlib.Data.List.Induction
import SharedAudio.Proofs.Sample.Number
import SharedAudio.Proofs.Endpoint.Shape
import SharedAudio.Proofs.Mixing.Mixdown

namespace SharedAudio

def Sample.Opposite (x y : Sample) : Prop := x.isInf = true ∧ y.isInf = true ∧ (x != y) = true

structure Part where
  gain : Sample
  sample : Sample

namespace Part

def value (p : Part) : Sample := Sample.scaled p.gain p.sample

def total (sum : Sample) (parts : List Part) : Sample :=
  parts.foldl (fun sum p => sum + p.value) sum

def Spoilt (p : Part) : Prop :=
  p.gain.isNaN = true ∨ p.gain.isInf = true ∧ (p.sample == 0) = true

def Indeterminate (parts : List Part) : Prop := ∃ before p after, parts = before ++ p :: after ∧
  (p.Spoilt ∨ Sample.Opposite (total 0 before) p.value)

variable {parts : List Part} {p : Part} {x : Sample}

theorem total_append (sum : Sample) (first second : List Part) :
    total sum (first ++ second) = total (total sum first) second := List.foldl_append

theorem isNaN_value (finite : p.sample.isFinite = true) : p.value.isNaN = true ↔ p.Spoilt := by
  rw [value, Sample.isNaN_scaled finite, Spoilt]
  simp

theorem indeterminate_append_singleton : Indeterminate (parts ++ [p]) ↔
    Indeterminate parts ∨ p.Spoilt ∨ Sample.Opposite (total 0 parts) p.value := by
  constructor
  · rintro ⟨before, q, after, split, bad⟩
    rcases List.eq_nil_or_concat after with rfl | ⟨middle, last, rfl⟩
    · obtain ⟨rfl, same⟩ := List.append_inj' split rfl
      cases same
      exact .inr bad
    · rw [List.concat_eq_append, ← List.cons_append, ← List.append_assoc] at split
      exact .inl ⟨before, q, middle, (List.append_inj' split rfl).1, bad⟩
  · rintro (⟨before, q, after, rfl, bad⟩ | bad)
    · exact ⟨before, q, after ++ [p], by simp, bad⟩
    · exact ⟨parts, p, [], rfl, bad⟩

theorem isNaN_total (finite : ∀ p ∈ parts, p.sample.isFinite = true) :
    (total 0 parts).isNaN = true ↔ Indeterminate parts := by
  -- The induction is from the last part on: a sum that is lost stays lost, and otherwise it is the
  -- last part that spoils it.
  induction parts using List.reverseRecOn with
  | nil =>
    constructor
    · intro nan
      cases nan
    · rintro ⟨before, p, after, split, -⟩
      simp at split
  | append_singleton parts p ih =>
    have earlier := ih fun q member => finite q (List.mem_append_left _ member)
    have last := isNaN_value (finite p (List.mem_append_right _ List.mem_cons_self))
    have added : total 0 (parts ++ [p]) = total 0 parts + p.value := total_append ..
    rw [added, Sample.isNaN_add, indeterminate_append_singleton, ← earlier, ← last,
      Sample.Opposite]
    simp [or_assoc, and_assoc]

structure Clipped (parts : List Part) (x : Sample) : Prop where
  isNaN_iff : x.isNaN = true ↔ Indeterminate parts
  bounded : x.isNaN = false → -1 ≤ x ∧ x ≤ 1

theorem clipped_clip (finite : ∀ p ∈ parts, p.sample.isFinite = true) :
    Clipped parts (Sample.clip (total 0 parts)) where
  isNaN_iff := by rw [Sample.isNaN_clip, isNaN_total finite]
  bounded number := Sample.clip_bounded (by rwa [Sample.isNaN_clip] at number)

end Part

namespace Ring

def ahead? (r : Ring) (frames place : Nat) : Option Sample :=
  let (first, second) := r.readable frames
  if place < first.size then (first.read r.memory.cells)[place]?
  else (second.read r.memory.cells)[place - first.size]?

variable {r : Ring} {frames place : Nat} {x : Sample}

theorem mem_of_ahead? (h : r.ahead? frames place = some x) : x ∈ r.memory.cells := by
  have read (s : Stretch) (i : Nat) (found : (s.read r.memory.cells)[i]? = some x) :
      x ∈ r.memory.cells := by
    rw [Stretch.read, Array.getElem?_extract] at found
    split at found
    · exact Array.mem_of_getElem? found
    · cases found
  rw [ahead?] at h
  dsimp only at h
  split at h
  · exact read _ _ h
  · exact read _ _ h

end Ring

def Voice.part? (channels : Array Channel) (frames place : Nat) (v : Voice) : Option Part :=
  (channels[v.key]?.bind fun c => c.ring.ahead? frames place).map (⟨v.gain, ·⟩)

def partsAt (channels : Array Channel) (frames place : Nat) (voices : List Voice) : List Part :=
  voices.filterMap (Voice.part? channels frames place)

theorem partsAt_append (channels : Array Channel) (frames place : Nat) (first second : List Voice) :
    partsAt channels frames place (first ++ second) =
      partsAt channels frames place first ++ partsAt channels frames place second :=
  List.filterMap_append

theorem partsAt_voice {channels : Array Channel} {key : Nat} {c : Channel}
    (there : channels[key]? = some c) (frames place : Nat) (gain : Sample) :
    partsAt channels frames place [⟨key, gain⟩] =
      ((c.ring.ahead? frames place).map (Part.mk gain)).toList := by
  rw [partsAt, List.filterMap_cons, Voice.part?, there, Option.bind_some]
  cases c.ring.ahead? frames place <;> rfl

theorem partsAt_congr {channels others : Array Channel}
    (rings : ∀ key : Nat, others[key]?.map (·.ring) = channels[key]?.map (·.ring))
    (frames place : Nat) (voices : List Voice) :
    partsAt others frames place voices = partsAt channels frames place voices := by
  have ahead (all : Array Channel) (key : Nat) :
      (all[key]?.bind fun c => c.ring.ahead? frames place) =
        (all[key]?.map (·.ring)).bind fun r => r.ahead? frames place := by
    cases all[key]? <;> rfl
  have same : Voice.part? others frames place = Voice.part? channels frames place := by
    funext v
    rw [Voice.part?, Voice.part?, ahead, ahead, rings]
  rw [partsAt, partsAt, same]

namespace Mixer

variable {m : Mixer} {r : Ring} {volume : Sample} {share : Share}

theorem getElem?_addAt (sum block : Array Sample) (start : Nat) (volume : Sample) (place : Nat) :
    (addAt sum start block volume)[place]? = sum[place]?.map fun old =>
      if start ≤ place then
        ((block[place - start]?).map (old + Sample.scaled volume ·)).getD old
      else old := by
  rw [addAt, Array.getElem?_mapIdx]

theorem getElem?_add? (h : m.add? r volume = some share) (place : Nat) :
    share.mixer.sum[place]? = m.sum[place]?.map fun old =>
      Part.total old ((r.ahead? m.burst.toNat place).map (Part.mk volume)).toList := by
  have added (old : Sample) (found : Option Sample) :
      (found.map (old + Sample.scaled volume ·)).getD old =
        Part.total old (found.map (Part.mk volume)).toList := by cases found <;> rfl
  simp only [add?] at h
  split at h
  next => cases h
  next =>
    cases h
    dsimp only
    rw [getElem?_addAt, getElem?_addAt, Option.map_map]
    congr 1
    funext old
    rw [← added, Ring.ahead?]
    dsimp only [Function.comp_apply]
    by_cases front : place < (r.readable m.burst.toNat).1.size
    · rw [if_neg (Nat.not_le.mpr front), if_pos front, if_pos (Nat.zero_le _), Nat.sub_zero]
    · have behind : ((r.readable m.burst.toNat).1.read r.memory.cells)[place - 0]? = none := by
        refine Array.getElem?_eq_none ?_
        simp only [Stretch.read, Stretch.stop, Array.size_extract]
        omega
      rw [if_pos (Nat.not_lt.mp front), if_neg front, if_pos (Nat.zero_le _), behind]
      rfl

end Mixer

namespace Mixing

variable {m : Mixing} {before after : Mixer} {s : Site}

theorem getElem?_take {key : Nat} (same : m.channels[key]? = s.channels[key]?)
    (was : m.mixer = some before) (is : (m.take key).mixer = some after) (place : Nat) :
    after.sum[place]? = before.sum[place]?.map
      (Part.total · (partsAt s.channels before.burst.toNat place (s.voice? key).toList)) := by
  have nothing (silent : s.voice? key = none) (idle : m.take key = m) : after.sum[place]? =
      before.sum[place]?.map
        (Part.total · (partsAt s.channels before.burst.toNat place (s.voice? key).toList)) := by
    rw [idle, was] at is
    cases is
    rw [silent]
    exact Option.map_id'.symm
  cases there : s.channels[key]? with
  | none =>
    refine nothing (by rw [Site.voice?, there]; rfl) ?_
    rw [take, was, same, there]
  | some c =>
    rw [there] at same
    cases running : c.isRunning with
    | false =>
      exact nothing (Site.voice?_of_still there running) (take_of_not_running same running)
    | true =>
      simp only [take, was, same, running, if_true] at is
      split at is
      next share added =>
        cases is
        rw [Mixer.getElem?_add? added place, Site.voice?_of_running there running,
          Option.toList_some, partsAt_voice there]
        rfl
      next => cases is

theorem getElem?_foldl_take {keys : List Nat} (nodup : keys.Nodup)
    (untouched : ∀ key ∈ keys, m.channels[key]? = s.channels[key]?)
    (was : m.mixer = some before) (is : (keys.foldl take m).mixer = some after) (place : Nat) :
    after.sum[place]? = before.sum[place]?.map
      (Part.total · (partsAt s.channels before.burst.toNat place (keys.filterMap s.voice?))) := by
  -- The induction is over the keys that are still to come. A key comes only once, so its channel is
  -- as it was when the burst was begun.
  induction keys generalizing m before with
  | nil =>
    rw [show m.mixer = some after from is] at was
    cases was
    exact Option.map_id'.symm
  | cons key keys ih =>
    obtain ⟨fresh, rest⟩ := List.nodup_cons.mp nodup
    have done : (keys.foldl take (m.take key)).mixer = some after := is
    obtain ⟨middle, taken, -⟩ := alike_foldl done
    obtain ⟨first, began, alike⟩ := alike_take taken
    rw [was] at began
    cases began
    have later := untouched_take fresh untouched
    have split : (key :: keys).filterMap s.voice? =
        (s.voice? key).toList ++ keys.filterMap s.voice? := by
      rw [List.filterMap_cons]
      cases s.voice? key <;> rfl
    rw [ih rest later taken done, alike.burst,
      getElem?_take (untouched key List.mem_cons_self) was taken, Option.map_map, split,
      partsAt_append]
    congr 1
    funext sum
    rw [Part.total_append]
    rfl

end Mixing

namespace Site

variable {s : Site} {mixer mixed : Mixer} {place : Nat} {x : Sample}

theorem getElem?_mix (nodup : s.endpoint.registered.Nodup) (h : (s.mix mixer).1 = some mixed) :
    ∃ summed : Array Sample, mixed.sum = s.endpoint.options.limiter.apply summed ∧
      ∀ place, summed[place]? = mixer.clear.sum[place]?.map
        (Part.total · (partsAt s.channels mixer.burst.toNat place s.voices)) := by
  obtain ⟨sum, done, rfl⟩ := Option.map_eq_some_iff.mp h
  refine ⟨sum.sum, rfl, fun place => ?_⟩
  exact Mixing.getElem?_foldl_take nodup (fun _ _ => rfl) rfl done place

theorem clipped_mix (nodup : s.endpoint.registered.Nodup)
    (clips : s.endpoint.options.limiter = .hardClip)
    (finite : ∀ (key : Nat) (c : Channel), s.channels[key]? = some c →
      ∀ y ∈ c.ring.memory.cells, y.isFinite = true)
    (h : (s.mix mixer).1 = some mixed) (there : mixed.sum[place]? = some x) :
    Part.Clipped (partsAt s.channels mixer.burst.toNat place s.voices) x := by
  obtain ⟨summed, limited, parts⟩ := getElem?_mix nodup h
  rw [limited, clips, Limiter.apply, Array.getElem?_map, parts place, Option.map_map] at there
  obtain ⟨sum, zero, rfl⟩ := Option.map_eq_some_iff.mp there
  have cleared : sum = 0 := by
    rw [Mixer.clear, Array.getElem?_replicate] at zero
    split at zero
    · cases zero
      rfl
    · cases zero
  subst cleared
  refine Part.clipped_clip fun p member => ?_
  obtain ⟨v, -, part⟩ := List.mem_filterMap.mp member
  obtain ⟨sample, ahead, rfl⟩ := Option.map_eq_some_iff.mp part
  obtain ⟨c, present, found⟩ := Option.bind_eq_some_iff.mp ahead
  exact finite v.key c present sample (Ring.mem_of_ahead? found)

end Site

end SharedAudio

import SharedAudio.Proofs.Mixing.Room

namespace SharedAudio

def Channel.tuning (c : Channel) : Ramp × Sample := (c.ramp, c.applied)

theorem Channel.map_tuning_congr {a b : Option Channel} (ramps : a.map (·.ramp) = b.map (·.ramp))
    (applied : a.map (·.applied) = b.map (·.applied)) : a.map tuning = b.map tuning := by
  cases a <;> cases b <;> simp_all [tuning]

def gainIn (key : Nat) (voices : List Voice) : Option Sample :=
  (voices.find? (·.key == key)).map (·.gain)

section Voices

variable {voices : List Voice} {v : Voice} {key : Nat}

theorem gainIn_cons_self : gainIn v.key (v :: voices) = some v.gain := by simp [gainIn]

theorem gainIn_cons_of_ne (ne : v.key ≠ key) : gainIn key (v :: voices) = gainIn key voices := by
  simp [gainIn, ne]

theorem gainIn_eq_none (absent : ∀ v ∈ voices, v.key ≠ key) : gainIn key voices = none := by
  simpa [gainIn] using absent

theorem mem_of_gainIn {gain : Sample} (h : gainIn key voices = some gain) :
    ⟨key, gain⟩ ∈ voices := by
  obtain ⟨v, found, rfl⟩ := Option.map_eq_some_iff.mp h
  have same : v.key = key := by simpa using List.find?_some found
  subst same
  exact List.mem_of_find?_eq_some found

end Voices

theorem Site.voice_of_gainIn {s : Site} {key : Nat} {gain : Sample}
    (h : gainIn key s.voices = some gain) :
    ∃ c, s.channels[key]? = some c ∧ c.isRunning = true ∧ gain = c.ramp.next.current := by
  obtain ⟨other, -, voiced⟩ := List.mem_filterMap.mp (mem_of_gainIn h)
  obtain ⟨c, present, running, same⟩ := Site.of_voice? voiced
  cases same
  exact ⟨c, present, running, rfl⟩

theorem Site.gainIn_of_not_mem {s : Site} {key : Nat} {keys : List Nat} (fresh : key ∉ keys) :
    gainIn key (keys.filterMap s.voice?) = none := by
  refine gainIn_eq_none fun v member => ?_
  obtain ⟨other, listed, voiced⟩ := List.mem_filterMap.mp member
  obtain ⟨d, -, -, rfl⟩ := of_voice? voiced
  rintro rfl
  exact fresh listed

namespace Mixing

variable {m n : Mixing} {s : Site} {key : Nat} {keys : List Nat} {width burst : UInt64}
  {c : Channel}

theorem Turn.tuning (turn : m.Turn s.channels width burst key c) :
    (m.take key).channels[key]?.map Channel.tuning = some c.stepGain.tuning := by
  obtain ⟨mixer, has, -⟩ := turn.underway
  have inside : key < m.channels.size := (Array.getElem?_eq_some_iff.mp turn.here).1
  simp only [take, has, turn.here, turn.running, if_true]
  split
  next => simp [inside, Channel.tuning, Channel.record]
  next => simp [inside]

theorem Proceeds.tuning (h : Proceeds s.channels width burst keys m n) (other : Nat) :
    n.channels[other]?.map Channel.tuning = m.channels[other]?.map fun c =>
      if (gainIn other (keys.filterMap s.voice?)).isSome then c.stepGain.tuning else c.tuning := by
  induction h with
  | whole => rfl
  | still there still _ ih =>
    rw [List.filterMap_cons_none (Site.voice?_of_still there still)]
    exact ih
  | @heard m n key keys c turn fresh _ _ ih =>
    rw [List.filterMap_cons_some (Site.voice?_of_running turn.there turn.running), ih]
    by_cases same : key = other
    · subst same
      rw [Site.gainIn_of_not_mem fresh, gainIn_cons_self (v := ⟨key, _⟩), turn.here]
      exact turn.tuning
    · rw [getElem?_take_of_ne same, gainIn_cons_of_ne same]

end Mixing

theorem Site.tuning_mix {s : Site} {mixer : Mixer} (shaped : mixer.Shaped)
    (nodup : s.endpoint.registered.Nodup)
    (matched : ∀ key ∈ s.endpoint.registered, ∃ c, s.channels[key]? = some c ∧
      c.ring.channels = mixer.channels.toNat) (key : Nat) :
    (s.mix mixer).2.channels[key]?.map Channel.tuning = s.channels[key]?.map fun c =>
      if (gainIn key s.voices).isSome then c.stepGain.tuning else c.tuning :=
  (proceeds_mix shaped nodup matched).tuning key

end SharedAudio

import SharedAudio.Proofs.Endpoint.Work

namespace SharedAudio

structure Mixer.Alike (m n : Mixer) : Prop where
  channels : n.channels = m.channels
  burst : n.burst = m.burst
  size : n.sum.size = m.sum.size

namespace Mixer.Alike

variable {m n o : Mixer}

theorem refl (m : Mixer) : m.Alike m := ⟨rfl, rfl, rfl⟩

theorem trans (h : m.Alike n) (k : n.Alike o) : m.Alike o :=
  ⟨k.channels.trans h.channels, k.burst.trans h.burst, k.size.trans h.size⟩

theorem of_add? {r : Ring} {volume : Sample} {share : Mixer.Share}
    (h : m.add? r volume = some share) : m.Alike share.mixer := by
  have size := size_of_add? h
  simp only [add?] at h
  split at h <;> cases h
  exact ⟨rfl, rfl, size⟩

end Mixer.Alike

namespace Mixing

theorem alike_take {m : Mixing} {key : Nat} {next : Mixer} (h : (m.take key).mixer = some next) :
    ∃ before, m.mixer = some before ∧ before.Alike next := by
  unfold take at h
  split at h
  next mixer c was present =>
    split at h
    · dsimp only at h
      split at h
      next share added =>
        cases h
        exact ⟨mixer, was, .of_add? added⟩
      next => cases h
    · exact ⟨next, h, .refl next⟩
  next => exact ⟨next, h, .refl next⟩

theorem alike_foldl {m : Mixing} {keys : List Nat} {next : Mixer}
    (h : (keys.foldl take m).mixer = some next) :
    ∃ before, m.mixer = some before ∧ before.Alike next := by
  induction keys generalizing m with
  | nil => exact ⟨next, h, .refl next⟩
  | cons key keys ih =>
    obtain ⟨middle, took, later⟩ := ih h
    obtain ⟨before, was, first⟩ := alike_take took
    exact ⟨before, was, first.trans later⟩

end Mixing

namespace Endpoint

def Timed (e : Endpoint) : Prop := ∀ line, e.phase = .opened line → line.loop.runs = true →
  (e.options.writeTimeout? line.params.burst line.params.sampleRate).isSome

variable {e : Endpoint} {line : Line}

theorem timed_of_rest (rest : e.runs = false) : e.Timed := by
  intro line opened runs
  rw [runs_of_opened opened, runs] at rest
  cases rest

theorem Timed.writeTimeout? (h : e.Timed) (opened : e.phase = .opened line)
    (runs : line.loop.runs = true) :
    e.options.writeTimeout? line.params.burst line.params.sampleRate =
      some (e.writeTimeout line.params) := by
  obtain ⟨timeout, timed⟩ := Option.isSome_iff_exists.mp (h line opened runs)
  rw [writeTimeout, timed, Option.getD_some]

end Endpoint

namespace Site

variable {s t : Site} {mixer : Mixer}

theorem timed_continueLoop {line : Line} (opened : s.endpoint.phase = .opened line)
    (timed : (s.endpoint.options.writeTimeout? line.params.burst line.params.sampleRate).isSome) :
    (s.continueLoop mixer).endpoint.Timed := by
  obtain ⟨loop, after, -⟩ := phase_continueLoop mixer opened
  intro last there _
  rw [after] at there
  cases there
  rw [(s.eases_continueLoop mixer).options]
  exact timed

theorem Granted.timed (h : s.Granted t) (timed : s.endpoint.Timed) : t.endpoint.Timed := by
  cases h with
  | delivered line mixer u opened loop delivered =>
    refine timed_continueLoop (delivered.phase.trans opened) ?_
    rw [delivered.eases.options]
    exact timed line opened (by rw [loop]; rfl)
  | failed line mixer exit u opened loop delivered =>
    have eases := delivered.eases.trans (eases_finish u exit)
    exact Endpoint.timed_of_rest
      (Endpoint.runs_setLoop (eases.isOpen.trans (Endpoint.isOpen_of_opened opened)))
  | died line mixer u opened loop delivered =>
    intro last there _
    rw [endpoint_setLoop, Endpoint.phase_setLoop (delivered.phase.trans opened)] at there
    cases there
    rw [endpoint_setLoop, Endpoint.options_setLoop, delivered.eases.options]
    exact timed line opened (by rw [loop]; rfl)

theorem timed_opened (h : s.endpoint.Timed) : s.opened.endpoint.Timed := by
  rcases s.opened_cases with ⟨device, -, eq⟩ | ⟨params, buffer, device, -, -, -, -, endpoint⟩
  · rw [eq]
    exact h
  · rw [endpoint]
    exact Endpoint.timed_of_rest rfl

theorem timed_started (h : s.endpoint.Timed) (id : StreamId) : (s.started id).endpoint.Timed := by
  rcases s.start_cases id with ⟨_, eq⟩ | ⟨key, c, -, -, -, -, -, answer, t, launched, -, eq⟩
  · rw [eq]
    exact h
  rw [eq]
  cases answer with
  | error error => exact Endpoint.timed_of_rest launched.error.1
  | ok _ =>
    cases launched with
    | already => exact h
    | begun line mixer opened loop timed =>
      have idle : ((s.modifyChannel key fun _ => c.enter .started).setLoop
          (.idle mixer)).endpoint.phase = .opened { line with loop := .idle mixer } :=
        Endpoint.phase_setLoop opened _
      refine timed_continueLoop ((congrArg _ (endpoint_announce _ _)).trans idle) ?_
      rw [endpoint_announce, endpoint_setLoop, Endpoint.options_setLoop]
      exact timed

theorem alike_mix {next : Mixer} (h : (s.mix mixer).1 = some next) : mixer.Alike next := by
  obtain ⟨sum, mixed, rfl⟩ := Option.map_eq_some_iff.mp h
  obtain ⟨cleared, was, alike⟩ := Mixing.alike_foldl mixed
  cases was
  exact ⟨alike.channels, alike.burst,
    (Limiter.size_apply _ _).trans (alike.size.trans mixer.size_clear)⟩

theorem shaped_continueLoop {line : Line} (opened : s.endpoint.phase = .opened line)
    (shaped : mixer.channels = s.endpoint.config.channels ∧ mixer.burst = line.params.burst ∧
      mixer.sum.size = s.endpoint.config.channels.toNat * line.params.burst.toNat) :
    (s.continueLoop mixer).endpoint.Shaped := by
  have phase : (s.mix mixer).2.endpoint.phase = .opened line := opened
  have config : (s.mix mixer).2.endpoint.config = s.endpoint.config := rfl
  have alike := @alike_mix s mixer
  obtain ⟨channels, burst, size⟩ := shaped
  rw [continueLoop]
  split
  next next t mixed =>
    rw [mixed] at phase config alike
    have same := alike rfl
    intro other last there has
    rw [endpoint_setLoop, Endpoint.phase_setLoop phase] at there
    cases there
    cases has
    rw [endpoint_setLoop, Endpoint.config_setLoop, config]
    exact ⟨same.channels.trans channels, same.burst.trans burst, same.size.trans size⟩
  next t mixed =>
    rw [mixed] at phase
    intro other last there has
    rw [endpoint_setLoop, Endpoint.phase_setLoop phase] at there
    cases there
    cases has

theorem Mixes.shaped {line : Line} {ready : Site} (h : s.Mixes line mixer ready)
    (shaped : s.endpoint.Shaped) : (ready.continueLoop mixer).endpoint.Shaped := by
  obtain ⟨loop, still⟩ := h.still
  refine shaped_continueLoop still ?_
  rw [h.config]
  exact shaped line mixer h.opened h.mixer

theorem steady_shaped : Steady Endpoint.Shaped where
  device _ _ _ shaped := shaped
  listed _ _ shaped := shaped
  granted s t granted shaped := by
    rcases granted.calm_or_mixes with calm | ⟨line, mixer, ready, mixes, rfl⟩
    · exact calm.endpoint.shaped shaped
    · exact mixes.shaped shaped
  halted s t halted := halted.calm.endpoint.shaped
  closed _ _ _ _ _ := by
    intro line mixer opened
    cases opened

theorem shaped_start (h : s.endpoint.Shaped) (id : StreamId) :
    (s.started id).endpoint.Shaped := by
  rcases s.start_calm_or_mixes id with calm | ⟨line, mixer, ready, mixes, eq⟩
  · exact calm.endpoint.shaped h
  · rw [eq]
    exact mixes.shaped h

end Site

end SharedAudio

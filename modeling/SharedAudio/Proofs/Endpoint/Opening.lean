import SharedAudio.Proofs.Endpoint.Effects

namespace SharedAudio

theorem Device.snd_start (d : Device) (config : StreamConfig) :
    (d.start config).2 = d.note .opened := by
  unfold start
  split <;> rfl

def Endpoint.Exceeds (e : Endpoint) (params : HardwareParams) : Prop :=
  UInt64.size ≤ e.burstsPerBuffer.toNat * params.burst.toNat ∨
    Word.maxBytes < 4 * (e.config.channels.toNat * params.burst.toNat)

theorem Mixer.new?_eq_none {channels burst : UInt64} :
    new? channels burst = none ↔ Word.maxBytes < 4 * (channels.toNat * burst.toNat) := by
  rw [new?, Option.map_eq_none_iff, Word.samples?_eq_none]

namespace Site

variable {s t : Site}

inductive Opening (s : Site) : Except EndpointError Unit → Site → Prop
  | barred (error : EndpointError) (phase : s.endpoint.phase ≠ .closed true) :
      Opening s (.error error) s
  | refused (error : HardwareError) (phase : s.endpoint.phase = .closed true)
      (answer : (s.endpoint.device.start s.endpoint.config).1 = .error error) :
      Opening s (.error (.ofOpening error))
        { s with endpoint := { s.endpoint with device := s.endpoint.device.note .opened } }
  | rejected (params : HardwareParams) (reason : String) (phase : s.endpoint.phase = .closed true)
      (answer : (s.endpoint.device.start s.endpoint.config).1 = .ok params)
      (objection : s.endpoint.objection? params = some reason) :
      Opening s (.error (.configurationUnsupported reason))
        { s with endpoint := { s.endpoint with device := (s.endpoint.device.note .opened).close } }
  | opened (params : HardwareParams) (frames : UInt64) (t : Site)
      (phase : s.endpoint.phase = .closed true)
      (answer : (s.endpoint.device.start s.endpoint.config).1 = .ok params)
      (objection : s.endpoint.objection? params = none)
      (counted : frames.toNat = s.endpoint.burstsPerBuffer.toNat * params.burst.toNat)
      (fits : 4 * (s.endpoint.config.channels.toNat * params.burst.toNat) ≤ Word.maxBytes)
      (channels : t.channels = s.channels)
      (endpoint : t.endpoint = { s.endpoint with
        device := ((s.endpoint.device.note .opened).setBuffer frames).2
        phase := .opened ⟨params, ((s.endpoint.device.note .opened).setBuffer frames).1,
          .idle (.new s.endpoint.config.channels params.burst)⟩
        health := .healthy
        lastExit := none
        bursts := 0
        underflows := 0 }) :
      Opening s (.ok ()) t

theorem opening_of_openStream? {answer : Except EndpointError Unit}
    (h : s.openStream? = some (answer, t)) : s.Opening answer t := by
  have asked := s.endpoint.device.snd_start s.endpoint.config
  simp only [openStream?] at h
  split at h
  next phase =>
    cases h
    exact .barred _ (by rw [phase]; simp)
  next phase =>
    cases h
    exact .barred _ (by rw [phase]; simp)
  next phase =>
    split at h
    next error device started =>
      rw [started] at asked
      cases asked
      cases h
      exact .refused error phase (by rw [started])
    next params device started =>
      rw [started] at asked
      cases asked
      split at h
      next reason objection =>
        cases h
        exact .rejected params reason phase (by rw [started]) objection
      next objection =>
        obtain ⟨frames, counted, sized⟩ := Option.bind_eq_some_iff.mp h
        obtain ⟨mixer, made, done⟩ := Option.bind_eq_some_iff.mp sized
        obtain ⟨fits, rfl⟩ := Mixer.new?_eq_some.mp made
        cases done
        exact .opened params frames _ phase (by rw [started]) objection
          (Word.mul?_eq_some.mp counted) fits (channels_announce _ _) (endpoint_announce _ _)

theorem openStream?_eq_none_iff : s.openStream? = none ↔ s.endpoint.phase = .closed true ∧
    ∃ params, (s.endpoint.device.start s.endpoint.config).1 = .ok params ∧
      s.endpoint.objection? params = none ∧ s.endpoint.Exceeds params := by
  simp only [openStream?]
  split
  next phase => simp [phase]
  next phase => simp [phase]
  next phase =>
    rcases s.endpoint.device.start s.endpoint.config with ⟨error | params, device⟩
    · simp
    · cases objection : s.endpoint.objection? params with
      | some reason => simp [objection]
      | none =>
        simp only [phase, true_and, Except.ok.injEq, exists_eq_left', objection, Endpoint.Exceeds]
        rw [← Word.mul?_eq_none, ← Mixer.new?_eq_none]
        rcases Word.mul? s.endpoint.burstsPerBuffer params.burst with _ | frames
        · simp
        · rcases Mixer.new? s.endpoint.config.channels params.burst with _ | mixer <;> simp

theorem opening_opened (s : Site) : s.opened = s ∨ ∃ answer, s.Opening answer s.opened := by
  cases result : s.openStream? with
  | none => exact .inl (by rw [opened, result]; rfl)
  | some answered =>
    obtain ⟨answer, t⟩ := answered
    rw [opened_of_openStream? result]
    exact .inr ⟨answer, opening_of_openStream? result⟩

theorem opened_cases (s : Site) :
    (∃ device, device.bursts = s.endpoint.handed ∧
      s.opened = { s with endpoint := { s.endpoint with device } }) ∨
    ∃ params buffer device, s.endpoint.phase = .closed true ∧
      s.endpoint.objection? params = none ∧ device.bursts = s.endpoint.handed ∧
      s.opened.channels = s.channels ∧ s.opened.endpoint = { s.endpoint with
        device
        phase := .opened ⟨params, buffer, .idle (.new s.endpoint.config.channels params.burst)⟩
        health := .healthy
        lastExit := none
        bursts := 0
        underflows := 0 } := by
  rcases s.opening_opened with same | ⟨answer, opening⟩
  · exact .inl ⟨s.endpoint.device, rfl, same⟩
  · generalize s.opened = t at opening
    cases opening with
    | barred => exact .inl ⟨s.endpoint.device, rfl, rfl⟩
    | refused | rejected =>
      exact .inl ⟨_, by simp [Endpoint.handed, Device.bursts, Call.burst?], rfl⟩
    | opened params frames t phase answer objection counted fits channels endpoint =>
      exact .inr ⟨params, _, _, phase, objection,
        by simp [Endpoint.handed, Device.bursts, Call.burst?], channels, endpoint⟩

end Site

end SharedAudio

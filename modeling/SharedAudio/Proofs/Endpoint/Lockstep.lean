import SharedAudio.Proofs.Endpoint.Near

namespace SharedAudio

variable {g : Tolerance} {i : Nat}

namespace Site.Near

variable {s t : Site}

theorem grant? (lawful : g.Lawful) (h : s.Near g i t) (shaped : s.endpoint.Shaped) (fit : s.Fit g) :
    Option.Rel (Site.Near g i) s.grant? t.grant? := by
  rcases h.endpoint.phases with ⟨owned, here, there⟩ | ⟨params, buffer, l, k, here, there, near⟩
  · rw [Site.grant?, Site.grant?, here, there]
    exact .none
  cases near with
  | idle | ended | panicked | lost =>
    rw [Site.grant?, Site.grant?, here, there]
    exact .none
  | @writing m n near =>
    obtain ⟨delivery, u, v, first, second, went⟩ := h.deliver lawful near params
    simp only [Site.grant?, here, there, first, second]
    cases delivery with
    | delivered =>
      have on := delivered_of_deliver first
      refine .some (went.continueLoop lawful near (on.phase.trans here) rfl ?_
        (fit.delivered lawful on))
      rw [Endpoint.Shaped, on.phase, on.eases.config]
      exact shaped
    | failed exit => exact .some ((went.finish lawful exit).setLoop (.ended near))
    | died => exact .some (went.setLoop .panicked)

theorem grantUpTo (lawful : g.Lawful) (h : s.Near g i t) (shaped : s.endpoint.Shaped)
    (fit : s.Fit g) (n granted : Nat) : (t.grantUpTo n granted).1 = (s.grantUpTo n granted).1 ∧
      (s.grantUpTo n granted).2.Near g i (t.grantUpTo n granted).2 := by
  induction n generalizing s t granted with
  | zero => exact ⟨rfl, h⟩
  | succ n ih =>
    have next := h.grant? lawful shaped fit
    rw [Site.grantUpTo, Site.grantUpTo]
    cases granting : s.grant? <;> cases granting' : t.grant? <;> rw [granting, granting'] at next
    · exact ⟨rfl, h⟩
    · cases next
    · cases next
    · cases next with
      | some near =>
        have on := granted_of_grant granting
        exact ih near (steady_shaped.granted _ _ on shaped) (fit.granted lawful on) (granted + 1)

theorem halt (lawful : g.Lawful) (h : s.Near g i t) : s.halt.Near g i t.halt := by
  rcases h.endpoint.phases with ⟨owned, here, there⟩ | ⟨params, buffer, l, k, here, there, near⟩
  · rw [Site.halt, Site.halt, here, there]
    exact h
  simp only [Site.halt, here, there]
  cases near with
  | idle => exact h
  | lost flag => exact h.setLoop (.lost false)
  | ended near => exact (h.setLoop (.idle near)).announce _
  | panicked => exact (h.joinPanicked lawful false).announce _
  | @writing m n near =>
    obtain ⟨delivery, u, v, first, second, went⟩ := h.deliver lawful near params
    simp only [first, second]
    cases delivery with
    | delivered => exact ((went.finish lawful .stopped).setLoop (.idle near)).announce _
    | failed exit => exact ((went.finish lawful exit).setLoop (.idle near)).announce _
    | died => exact (went.joinPanicked lawful false).announce _

theorem begin? (lawful : g.Lawful) (h : s.Near g i t) {m n : Mixer} (near : m.Near g n)
    {line : Line} (opened : s.endpoint.phase = .opened line) (has : line.loop.mixer? = some m)
    (shaped : s.endpoint.Shaped)
    (fit : ∀ u, s.begin? line.params m = some (.ok (), u) → u.Fit g) :
    Option.Rel (Same g i) (s.begin? line.params m) (t.begin? line.params n) := by
  simp only [Site.begin?, h.endpoint.options, h.endpoint.plan] at fit ⊢
  revert fit
  cases s.endpoint.options.writeTimeout? line.params.burst line.params.sampleRate with
  | none => exact fun _ => .none
  | some timeout =>
    cases s.endpoint.device.plan.spawnError with
    | some reason => exact fun _ => .some ⟨rfl, h⟩
    | none =>
      intro fit
      have loud := h.announce "streaming"
      have still : (s.announce "streaming").endpoint.phase = .opened line := by
        rwa [endpoint_announce]
      have begun := Fit.of_continueLoop lawful (fit _ rfl)
      exact .some ⟨rfl, loud.continueLoop lawful near still has (by rwa [endpoint_announce]) begun⟩

theorem launch? (lawful : g.Lawful) (h : s.Near g i t) (shaped : s.endpoint.Shaped)
    (fit : ∀ u, s.launch? = some (.ok (), u) → u.Fit g) :
    Option.Rel (Same g i) s.launch? t.launch? := by
  rcases h.endpoint.phases with ⟨owned, here, there⟩ | ⟨params, buffer, l, k, here, there, near⟩
  · rw [Site.launch?, Site.launch?, here, there]
    exact .some ⟨rfl, h⟩
  simp only [Site.launch?, here, there] at fit ⊢
  cases near with
  | writing | lost => exact .some ⟨rfl, h⟩
  | panicked =>
    have joined := h.joinPanicked lawful true
    exact .some ⟨by rw [joined.endpoint.ailment?], joined⟩
  | idle near => exact h.begin? lawful near here rfl shaped fit
  | @ended m n near =>
    have idle := h.setLoop (.idle near)
    dsimp only at fit ⊢
    rw [idle.endpoint.ailment?]
    revert fit
    cases (s.setLoop (.idle m)).endpoint.ailment? with
    | some error => exact fun _ => .some ⟨rfl, idle⟩
    | none =>
      refine idle.begin? lawful near (Endpoint.phase_setLoop here _) rfl
        fun line other opened has => ?_
      rw [endpoint_setLoop, Endpoint.phase_setLoop here] at opened
      cases opened
      cases has
      rw [endpoint_setLoop, Endpoint.config_setLoop]
      exact shaped ⟨params, buffer, .ended m⟩ m here rfl

end Site.Near

theorem Endpoint.Akin.openStream? (lawful : g.Lawful) {s t : Site}
    (akin : s.endpoint.Akin g i t.endpoint) (here : s.endpoint.phase = .closed true)
    (there : t.endpoint.phase = .closed true) (channels : g.channels s.channels t.channels)
    (log : t.log = s.log) :
    (∃ error device device', s.openStream? =
        some (.error error, { s with endpoint := { s.endpoint with device } }) ∧
      t.openStream? =
        some (.error error, { t with endpoint := { t.endpoint with device := device' } }) ∧
      Akin g i { s.endpoint with device } { t.endpoint with device := device' }) ∨
    (∃ u v, s.openStream? = some (.ok (), u) ∧ t.openStream? = some (.ok (), v) ∧ u.Near g i v) ∨
    s.openStream? = none ∧ t.openStream? = none := by
  have asked := akin.note lawful .opened rfl
  have objection (params : HardwareParams) :
      t.endpoint.objection? params = s.endpoint.objection? params := by
    rw [Endpoint.objection?, Endpoint.objection?, akin.config]
  simp only [Site.openStream?, here, there, Device.start, akin.plan, akin.config]
  cases s.endpoint.device.plan.openError with
  | some error => exact .inl ⟨_, _, _, rfl, rfl, { asked with config := rfl }⟩
  | none =>
    have params : t.endpoint.device.params s.endpoint.config =
        s.endpoint.device.params s.endpoint.config := by
      rw [Device.params, Device.params, akin.plan]
    simp only [params, objection]
    cases s.endpoint.objection? (s.endpoint.device.params s.endpoint.config) with
    | some reason =>
      exact .inl ⟨_, _, _, rfl, rfl,
        { asked.note lawful .closed rfl with config := rfl }⟩
    | none =>
      have depth : t.endpoint.burstsPerBuffer = s.endpoint.burstsPerBuffer := by
        rw [Endpoint.burstsPerBuffer, Endpoint.burstsPerBuffer, akin.config, akin.options]
      rw [depth]
      cases Word.mul? s.endpoint.burstsPerBuffer
          (s.endpoint.device.params s.endpoint.config).burst with
      | none => exact .inr (.inr ⟨rfl, rfl⟩)
      | some frames =>
        have sized := asked.note lawful (.buffer frames) rfl
        simp only [Device.setBuffer, Device.note, akin.plan, Option.bind_eq_bind,
          Option.bind_some]
        cases Mixer.new? s.endpoint.config.channels
            (s.endpoint.device.params s.endpoint.config).burst with
        | none => exact .inr (.inr ⟨rfl, rfl⟩)
        | some mixer =>
          refine .inr (.inl ⟨_, _, rfl, rfl, Site.Near.announce ?_ _⟩)
          exact ⟨{ sized with
            config := rfl
            plan := rfl
            phase := .opened _ _ (.idle ⟨rfl, rfl, lawful.same _⟩)
            health := rfl
            lastExit := rfl
            bursts := rfl
            underflows := lawful.none }, channels, log⟩

namespace Site.Near

variable {s t : Site}

theorem openStream? (lawful : g.Lawful) (h : s.Near g i t) :
    Option.Rel (Same g i) s.openStream? t.openStream? := by
  rcases h.endpoint.phases with
    ⟨_ | _, here, there⟩ | ⟨params, buffer, l, k, here, there, near⟩
  · simp only [Site.openStream?, here, there]
    exact .some ⟨rfl, h⟩
  · rcases h.endpoint.toAkin.openStream? lawful here there h.channels h.log with
      ⟨error, device, device', eq, eq', akin⟩ | ⟨u, v, eq, eq', near⟩ | ⟨eq, eq'⟩
    · rw [eq, eq']
      exact .some ⟨rfl, ⟨akin, h.endpoint.phase, h.endpoint.health, h.endpoint.lastExit,
        h.endpoint.bursts, h.endpoint.underflows⟩, h.channels, h.log⟩
    · rw [eq, eq']
      exact .some ⟨rfl, near⟩
    · rw [eq, eq']
      exact .none
  · rw [openStream?_of_opened here, openStream?_of_opened there]
    exact .some ⟨rfl, h⟩

theorem closeStream (lawful : g.Lawful) (h : s.Near g i t) :
    t.closeStream.1 = s.closeStream.1 ∧ s.closeStream.2.Near g i t.closeStream.2 := by
  rcases h.endpoint.phases with ⟨owned, here, there⟩ | ⟨params, buffer, l, k, here, there, near⟩
  · rw [Site.closeStream, Site.closeStream, here, there]
    exact ⟨rfl, h⟩
  have halted := h.halt lawful
  have owned : (t.halt.endpoint.line?.bind (·.loop.mixer?)).isSome =
      (s.halt.endpoint.line?.bind (·.loop.mixer?)).isSome := by
    rcases halted.endpoint.phases with
      ⟨owned, here, there⟩ | ⟨params, buffer, l, k, here, there, near⟩
    · simp [Endpoint.line?, here, there, Phase.line?]
    · simp only [Endpoint.line?, here, there, Phase.line?, Option.bind_some]
      cases near <;> rfl
  simp only [Site.closeStream, here, there, owned]
  refine ⟨trivial, announce ?_ _⟩
  refine ⟨?_, (halted.enterAll lawful .stopped).channels, halted.log⟩
  dsimp only [endpoint_modifyRegistered]
  split
  · exact { halted.endpoint.toAkin.note lawful .closed rfl with
      phase := .closed _
      health := halted.endpoint.health
      lastExit := halted.endpoint.lastExit
      bursts := halted.endpoint.bursts
      underflows := halted.endpoint.underflows
      registered := rfl }
  · exact { halted.endpoint with phase := .closed _, registered := rfl }

theorem register (lawful : g.Lawful) (h : s.Near g i t) (key : Nat) {other : Nat} {c d : Channel}
    (near : g.channel other c d) : (t.register key d).1 = (s.register key c).1 ∧
      (s.register key c).2.Near g i (t.register key d).2 := by
  simp only [Site.register, h.endpoint.isOpen, h.ids lawful, h.endpoint.config, h.endpoint.options,
    h.endpoint.registered, lawful.width near, lawful.id near]
  split
  · exact ⟨rfl, h⟩
  · split
    · exact ⟨rfl, h⟩
    · split
      · exact ⟨rfl, h⟩
      · split
        · exact ⟨rfl, h⟩
        · exact ⟨rfl, { h.endpoint with config := rfl, options := rfl, registered := rfl },
            h.channels, h.log⟩

theorem stopChannel (lawful : g.Lawful) (h : s.Near g i t) (key : Nat) :
    (s.modifyChannel key Channel.stop).Near g i (t.modifyChannel key Channel.stop) :=
  h.modifyChannel key fun _ _ => lawful.enter .stopped

theorem stopKey (lawful : g.Lawful) (h : s.Near g i t) (key : Nat) :
    (s.stopKey key).Near g i (t.stopKey key) := by
  have stopped := h.stopChannel lawful key
  have runs : t.channels[key]?.any Channel.isRunning = s.channels[key]?.any Channel.isRunning := by
    rcases Tolerance.channels_cases h.channels key with ⟨here, there⟩ | ⟨c, d, here, there, near⟩
    · rw [here, there]
    · rw [here, there, Option.any_some, Option.any_some, isRunning lawful near]
  simp only [Site.stopKey, runs, stopped.running lawful]
  split
  · split
    · exact stopped.halt lawful
    · exact stopped
  · exact h

theorem unregister (lawful : g.Lawful) (h : s.Near g i t) (id : StreamId) :
    (s.unregister id).Near g i (t.unregister id) := by
  simp only [Site.unregister, h.find? lawful, h.endpoint.registered]
  split
  · exact h
  next key _ =>
    refine stopKey lawful ?_ key
    exact ⟨{ h.endpoint with registered := rfl }, h.channels, h.log⟩

theorem starting (lawful : g.Lawful) {key : Nat} {c d : Channel} (near : g.channel key c d) :
    (∃ error, c.start = .error error ∧ d.start = .error error) ∨
      c.start = .ok (c.enter .started) ∧ d.start = .ok (d.enter .started) := by
  rw [Channel.start, Channel.start, lawful.state near, lawful.id near]
  cases c.state with
  | stopped | running => exact .inr ⟨rfl, rfl⟩
  | disconnected | faulted => exact .inl ⟨_, rfl, rfl⟩

theorem start? (lawful : g.Lawful) (h : s.Near g i t) (shaped : s.endpoint.Shaped) (id : StreamId)
    (fit : (s.started id).Fit g) : Option.Rel (Same g i) (s.start? id) (t.start? id) := by
  simp only [Site.started, Site.start?, h.find? lawful, h.endpoint.isOpen,
    h.endpoint.ailment?] at fit ⊢
  revert fit
  cases s.endpoint.isOpen with
  | false => exact fun _ => .some ⟨rfl, h⟩
  | true =>
    cases s.endpoint.ailment? with
    | some error => exact fun _ => .some ⟨rfl, h⟩
    | none =>
      cases s.find? id with
      | none => exact fun _ => .some ⟨rfl, h⟩
      | some key =>
        dsimp only [Bool.not_true, Bool.false_eq_true, if_false]
        rcases Tolerance.channels_cases h.channels key with
          ⟨here, there⟩ | ⟨c, d, here, there, near⟩
        · rw [here, there]
          exact fun _ => .some ⟨rfl, h⟩
        rcases starting lawful near with ⟨error, started, started'⟩ | ⟨started, started'⟩
        · rw [here, there, Option.map_some, Option.map_some, started, started']
          exact fun _ => .some ⟨rfl, h⟩
        rw [here, there, Option.map_some, Option.map_some, started, started']
        have entered : (s.modifyChannel key fun _ => c.enter .started).Near g i
            (t.modifyChannel key fun _ => d.enter .started) :=
          h.modifyChannel key fun _ _ _ => lawful.enter .started near
        intro fit
        dsimp only [Bool.not_true, Bool.false_eq_true, if_false] at fit
        have launched := entered.launch? lawful shaped fun u launched => by
          rwa [launched] at fit
        refine rel_map ?_ launched
        rintro ⟨answer, u⟩ ⟨other, v⟩ ⟨same, near⟩
        cases same
        cases answer with
        | ok => exact ⟨rfl, near⟩
        | error => exact ⟨rfl, near.stopChannel lawful key⟩

theorem stop (lawful : g.Lawful) (h : s.Near g i t) (id : StreamId) :
    (t.stop id).1 = (s.stop id).1 ∧ (s.stop id).2.Near g i (t.stop id).2 := by
  simp only [Site.stop, h.find? lawful, h.endpoint.isOpen]
  split
  · exact ⟨rfl, h⟩
  · split
    · exact ⟨rfl, h⟩
    next key _ => exact ⟨rfl, h.stopKey lawful key⟩

theorem setVolume (lawful : g.Lawful) (h : s.Near g i t) (id : StreamId) (volume other : Sample)
    (aims : ∀ key bursts c d, s.find? id = some key → g.channel key c d →
      g.channel key (c.setVolume volume bursts) (d.setVolume other bursts)) :
    (t.setVolume id other).1 = (s.setVolume id volume).1 ∧
      (s.setVolume id volume).2.Near g i (t.setVolume id other).2 := by
  simp only [Site.setVolume, h.find? lawful, h.endpoint.options]
  split
  · exact ⟨rfl, h⟩
  next key found => exact ⟨rfl, h.modifyChannel key fun c d => aims key _ c d found⟩

end Site.Near

end SharedAudio

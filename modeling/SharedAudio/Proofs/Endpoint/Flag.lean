import SharedAudio.Proofs.Endpoint.Failure

namespace SharedAudio

namespace Endpoint

def Stale (e : Endpoint) : Prop := ∃ line, e.phase = .opened line ∧ line.loop = .lost true

def Truthful (e : Endpoint) : Prop := e.streaming = true → e.health ≠ .healthy → e.Stale

variable {e f : Endpoint} {line : Line} {loop : Loop}

theorem Stale.streaming (h : e.Stale) : e.streaming = true := by
  obtain ⟨line, opened, lost⟩ := h
  rw [streaming_of_opened opened, lost, Loop.streaming]

theorem not_stale_of_quiet (h : e.streaming = false) : ¬ e.Stale := by
  intro stale
  rw [stale.streaming] at h
  cases h

theorem not_stale_of_opened (opened : e.phase = .opened line) (loop : line.loop ≠ .lost true) :
    ¬ e.Stale := by
  rintro ⟨other, opened', lost⟩
  rw [opened] at opened'
  cases opened'
  exact loop lost

theorem stale_setLoop_iff (opened : e.phase = .opened line) :
    (e.setLoop loop).Stale ↔ loop = .lost true := by
  rw [setLoop_of_opened opened]
  constructor
  · rintro ⟨after, eq, lost⟩
    cases eq
    exact lost
  · intro lost
    exact ⟨_, rfl, lost⟩

theorem Stale.congr (h : e.Stale) (phase : f.phase = e.phase) : f.Stale := by
  obtain ⟨line, opened, lost⟩ := h
  exact ⟨line, phase.trans opened, lost⟩

theorem truthful_of_quiet (h : e.streaming = false) : e.Truthful := by
  intro streaming
  rw [h] at streaming
  cases streaming

theorem truthful_of_healthy (h : e.health = .healthy) : e.Truthful := fun _ ill => absurd h ill

theorem Truthful.congr (h : e.Truthful) (phase : f.phase = e.phase) (health : f.health = e.health) :
    f.Truthful := by
  intro streaming ill
  have before : e.streaming = true := by
    rw [Endpoint.streaming, phase] at streaming
    exact streaming
  exact (h before (health ▸ ill)).congr phase

theorem Truthful.healthy {mixer : Mixer} (h : e.Truthful) (opened : e.phase = .opened line)
    (writing : line.loop = .writing mixer) : e.health = .healthy := by
  by_cases healthy : e.health = .healthy
  · exact healthy
  · have stale := h (by rw [streaming_of_opened opened, writing, Loop.streaming]) healthy
    exact absurd stale (not_stale_of_opened opened (by rw [writing]; simp))

end Endpoint

namespace Site

variable {s t : Site} {key : Nat} {id : StreamId} {mixer : Mixer}

theorem not_stale_continueLoop (opened : s.endpoint.isOpen = true) :
    ¬ (s.continueLoop mixer).endpoint.Stale := by
  obtain ⟨line, phase⟩ := Endpoint.opened_of_isOpen opened
  obtain ⟨loop, after, runs, -⟩ := phase_continueLoop mixer phase
  refine Endpoint.not_stale_of_opened after ?_
  rintro rfl
  cases runs

theorem Granted.not_stale (h : s.Granted t) : ¬ t.endpoint.Stale := by
  cases h with
  | delivered line mixer u opened loop delivered =>
    exact not_stale_continueLoop (delivered.eases.isOpen.trans (Endpoint.isOpen_of_opened opened))
  | failed line mixer exit u opened loop delivered =>
    have eases := delivered.eases.trans (eases_finish u exit)
    refine Endpoint.not_stale_of_quiet ?_
    exact Endpoint.streaming_setLoop (eases.isOpen.trans (Endpoint.isOpen_of_opened opened))
  | died line mixer u opened loop delivered =>
    rw [endpoint_setLoop, Endpoint.stale_setLoop_iff (delivered.phase.trans opened)]
    exact fun lost => by cases lost

theorem Granted.truthful (h : s.Granted t) (before : s.endpoint.Truthful) :
    t.endpoint.Truthful := by
  cases h with
  | delivered line mixer u opened loop delivered =>
    have health := (runs_continueLoop mixer
      (delivered.eases.isOpen.trans (Endpoint.isOpen_of_opened opened))).2
    refine Endpoint.truthful_of_healthy ?_
    rw [health, delivered.health, before.healthy opened loop]
  | failed line mixer exit u opened loop delivered =>
    have eases := delivered.eases.trans (eases_finish u exit)
    refine Endpoint.truthful_of_quiet ?_
    exact Endpoint.streaming_setLoop (eases.isOpen.trans (Endpoint.isOpen_of_opened opened))
  | died line mixer u opened loop delivered =>
    refine Endpoint.truthful_of_healthy ?_
    rw [endpoint_setLoop, Endpoint.health_setLoop, delivered.health, before.healthy opened loop]

theorem steady_truthful : Steady Endpoint.Truthful where
  device _ _ _ truthful := truthful
  listed _ _ truthful := truthful
  granted _ _ := Granted.truthful
  halted _ _ halted _ := Endpoint.truthful_of_quiet halted.streaming
  closed _ _ _ _ _ := Endpoint.truthful_of_quiet rfl

theorem steady_not_stale : Steady fun e => ¬ e.Stale where
  device _ _ _ fresh := fresh
  listed _ _ fresh := fresh
  granted _ _ granted _ := granted.not_stale
  halted _ _ halted _ := Endpoint.not_stale_of_quiet halted.streaming
  closed _ _ _ _ _ := Endpoint.not_stale_of_quiet rfl

theorem truthful_opened (h : s.endpoint.Truthful) : s.opened.endpoint.Truthful := by
  rcases s.opened_cases with ⟨device, -, eq⟩ | ⟨params, buffer, device, -, -, -, -, endpoint⟩
  · rw [eq]
    exact h
  · rw [endpoint]
    exact Endpoint.truthful_of_quiet rfl

theorem not_stale_opened (h : ¬ s.endpoint.Stale) : ¬ s.opened.endpoint.Stale := by
  rcases s.opened_cases with ⟨device, -, eq⟩ | ⟨params, buffer, device, -, -, -, -, endpoint⟩
  · rw [eq]
    exact h
  · rw [endpoint]
    exact Endpoint.not_stale_of_quiet rfl

theorem stale_joinPanicked (opened : s.endpoint.isOpen = true) :
    (s.joinPanicked true).endpoint.Stale := by
  obtain ⟨line, phase⟩ := Endpoint.opened_of_isOpen opened
  have still : Endpoint.phase { s.endpoint with
      health := .faulted
      lastExit := some (.writeFailed panicReason) } = .opened line := phase
  exact (Endpoint.stale_setLoop_iff still).mpr rfl

theorem truthful_start (h : s.endpoint.Truthful) : (s.started id).endpoint.Truthful := by
  rcases s.start_cases id with
    ⟨_, eq⟩ | ⟨key, c, -, -, opened, ailment, -, answer, t, launched, -, eq⟩
  · rw [eq]
    exact h
  have after : t.endpoint.Truthful := by
    cases launched with
    | unable | already => exact h
    | ailing line mixer _ opened loop =>
      refine Endpoint.truthful_of_quiet ?_
      exact Endpoint.streaming_setLoop (Endpoint.isOpen_of_opened opened)
    | joined => exact fun _ _ => stale_joinPanicked opened
    | begun line mixer phase loop =>
      have health := (@runs_continueLoop
        (((s.modifyChannel key fun _ => c.enter .started).setLoop (.idle mixer)).announce
          "streaming") mixer (by simpa using opened)).2
      refine Endpoint.truthful_of_healthy (health.trans ?_)
      rw [endpoint_announce, endpoint_setLoop, Endpoint.health_setLoop]
      exact Endpoint.health_of_ailment ailment
  rw [eq]
  cases answer <;> exact after

structure Joins (s : Site) (id : StreamId) : Prop where
  panicked : s.endpoint.Panicked
  healthy : s.endpoint.health = .healthy
  startable : ∃ key c, s.find? id = some key ∧ s.channels[key]? = some c ∧
    c.state.isTerminal = false

theorem joins_of_stale_start (fresh : ¬ s.endpoint.Stale)
    (stale : (s.started id).endpoint.Stale) : s.Joins id := by
  rcases s.start_cases id with
    ⟨_, eq⟩ | ⟨key, c, found, present, opened, ailment, starts, answer, t, launched, -, eq⟩
  · rw [eq] at stale
    exact absurd stale fresh
  have after : t.endpoint.Stale := by
    rw [eq] at stale
    cases answer <;> exact stale
  cases launched with
  | unable | already => exact absurd after fresh
  | ailing line mixer _ phase loop =>
    refine absurd after (Endpoint.not_stale_of_quiet ?_)
    exact Endpoint.streaming_setLoop (Endpoint.isOpen_of_opened phase)
  | begun line mixer phase loop =>
    exact absurd after (not_stale_continueLoop (by simpa using opened))
  | joined line _ phase loop =>
    refine ⟨⟨line, phase, loop⟩, Endpoint.health_of_ailment ailment, key, c, found, present, ?_⟩
    cases terminal : c.state.isTerminal with
    | false => rfl
    | true =>
      rw [Channel.enter_of_isTerminal terminal, Channel.isRunning, beq_iff_eq] at starts
      rw [starts] at terminal
      cases terminal

theorem Joins.stale (h : s.Joins id) : (s.started id).endpoint.Stale := by
  obtain ⟨⟨line, opened, loop⟩, healthy, key, c, found, present, alive⟩ := h
  have starts : c.start = .ok (c.enter .started) := by
    rw [Channel.start]
    cases state : c.state with
    | stopped | running => rfl
    | disconnected | faulted =>
      rw [state] at alive
      cases alive
  have isOpen := Endpoint.isOpen_of_opened opened
  have joined := @stale_joinPanicked (s.modifyChannel key fun _ => c.enter .started) isOpen
  have launched : ∃ error, (s.modifyChannel key fun _ => c.enter .started).launch? =
      some (.error error, (s.modifyChannel key fun _ => c.enter .started).joinPanicked true) := by
    have phase : (s.modifyChannel key fun _ => c.enter .started).endpoint.phase = .opened line :=
      opened
    rw [launch?, phase]
    dsimp only
    rw [loop]
    exact ⟨_, rfl⟩
  obtain ⟨error, launched⟩ := launched
  simp only [started, start?, isOpen, Endpoint.ailment?, healthy, found, present, Option.map_some,
    starts, launched, Bool.not_true, Bool.false_eq_true, if_false]
  exact joined

end Site

end SharedAudio

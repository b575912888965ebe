import SharedAudio.Proofs.Endpoint.Outage

namespace SharedAudio

namespace Endpoint

def Down (e : Endpoint) : Prop := e.streaming = false ∧ e.health ≠ .healthy

structure Lies (e f : Endpoint) : Prop where
  quiet : f.streaming = false
  health : f.health = e.health
  lastExit : f.lastExit = e.lastExit
  writes : f.device.writes = e.device.writes

def Latches (e f : Endpoint) : Prop := e.Down → e.Lies f

variable {e f g : Endpoint}

theorem Lies.down (h : e.Lies f) (down : e.Down) : f.Down := ⟨h.quiet, h.health ▸ down.2⟩

theorem Lies.trans (h : e.Lies f) (k : f.Lies g) : e.Lies g :=
  ⟨k.quiet, k.health.trans h.health, k.lastExit.trans h.lastExit, k.writes.trans h.writes⟩

theorem Latches.refl (e : Endpoint) : e.Latches e := fun down => ⟨down.1, rfl, rfl, rfl⟩

theorem Latches.trans (h : e.Latches f) (k : f.Latches g) : e.Latches g :=
  fun down => (h down).trans (k ((h down).down down))

theorem Lies.setLoop (h : e.Lies f) {loop : Loop} (quiet : (f.setLoop loop).streaming = false) :
    e.Lies (f.setLoop loop) := by
  refine ⟨quiet, ?_, ?_, ?_⟩
  · rw [health_setLoop, h.health]
  · rw [lastExit_setLoop, h.lastExit]
  · rw [device_setLoop, h.writes]

theorem ailment?_of_exit {exit : LoopExit} (ill : exit.health ≠ .healthy)
    (health : e.health = exit.health) (lastExit : e.lastExit = some exit) :
    e.ailment? = some exit.error := by
  rw [ailment?, health, lastExit]
  cases exit with
  | stopped => exact absurd rfl ill
  | disconnected | shortWrite | writeFailed => rfl

end Endpoint

namespace Site

variable {s t : Site} {key : Nat} {act : Site → Site}

theorem start?_of_ill {error : EndpointError} (ailment : s.endpoint.ailment? = some error)
    (id : StreamId) :
    s.start? id = some (.error (if s.endpoint.isOpen = true then error else .notOpen), s) := by
  rw [start?]
  by_cases isOpen : s.endpoint.isOpen = true
  · simp [isOpen, ailment]
  · simp [isOpen]

theorem latches_start (s : Site) (id : StreamId) :
    s.endpoint.Latches (s.started id).endpoint := by
  intro down
  have ailing : s.endpoint.ailment? ≠ none := fun well =>
    down.2 (Endpoint.health_of_ailment well)
  obtain ⟨error, ailment⟩ := Option.ne_none_iff_exists'.mp ailing
  rw [started_of_start? (start?_of_ill ailment id)]
  exact Endpoint.Latches.refl _ down

theorem Granted.latches (h : s.Granted t) : s.endpoint.Latches t.endpoint := by
  intro down
  cases h with
  | delivered line _ _ opened loop | failed line _ _ _ opened loop | died line _ _ opened loop =>
    rw [Endpoint.Down, Endpoint.streaming_of_opened opened, loop] at down
    cases down.1

theorem Halted.latches (h : s.Halted t) : s.endpoint.Latches t.endpoint := by
  intro down
  have quiet := h.streaming
  have same := Endpoint.Latches.refl _ down
  cases h with
  | resting => exact same
  | lost => exact same.setLoop quiet
  | ended =>
    rw [endpoint_announce] at quiet ⊢
    exact same.setLoop quiet
  | panicked line opened loop | written line _ _ _ _ opened loop | died line _ _ opened loop =>
    rw [Endpoint.Down, Endpoint.streaming_of_opened opened, loop] at down
    cases down.1

theorem steady_latches (e : Endpoint) : Steady e.Latches where
  device f device calls latches down := by
    obtain ⟨quiet, health, lastExit, writes⟩ := latches down
    exact ⟨quiet, health, lastExit, (Device.writes_congr calls).trans writes⟩
  listed _ _ latches down := by
    obtain ⟨quiet, health, lastExit, writes⟩ := latches down
    exact ⟨quiet, health, lastExit, writes⟩
  granted _ _ granted latches := latches.trans granted.latches
  halted _ _ halted latches := latches.trans halted.latches
  closed f line _ _ latches down := by
    obtain ⟨-, health, lastExit, writes⟩ := latches down
    exact ⟨rfl, health, lastExit, (f.writes_shut line).trans writes⟩

theorem Work.latches (h : Work act) (s : Site) : s.endpoint.Latches (act s).endpoint :=
  h.steady (steady_latches s.endpoint) (.refl _)

theorem Opening.writes {answer : Except EndpointError Unit} (h : s.Opening answer t) :
    t.endpoint.device.writes = s.endpoint.device.writes := by
  cases h with
  | barred => rfl
  | refused => exact (Device.writes_of_push rfl).trans (List.append_nil _)
  | rejected =>
    dsimp only
    rw [Device.writes_of_push (Device.calls_close _), Device.writes_of_push (Device.calls_note ..)]
    exact (List.append_nil _).trans (List.append_nil _)
  | opened params frames t _ _ _ _ _ _ endpoint =>
    rw [endpoint]
    dsimp only
    rw [Device.writes_of_push (Device.calls_setBuffer ..),
      Device.writes_of_push (Device.calls_note ..)]
    exact (List.append_nil _).trans (List.append_nil _)

theorem writes_opened (s : Site) :
    s.opened.endpoint.device.writes = s.endpoint.device.writes := by
  rcases s.opening_opened with same | ⟨answer, opening⟩
  · rw [same]
  · exact opening.writes

theorem latches_opened (unopened : s.openStream?.map (·.1) ≠ some (.ok ())) :
    s.endpoint.Latches s.opened.endpoint := by
  cases result : s.openStream? with
  | none =>
    rw [opened, result]
    exact Endpoint.Latches.refl _
  | some answered =>
    obtain ⟨answer, t⟩ := answered
    rw [opened_of_openStream? result]
    have opening := opening_of_openStream? result
    have writes := opening.writes
    cases opening with
    | barred => exact Endpoint.Latches.refl _
    | refused | rejected => exact fun down => ⟨down.1, rfl, rfl, writes⟩
    | opened =>
      rw [result] at unopened
      exact absurd rfl unopened

theorem Launched.device {answer : Except EndpointError Unit} (h : s.Launched answer t) :
    t.endpoint.device = s.endpoint.device := by
  cases h with
  | unable | already => rfl
  | ailing => exact Endpoint.device_setLoop _ _
  | joined => exact s.device_joinPanicked true
  | begun _ mixer =>
    rw [device_continueLoop, endpoint_announce, endpoint_setLoop, Endpoint.device_setLoop]

theorem device_start (s : Site) (id : StreamId) :
    (s.started id).endpoint.device = s.endpoint.device := by
  rcases s.start_cases id with
    ⟨_, eq⟩ | ⟨key, c, -, -, -, -, -, answer, t, launched, -, eq⟩
  · rw [eq]
  · have device : t.endpoint.device = s.endpoint.device := launched.device
    rw [eq]
    cases answer with
    | ok _ => exact device
    | error error => exact device

end Site

end SharedAudio

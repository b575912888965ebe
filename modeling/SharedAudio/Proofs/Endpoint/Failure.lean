import SharedAudio.Proofs.Endpoint.Rest

namespace SharedAudio

section Spoilt

-- A write fails unless it takes exactly the whole burst. Opening the hardware is a new beginning.
def Call.spoils (spoilt : Bool) : Call → Bool
  | .opened => false
  | .wrote _ frames _ answer => spoilt || answer != .accepted frames
  | .buffer _ | .closed => spoilt

def Device.spoilt (d : Device) : Bool := d.calls.foldl Call.spoils false

theorem Device.spoilt_of_push {d f : Device} {call : Call} (h : f.calls = d.calls.push call) :
    f.spoilt = call.spoils d.spoilt := by
  rw [spoilt, h, Array.foldl_push, spoilt]

theorem Device.spoilt_congr {d f : Device} (h : f.calls = d.calls) : f.spoilt = d.spoilt := by
  rw [spoilt, h, spoilt]

end Spoilt

def Loop.ready : Loop → Bool
  | .idle _ | .writing _ => true
  | .ended _ | .panicked | .lost _ => false

namespace Endpoint

def welcome? (e : Endpoint) : Option (Except EndpointError Unit) :=
  e.line?.bind fun line =>
    if line.loop.runs then some (.ok ())
    else (e.options.writeTimeout? line.params.burst line.params.sampleRate).map fun _ =>
      match e.device.plan.spawnError with
      | some reason => .error (.spawn reason)
      | none => .ok ()

def Sincere (e : Endpoint) : Prop := ∀ line, e.phase = .opened line → e.health = .healthy →
  line.loop = .panicked ∨ line.loop.ready = true ∧ e.device.spoilt = false

variable {e f : Endpoint} {line : Line} {loop : Loop}

theorem sincere_of_ill (h : e.health ≠ .healthy) : e.Sincere :=
  fun _ _ healthy => absurd healthy h

theorem sincere_of_closed (h : e.isOpen = false) : e.Sincere := by
  intro line opened
  rw [isOpen_of_opened opened] at h
  cases h

namespace Sincere

theorem congr (h : e.Sincere) (phase : f.phase = e.phase) (health : f.health = e.health)
    (device : f.device.calls = e.device.calls) : f.Sincere := by
  intro line opened healthy
  rw [Device.spoilt_congr device]
  exact h line (phase ▸ opened) (health ▸ healthy)

theorem ill (h : e.Sincere) (opened : e.phase = .opened line) (unready : line.loop.ready = false)
    (alive : line.loop ≠ .panicked) : e.health ≠ .healthy := by
  intro healthy
  rcases h line opened healthy with dead | ⟨ready, -⟩
  · exact alive dead
  · rw [unready] at ready
    cases ready

theorem unspoilt (h : e.Sincere) (opened : e.phase = .opened line) (healthy : e.health = .healthy)
    (ready : line.loop.ready = true) : e.device.spoilt = false := by
  rcases h line opened healthy with dead | ⟨-, unspoilt⟩
  · rw [dead] at ready
    cases ready
  · exact unspoilt

theorem setLoop (ready : loop.ready = true)
    (unspoilt : e.health = .healthy → e.device.spoilt = false) : (e.setLoop loop).Sincere := by
  intro line opened healthy
  cases phase : e.phase with
  | closed owned =>
    rw [Endpoint.setLoop, phase] at opened
    rw [phase] at opened
    cases opened
  | opened before =>
    rw [setLoop_of_opened phase] at opened healthy ⊢
    cases opened
    exact .inr ⟨ready, unspoilt healthy⟩

theorem setLoop_panicked (e : Endpoint) : (e.setLoop .panicked).Sincere := by
  intro line opened _
  cases phase : e.phase with
  | closed owned =>
    rw [Endpoint.setLoop, phase] at opened
    rw [phase] at opened
    cases opened
  | opened before =>
    rw [setLoop_of_opened phase] at opened
    cases opened
    exact .inl rfl

end Sincere

end Endpoint

namespace Site

variable {s t : Site} {key : Nat} {mixer : Mixer}

section Sincere

theorem health_finish {exit : LoopExit} (failed : exit ≠ .stopped) :
    (s.finish exit).endpoint.health ≠ .healthy := by
  cases exit with
  | stopped => exact absurd rfl failed
  | disconnected | shortWrite | writeFailed => exact fun healthy => by cases healthy

theorem sincere_joinPanicked (s : Site) (flag : Bool) :
    (s.joinPanicked flag).endpoint.Sincere := by
  apply Endpoint.sincere_of_ill
  rw [health_joinPanicked]
  exact fun healthy => by cases healthy

theorem Delivered.spoilt {params : HardwareParams} (h : s.Delivered params mixer .delivered t) :
    t.endpoint.device.spoilt = s.endpoint.device.spoilt := by
  obtain ⟨answer, delivered, calls⟩ := h.call
  rw [Device.spoilt_of_push calls, Delivery.ofAnswer_eq_delivered.mp delivered.symm]
  simp [Call.spoils]

theorem sincere_continueLoop (unspoilt : s.endpoint.health = .healthy →
    s.endpoint.device.spoilt = false) : (s.continueLoop mixer).endpoint.Sincere := by
  have same : (s.mix mixer).2.endpoint.health = s.endpoint.health ∧
    (s.mix mixer).2.endpoint.device = s.endpoint.device := ⟨rfl, rfl⟩
  rw [continueLoop]
  split
  next eq =>
    rw [eq] at same
    refine Endpoint.Sincere.setLoop rfl fun healthy => ?_
    rw [same.2]
    exact unspoilt (same.1 ▸ healthy)
  next => exact Endpoint.Sincere.setLoop_panicked _

theorem Halted.sincere (h : s.Halted t) (before : s.endpoint.Sincere) : t.endpoint.Sincere := by
  cases h with
  | resting => exact before
  | lost line flag opened loop =>
    apply Endpoint.sincere_of_ill
    rw [endpoint_setLoop, Endpoint.health_setLoop]
    exact before.ill opened (by rw [loop]; rfl) (by rw [loop]; simp)
  | ended line mixer opened loop =>
    apply Endpoint.sincere_of_ill
    rw [endpoint_announce, endpoint_setLoop, Endpoint.health_setLoop]
    exact before.ill opened (by rw [loop]; rfl) (by rw [loop]; simp)
  | panicked line opened loop =>
    rw [endpoint_announce]
    exact s.sincere_joinPanicked false
  | written line mixer delivery exit u opened loop delivered outcome =>
    rw [endpoint_announce]
    rcases outcome with ⟨rfl, rfl⟩ | rfl
    · refine Endpoint.Sincere.setLoop rfl fun healthy => ?_
      have healthy' : u.endpoint.health = .healthy := healthy
      rw [delivered.health] at healthy'
      exact delivered.spoilt.trans (before.unspoilt opened healthy' (by rw [loop]; rfl))
    · apply Endpoint.sincere_of_ill
      rw [endpoint_setLoop, Endpoint.health_setLoop]
      exact health_finish fun stopped => delivered.exit (by rw [stopped])
  | died line mixer u opened loop delivered =>
    rw [endpoint_announce]
    exact u.sincere_joinPanicked false

theorem Granted.sincere (h : s.Granted t) (before : s.endpoint.Sincere) : t.endpoint.Sincere := by
  cases h with
  | delivered line mixer u opened loop delivered =>
    refine sincere_continueLoop fun healthy => ?_
    rw [delivered.health] at healthy
    exact delivered.spoilt.trans (before.unspoilt opened healthy (by rw [loop]; rfl))
  | failed line mixer exit u opened loop delivered =>
    apply Endpoint.sincere_of_ill
    rw [endpoint_setLoop, Endpoint.health_setLoop]
    exact health_finish fun stopped => delivered.exit (by rw [stopped])
  | died line mixer u opened loop delivered => exact Endpoint.Sincere.setLoop_panicked _

theorem Launched.sincere {answer : Except EndpointError Unit} (h : s.Launched answer t)
    (before : s.endpoint.Sincere) : t.endpoint.Sincere := by
  cases h with
  | unable | already => exact before
  | ailing line mixer error opened loop =>
    apply Endpoint.sincere_of_ill
    rw [endpoint_setLoop, Endpoint.health_setLoop]
    exact before.ill opened (by rw [loop]; rfl) (by rw [loop]; simp)
  | joined => exact s.sincere_joinPanicked true
  | begun line mixer opened loop =>
    refine sincere_continueLoop fun healthy => ?_
    rw [endpoint_announce, endpoint_setLoop, Endpoint.health_setLoop] at healthy
    have calls : (s.endpoint.setLoop (.idle mixer)).device = s.endpoint.device := by
      rw [Endpoint.setLoop_eq]
    rw [endpoint_announce, endpoint_setLoop, calls]
    refine before.unspoilt opened healthy ?_
    rcases loop with loop | loop
    · rw [loop]
      rfl
    · exact absurd healthy (before.ill opened (by rw [loop]; rfl) (by rw [loop]; simp))

theorem sincere_start (h : s.endpoint.Sincere) (id : StreamId) :
    (s.started id).endpoint.Sincere := by
  rcases s.start_cases id with
    ⟨_, eq⟩ | ⟨key, c, -, -, -, -, -, answer, t, launched, -, eq⟩
  · rw [eq]
    exact h
  · have after := launched.sincere h
    rw [eq]
    cases answer with
    | ok _ => exact after
    | error error => exact after

theorem steady_sincere : Steady Endpoint.Sincere where
  device _ _ calls sincere := sincere.congr rfl rfl calls
  listed _ _ sincere := sincere
  granted _ _ := Granted.sincere
  halted _ _ := Halted.sincere
  closed _ _ _ _ _ := Endpoint.sincere_of_closed rfl

theorem unspoilt_of_ok (h : s.openStream? = some (.ok (), t)) :
    t.endpoint.device.spoilt = false := by
  obtain ⟨params, buffer, device, frames, -, -, calls, -, opened⟩ := openStream?_of_ok h
  have spoilt : device.spoilt = false := by
    rw [Device.spoilt, calls, Array.foldl_push, Array.foldl_push]
    rfl
  rw [opened]
  exact spoilt

theorem sincere_opened (h : s.endpoint.Sincere) : s.opened.endpoint.Sincere := by
  cases result : s.openStream? with
  | none =>
    rw [opened, result]
    exact h
  | some answered =>
    obtain ⟨answer, t⟩ := answered
    rw [opened_of_openStream? result]
    cases opening_of_openStream? result with
    | barred => exact h
    | refused _ phase | rejected _ _ phase =>
      exact Endpoint.sincere_of_closed
        (by simp [Endpoint.isOpen, Endpoint.line?, phase, Phase.line?])
    | opened params frames t phase answer objection counted fits channels endpoint =>
      have unspoilt := unspoilt_of_ok result
      intro line phase _
      rw [endpoint] at phase
      cases phase
      exact .inr ⟨rfl, unspoilt⟩

end Sincere

section Admission

variable {c : Channel} {id : StreamId}

structure Fits (s : Site) (key : Nat) (c : Channel) : Prop where
  present : s.channels[key]? = some c
  stopped : c.state = .stopped
  width : c.channels = s.endpoint.config.channels
  new : c.id ∉ s.ids
  room : s.endpoint.registered.length < s.endpoint.options.maxChannels.toNat

theorem register_of_new (opened : s.endpoint.isOpen = true)
    (width : c.channels = s.endpoint.config.channels) (new : c.id ∉ s.ids)
    (room : s.endpoint.registered.length < s.endpoint.options.maxChannels.toNat) :
    s.register key c = (.ok (), s.including key) := by
  have unlisted : s.ids.contains c.id = false := by simpa using new
  simp only [register, opened, width, unlisted, if_neg (Nat.not_le_of_lt room), Bool.not_true,
    Bool.false_eq_true, ne_eq, not_true_eq_false, if_false, including]

theorem find?_including (present : s.channels[key]? = some c) (new : c.id ∉ s.ids) :
    (s.including key).find? c.id = some key := by
  have others : s.endpoint.registered.find? (fun key => s.idOf? key == some c.id) = none := by
    rw [List.find?_eq_none]
    intro other member same
    obtain ⟨d, there, eq⟩ := Option.map_eq_some_iff.mp (beq_iff_eq.mp same)
    exact new (List.mem_map.mpr ⟨d, List.mem_filterMap.mpr ⟨other, member, there⟩, eq⟩)
  have here : (s.idOf? key == some c.id) = true := by simp [idOf?, present]
  change (s.endpoint.registered ++ [key]).find? (fun key => s.idOf? key == some c.id) = some key
  rw [List.find?_append, others, List.find?_singleton, if_pos here]
  rfl

theorem start?_of_starts (opened : s.endpoint.isOpen = true)
    (healthy : s.endpoint.health = .healthy) (found : s.find? id = some key)
    (present : s.channels[key]? = some c) (starts : c.start = .ok (c.enter .started)) :
    (s.start? id).map (·.1) =
      (s.modifyChannel key fun _ => c.enter .started).launch?.map (·.1) := by
  simp only [start?, opened, Endpoint.ailment?, healthy, found, present, Option.map_some, starts,
    Bool.not_true, Bool.false_eq_true, if_false]
  rcases (s.modifyChannel key fun _ => c.enter .started).launch? with _ | ⟨_ | _, t⟩ <;> rfl

theorem launch?_of_ready {line : Line} (opened : s.endpoint.phase = .opened line)
    (ready : line.loop.ready = true) : s.launch?.map (·.1) = s.endpoint.welcome? := by
  rw [launch?, opened, Endpoint.welcome?, Endpoint.line?, opened]
  dsimp only [Phase.line?, Option.bind_some]
  cases loop : line.loop with
  | writing => rfl
  | idle =>
    simp only [begin?, Loop.runs, Bool.false_eq_true, if_false, Option.map_map]
    congr 1
    funext timeout
    dsimp only [Function.comp]
    cases s.endpoint.device.plan.spawnError <;> rfl
  | ended | panicked | lost =>
    rw [loop] at ready
    cases ready

theorem spawn_of_launch? {line : Line} (opened : s.endpoint.phase = .opened line)
    (ready : line.loop.ready = true) {error : EndpointError}
    (failed : s.launch?.map (·.1) = some (.error error)) : ∃ reason, error = .spawn reason := by
  rw [launch?_of_ready opened ready, Endpoint.welcome?, Option.bind_eq_some_iff] at failed
  obtain ⟨line, -, failed⟩ := failed
  split at failed
  · cases failed
  · obtain ⟨timeout, -, answer⟩ := Option.map_eq_some_iff.mp failed
    split at answer
    next reason refused =>
      cases answer
      exact ⟨reason, rfl⟩
    next => cases answer

theorem launch?_of_panicked (panicked : s.endpoint.Panicked) : s.launch?.map (·.1) =
    some (.error (.streamFault (LoopExit.writeFailed panicReason).message)) := by
  obtain ⟨line, opened, loop⟩ := panicked
  rw [launch?, opened]
  dsimp only
  rw [loop]
  have exit : (s.joinPanicked true).endpoint.lastExit = some (.writeFailed panicReason) := by
    rw [joinPanicked, endpoint_setLoop, Endpoint.setLoop_eq]
  simp only [Endpoint.ailment?, s.health_joinPanicked true, exit]
  rfl

theorem runs_of_start? (answer : (s.start? id).map (·.1) = some (.ok ()))
    (found : s.find? id = some key) : (s.started id).Runs key := by
  rcases s.start_cases id with
    ⟨refused, _⟩ | ⟨other, c, found', present, -, -, starts, answer', t, launched, answered, eq⟩
  · exact absurd answer refused
  · rw [found] at found'
    cases found'
    obtain rfl := Option.some.inj (answer.symm.trans answered)
    rw [eq]
    have begun := runs_started present starts
    rw [runs_iff] at begun ⊢
    rw [launched.state_of_ok, begun]

end Admission

end Site

end SharedAudio

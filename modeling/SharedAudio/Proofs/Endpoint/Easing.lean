import SharedAudio.Proofs.Endpoint.Effects

namespace SharedAudio

namespace Channel

theorem isRunning_stop (c : Channel) : c.stop.isRunning = false := by
  rw [stop, isRunning, state_enter]
  cases h : c.state <;> rfl

theorem isRunning_disconnect (c : Channel) : c.disconnect.isRunning = false := by
  rw [disconnect, isRunning, state_enter]
  cases h : c.state <;> rfl

theorem isRunning_fault (reason : String) (c : Channel) : (c.fault reason).isRunning = false := by
  rw [fault, isRunning, state_enter]
  cases h : c.state <;> rfl

theorem enter_of_start {c started : Channel} (h : c.start = .ok started) :
    started = c.enter .started ∧ (c.enter .started).isRunning = true := by
  rw [isRunning, state_enter]
  rw [start] at h
  cases state : c.state <;> rw [state] at h <;> cases h <;> exact ⟨rfl, rfl⟩

theorem start_of_enter {c : Channel} (runs : (c.enter .started).isRunning = true) :
    c.start = .ok (c.enter .started) := by
  rw [isRunning, state_enter] at runs
  rw [start]
  cases state : c.state <;> rw [state] at runs <;> first | rfl | cases runs

end Channel

namespace Mixing

variable {m : Mixing} {key : Nat}

theorem getElem?_take_of_ne {other : Nat} (h : key ≠ other) :
    (m.take key).channels[other]? = m.channels[other]? := by
  unfold take
  split
  · split
    · dsimp only
      split <;> simp [Array.getElem?_setIfInBounds_ne h]
    · rfl
  · rfl

theorem untouched_take {channels : Array Channel} {keys : List Nat} (fresh : key ∉ keys)
    (untouched : ∀ other ∈ key :: keys, m.channels[other]? = channels[other]?) :
    ∀ other ∈ keys, (m.take key).channels[other]? = channels[other]? := by
  intro other member
  have ne : key ≠ other := by
    rintro rfl
    exact fresh member
  rw [getElem?_take_of_ne ne]
  exact untouched other (List.mem_cons_of_mem key member)

theorem map_take {β : Type} {view : Channel → β} (gain : ∀ c : Channel, view c.stepGain = view c)
    (share : ∀ (c : Channel) (mixer : Mixer) (s : Mixer.Share),
      mixer.add? c.ring c.applied = some s → view (c.record s) = view c) (other : Nat) :
    (m.take key).channels[other]?.map view = m.channels[other]?.map view := by
  by_cases same : key = other
  · subst same
    unfold take
    split
    next mixer c _ present =>
      split
      · have inside : key < m.channels.size := (Array.getElem?_eq_some_iff.mp present).1
        rw [present]
        dsimp only
        split
        next added => simp [inside, share _ mixer _ added, gain]
        next => simp [inside, gain]
      · rfl
    next => rfl
  · rw [getElem?_take_of_ne same]

theorem getElem?_foldl_take_of_not_mem {keys : List Nat} (h : key ∉ keys) :
    (keys.foldl take m).channels[key]? = m.channels[key]? := by
  induction keys generalizing m with
  | nil => rfl
  | cons first keys ih =>
    rw [List.mem_cons, not_or] at h
    rw [List.foldl_cons, ih h.2, getElem?_take_of_ne fun same => h.1 same.symm]

theorem map_foldl_take {β : Type} {view : Channel → β}
    (gain : ∀ c : Channel, view c.stepGain = view c)
    (share : ∀ (c : Channel) (mixer : Mixer) (s : Mixer.Share),
      mixer.add? c.ring c.applied = some s → view (c.record s) = view c) (keys : List Nat) :
    (keys.foldl take m).channels[key]?.map view = m.channels[key]?.map view := by
  induction keys generalizing m with
  | nil => rfl
  | cons first keys ih => rw [List.foldl_cons, ih, map_take gain share]

end Mixing

namespace Site

variable {s t : Site} {key : Nat}

theorem runs_iff : s.Runs key ↔ s.channels[key]?.map (·.state) = some .running := by
  simp [Runs, Channel.isRunning]

structure Eases (s t : Site) : Prop where
  registered : t.endpoint.registered = s.endpoint.registered
  isOpen : t.endpoint.isOpen = s.endpoint.isOpen
  config : t.endpoint.config = s.endpoint.config
  options : t.endpoint.options = s.endpoint.options
  apart : ∀ key, key ∉ s.endpoint.registered → t.channels[key]? = s.channels[key]?
  runs : ∀ key, t.Runs key → s.Runs key

namespace Eases

theorem refl (s : Site) : s.Eases s :=
  ⟨rfl, rfl, rfl, rfl, fun _ _ => rfl, fun _ runs => runs⟩

theorem trans {u : Site} (h : s.Eases t) (g : t.Eases u) : s.Eases u where
  registered := g.registered.trans h.registered
  isOpen := g.isOpen.trans h.isOpen
  config := g.config.trans h.config
  options := g.options.trans h.options
  apart := by
    intro key outside
    rw [g.apart key (h.registered ▸ outside), h.apart key outside]
  runs := fun key running => h.runs key (g.runs key running)

theorem announce (h : s.Eases t) (what : String) : s.Eases (t.announce what) :=
  h.trans ⟨by simp, by simp, by simp, by simp, by simp, fun _ => by simp [Runs]⟩

theorem setLoop (h : s.Eases t) (loop : Loop) : s.Eases (t.setLoop loop) :=
  h.trans ⟨by simp, by simp, by simp, by simp, by simp, fun _ => by simp [Runs]⟩

end Eases

theorem eases_modifyRegistered {change : Channel → Channel}
    (again : ∀ c, change (change c) = change c)
    (stops : ∀ c, (change c).isRunning = true → c.isRunning = true) :
    s.Eases (s.modifyRegistered change) := by
  refine ⟨rfl, rfl, rfl, rfl, ?_, ?_⟩
  · intro key outside
    rw [getElem?_modifyRegistered again, if_neg outside]
  · rintro key ⟨c, present, running⟩
    rw [getElem?_modifyRegistered again] at present
    split at present
    · obtain ⟨before, was, rfl⟩ := Option.map_eq_some_iff.mp present
      exact ⟨before, was, stops before running⟩
    · exact ⟨c, present, running⟩

theorem not_runs_modifyRegistered {change : Channel → Channel}
    (again : ∀ c, change (change c) = change c) (stops : ∀ c, (change c).isRunning = false)
    (member : key ∈ s.endpoint.registered) : ¬ (s.modifyRegistered change).Runs key := by
  rintro ⟨c, present, running⟩
  rw [getElem?_modifyRegistered again, if_pos member] at present
  obtain ⟨before, -, rfl⟩ := Option.map_eq_some_iff.mp present
  rw [stops before] at running
  cases running

theorem eases_disconnectAll (s : Site) : s.Eases s.disconnectAll :=
  eases_modifyRegistered (fun c => c.enter_enter _)
    fun _ running => Channel.isRunning_enter (by simp) running

theorem eases_faultAll (s : Site) (reason : String) : s.Eases (s.faultAll reason) :=
  eases_modifyRegistered (fun c => c.enter_enter _)
    fun _ running => Channel.isRunning_enter (by simp) running

theorem not_runs_disconnectAll (member : key ∈ s.endpoint.registered) :
    ¬ s.disconnectAll.Runs key :=
  not_runs_modifyRegistered (fun c => c.enter_enter _) Channel.isRunning_disconnect member

theorem not_runs_faultAll {reason : String} (member : key ∈ s.endpoint.registered) :
    ¬ (s.faultAll reason).Runs key :=
  not_runs_modifyRegistered (fun c => c.enter_enter _) (Channel.isRunning_fault reason) member

structure Delivered (s : Site) (params : HardwareParams) (mixer : Mixer) (delivery : Delivery)
    (t : Site) : Prop where
  rest : ∃ device bursts rms, t = { s with endpoint := { s.endpoint with device, bursts, rms } }
  handed : t.endpoint.handed = s.endpoint.handed ++ [mixer.sum]
  counted : t.endpoint.bursts =
    if delivery = .delivered then s.endpoint.bursts + 1 else s.endpoint.bursts
  exit : delivery ≠ .failed .stopped
  call : ∃ answer, delivery = .ofAnswer params.burst answer ∧
    t.endpoint.device.calls = s.endpoint.device.calls.push
      (.wrote mixer.sum params.burst (s.endpoint.writeTimeout params) answer)

theorem delivered_of_deliver {params : HardwareParams} {mixer : Mixer} {delivery : Delivery}
    (h : s.deliver params mixer = (delivery, t)) : s.Delivered params mixer delivery t := by
  have written := s.endpoint.device.bursts_write mixer.sum params.burst
    (s.endpoint.writeTimeout params)
  have notStopped (answer : Answer) : Delivery.ofAnswer params.burst answer ≠ .failed .stopped := by
    cases answer with
    | accepted frames =>
      rw [Delivery.ofAnswer]
      split <;> simp
    | refused error => cases error <;> simp [Delivery.ofAnswer]
    | panicked => simp [Delivery.ofAnswer]
  simp only [deliver] at h
  split at h
  next delivered =>
    cases h
    exact ⟨⟨_, _, _, rfl⟩, written, rfl, by simp, _, delivered.symm, rfl⟩
  next other notDelivered =>
    cases h
    refine ⟨⟨_, _, _, rfl⟩, written, ?_, notStopped _, _, rfl, rfl⟩
    rw [if_neg notDelivered]

namespace Delivered

variable {params : HardwareParams} {mixer : Mixer} {delivery : Delivery}

theorem eases (h : s.Delivered params mixer delivery t) : s.Eases t := by
  obtain ⟨device, bursts, rms, rfl⟩ := h.rest
  exact ⟨rfl, rfl, rfl, rfl, fun _ _ => rfl, fun _ running => running⟩

theorem phase (h : s.Delivered params mixer delivery t) : t.endpoint.phase = s.endpoint.phase := by
  obtain ⟨device, bursts, rms, rfl⟩ := h.rest
  rfl

theorem health (h : s.Delivered params mixer delivery t) :
    t.endpoint.health = s.endpoint.health := by
  obtain ⟨device, bursts, rms, rfl⟩ := h.rest
  rfl

theorem channels (h : s.Delivered params mixer delivery t) : t.channels = s.channels := by
  obtain ⟨device, bursts, rms, rfl⟩ := h.rest
  rfl

end Delivered

theorem endpoint_finish (s : Site) (exit : LoopExit) : ∃ health, (s.finish exit).endpoint =
    { s.endpoint with health, lastExit := some exit } := by
  cases exit <;> exact ⟨_, rfl⟩

theorem phase_finish (s : Site) (exit : LoopExit) :
    (s.finish exit).endpoint.phase = s.endpoint.phase := by
  obtain ⟨health, endpoint⟩ := s.endpoint_finish exit
  rw [endpoint]

theorem device_finish (s : Site) (exit : LoopExit) :
    (s.finish exit).endpoint.device = s.endpoint.device := by
  obtain ⟨health, endpoint⟩ := s.endpoint_finish exit
  rw [endpoint]

theorem eases_finish (s : Site) (exit : LoopExit) : s.Eases (s.finish exit) := by
  cases exit with
  | stopped => exact ⟨rfl, rfl, rfl, rfl, fun _ _ => rfl, fun _ running => running⟩
  | disconnected =>
    exact s.eases_disconnectAll.trans ⟨rfl, rfl, rfl, rfl, fun _ _ => rfl, fun _ running => running⟩
  | shortWrite written requested =>
    exact (s.eases_faultAll _).trans ⟨rfl, rfl, rfl, rfl, fun _ _ => rfl, fun _ running => running⟩
  | writeFailed reason =>
    exact (s.eases_faultAll _).trans ⟨rfl, rfl, rfl, rfl, fun _ _ => rfl, fun _ running => running⟩

theorem not_runs_finish {exit : LoopExit} (failed : exit ≠ .stopped)
    (member : key ∈ s.endpoint.registered) : ¬ (s.finish exit).Runs key := by
  cases exit with
  | stopped => exact absurd rfl failed
  | disconnected => exact not_runs_disconnectAll member
  | shortWrite written requested => exact not_runs_faultAll member
  | writeFailed reason => exact not_runs_faultAll member

theorem state_mix (s : Site) (mixer : Mixer) (key : Nat) :
    (s.mix mixer).2.channels[key]?.map (·.state) = s.channels[key]?.map (·.state) :=
  @Mixing.map_foldl_take ⟨some mixer.clear, s.channels, s.endpoint.underflows⟩ key _ _
    (fun _ => rfl) (fun _ _ _ _ => rfl) s.endpoint.registered

theorem width_record {c : Channel} {mixer : Mixer} {share : Mixer.Share}
    (added : mixer.add? c.ring c.applied = some share) :
    (c.record share).channels = c.channels := by
  simp only [Mixer.add?] at added
  split at added <;> cases added
  rfl

theorem width_mix (s : Site) (mixer : Mixer) (key : Nat) :
    (s.mix mixer).2.channels[key]?.map (·.channels) = s.channels[key]?.map (·.channels) :=
  @Mixing.map_foldl_take ⟨some mixer.clear, s.channels, s.endpoint.underflows⟩ key _ _
    (fun _ => rfl) (fun _ _ _ => width_record) s.endpoint.registered

theorem eases_mix (s : Site) (mixer : Mixer) : s.Eases (s.mix mixer).2 := by
  refine ⟨rfl, rfl, rfl, rfl, ?_, ?_⟩
  · intro key outside
    exact Mixing.getElem?_foldl_take_of_not_mem outside
  · intro key running
    rw [runs_iff] at running ⊢
    rw [← running]
    exact (s.state_mix mixer key).symm

theorem eases_continueLoop (s : Site) (mixer : Mixer) : s.Eases (s.continueLoop mixer) := by
  have mixed := s.eases_mix mixer
  rw [continueLoop]
  split
  next eq =>
    rw [eq] at mixed
    exact mixed.setLoop _
  next eq =>
    rw [eq] at mixed
    exact mixed.setLoop _

theorem endpoint_continueLoop (s : Site) (mixer : Mixer) : ∃ loop underflows, loop.runs = true ∧
    loop.mixer? = (s.mix mixer).1 ∧
      (s.continueLoop mixer).endpoint = { s.endpoint with underflows }.setLoop loop := by
  have mixed : (s.mix mixer).2.endpoint =
    { s.endpoint with underflows := (s.mix mixer).2.endpoint.underflows } := rfl
  rw [continueLoop]
  split
  next next t eq =>
    rw [eq] at mixed ⊢
    exact ⟨.writing next, _, rfl, rfl, by rw [endpoint_setLoop, mixed]⟩
  next t eq =>
    rw [eq] at mixed ⊢
    exact ⟨.panicked, _, rfl, rfl, by rw [endpoint_setLoop, mixed]⟩

theorem channels_continueLoop (s : Site) (mixer : Mixer) :
    (s.continueLoop mixer).channels = (s.mix mixer).2.channels := by
  rw [continueLoop]
  split
  next eq => rw [channels_setLoop, eq]
  next eq => rw [channels_setLoop, eq]

section ContinueLoop

variable (mixer : Mixer)

theorem device_continueLoop (s : Site) :
    (s.continueLoop mixer).endpoint.device = s.endpoint.device := by
  obtain ⟨loop, underflows, -, -, endpoint⟩ := s.endpoint_continueLoop mixer
  rw [endpoint, Endpoint.device_setLoop]

theorem phase_continueLoop {line : Line} (opened : s.endpoint.phase = .opened line) :
    ∃ loop, (s.continueLoop mixer).endpoint.phase = .opened { line with loop } ∧
      loop.runs = true ∧ loop.mixer? = (s.mix mixer).1 := by
  obtain ⟨loop, underflows, runs, has, endpoint⟩ := s.endpoint_continueLoop mixer
  have still : Endpoint.phase { s.endpoint with underflows } = .opened line := opened
  exact ⟨loop, by rw [endpoint, Endpoint.phase_setLoop still], runs, has⟩

theorem waiting_continueLoop (opened : s.endpoint.isOpen = true) :
    (s.continueLoop mixer).endpoint.waiting = ((s.mix mixer).1.map (·.sum)).toList := by
  obtain ⟨loop, underflows, runs, has, endpoint⟩ := s.endpoint_continueLoop mixer
  have still : Endpoint.isOpen { s.endpoint with underflows } = true := opened
  rw [endpoint, Endpoint.waiting_setLoop still, Loop.waiting_of_runs runs, has]

theorem handed_continueLoop (s : Site) :
    (s.continueLoop mixer).endpoint.handed = s.endpoint.handed := by
  rw [Endpoint.handed, device_continueLoop, Endpoint.handed]

theorem bursts_continueLoop (s : Site) :
    (s.continueLoop mixer).endpoint.bursts = s.endpoint.bursts := by
  obtain ⟨loop, underflows, -, -, endpoint⟩ := s.endpoint_continueLoop mixer
  rw [endpoint, Endpoint.bursts_setLoop]

end ContinueLoop

theorem eases_joinPanicked (s : Site) (flag : Bool) : s.Eases (s.joinPanicked flag) := by
  have faulted : s.Eases { s.faultAll panicReason with
      endpoint := { (s.faultAll panicReason).endpoint with
        health := .faulted
        lastExit := some (.writeFailed panicReason) } } :=
    (s.eases_faultAll panicReason).trans
      ⟨rfl, rfl, rfl, rfl, fun _ _ => rfl, fun _ running => running⟩
  exact faulted.setLoop _

theorem not_runs_joinPanicked {flag : Bool} (member : key ∈ s.endpoint.registered) :
    ¬ (s.joinPanicked flag).Runs key := not_runs_faultAll member

inductive Halted (s : Site) : Site → Prop
  | resting (quiet : s.endpoint.streaming = false) : Halted s s
  | lost (line : Line) (flag : Bool) (opened : s.endpoint.phase = .opened line)
      (loop : line.loop = .lost flag) : Halted s (s.setLoop (.lost false))
  | ended (line : Line) (mixer : Mixer) (opened : s.endpoint.phase = .opened line)
      (loop : line.loop = .ended mixer) : Halted s ((s.setLoop (.idle mixer)).announce "idle")
  | panicked (line : Line) (opened : s.endpoint.phase = .opened line)
      (loop : line.loop = .panicked) : Halted s ((s.joinPanicked false).announce "idle")
  | written (line : Line) (mixer : Mixer) (delivery : Delivery) (exit : LoopExit) (t : Site)
      (opened : s.endpoint.phase = .opened line) (loop : line.loop = .writing mixer)
      (delivered : s.Delivered line.params mixer delivery t)
      (outcome : delivery = .delivered ∧ exit = .stopped ∨ delivery = .failed exit) :
      Halted s (((t.finish exit).setLoop (.idle mixer)).announce "idle")
  | died (line : Line) (mixer : Mixer) (t : Site) (opened : s.endpoint.phase = .opened line)
      (loop : line.loop = .writing mixer) (delivered : s.Delivered line.params mixer .died t) :
      Halted s ((t.joinPanicked false).announce "idle")

theorem halted_halt (s : Site) : s.Halted s.halt := by
  unfold halt
  split
  next owned closed =>
    exact .resting (by rw [Endpoint.streaming, closed])
  next line opened =>
    split
    next mixer loop => exact .resting (by rw [Endpoint.streaming_of_opened opened, loop]; rfl)
    next flag loop => exact .lost line flag opened loop
    next mixer loop => exact .ended line mixer opened loop
    next loop => exact .panicked line opened loop
    next mixer loop =>
      split
      next delivery =>
        exact .written line mixer _ .stopped _ opened loop (delivered_of_deliver delivery)
          (.inl ⟨rfl, rfl⟩)
      next exit _ delivery =>
        exact .written line mixer _ exit _ opened loop (delivered_of_deliver delivery) (.inr rfl)
      next delivery => exact .died line mixer _ opened loop (delivered_of_deliver delivery)

theorem Halted.eases {s t : Site} (h : s.Halted t) : s.Eases t := by
  cases h with
  | resting _ => exact .refl s
  | lost _ _ _ _ => exact (Eases.refl s).setLoop _
  | ended _ _ _ _ => exact ((Eases.refl s).setLoop _).announce _
  | panicked _ _ _ => exact (s.eases_joinPanicked false).announce _
  | written _ _ _ _ _ _ _ delivered _ =>
    exact ((delivered.eases.trans (eases_finish _ _)).setLoop _).announce _
  | died _ _ _ _ _ delivered =>
    exact (delivered.eases.trans (eases_joinPanicked _ _)).announce _

inductive Granted (s : Site) : Site → Prop
  | delivered (line : Line) (mixer : Mixer) (t : Site) (opened : s.endpoint.phase = .opened line)
      (loop : line.loop = .writing mixer) (delivered : s.Delivered line.params mixer .delivered t) :
      Granted s (t.continueLoop mixer)
  | failed (line : Line) (mixer : Mixer) (exit : LoopExit) (t : Site)
      (opened : s.endpoint.phase = .opened line) (loop : line.loop = .writing mixer)
      (delivered : s.Delivered line.params mixer (.failed exit) t) :
      Granted s ((t.finish exit).setLoop (.ended mixer))
  | died (line : Line) (mixer : Mixer) (t : Site) (opened : s.endpoint.phase = .opened line)
      (loop : line.loop = .writing mixer) (delivered : s.Delivered line.params mixer .died t) :
      Granted s (t.setLoop .panicked)

theorem granted_of_grant {s t : Site} (h : s.grant? = some t) : s.Granted t := by
  unfold grant? at h
  split at h
  next mixer opened =>
    split at h
    next delivery =>
      cases h
      exact .delivered _ mixer _ opened rfl (delivered_of_deliver delivery)
    next exit _ delivery =>
      cases h
      exact .failed _ mixer exit _ opened rfl (delivered_of_deliver delivery)
    next delivery =>
      cases h
      exact .died _ mixer _ opened rfl (delivered_of_deliver delivery)
  · cases h

theorem Granted.eases {s t : Site} (h : s.Granted t) : s.Eases t := by
  cases h with
  | delivered _ _ _ _ _ delivered => exact delivered.eases.trans (eases_continueLoop _ _)
  | failed _ _ _ _ _ _ delivered =>
    exact (delivered.eases.trans (eases_finish _ _)).setLoop _
  | died _ _ _ _ _ delivered => exact delivered.eases.setLoop _

theorem grantUpTo_induction {P : Site → Prop} (step : ∀ {t u : Site}, t.Granted u → P t → P u)
    {s : Site} (h : P s) (n granted : Nat) : P (s.grantUpTo n granted).2 := by
  induction n generalizing s granted with
  | zero => exact h
  | succ n ih =>
    rw [grantUpTo]
    split
    next t granting => exact ih (step (granted_of_grant granting) h) (granted + 1)
    next => exact h

theorem grantUpTo_one_cases (s : Site) :
    (s.grantUpTo 1 0).2 = s ∨ s.Granted (s.grantUpTo 1 0).2 := by
  rw [grantUpTo]
  cases granting : s.grant? with
  | none => exact .inl rfl
  | some t => exact .inr (granted_of_grant granting)

theorem eases_grantUpTo (s : Site) (n granted : Nat) : s.Eases (s.grantUpTo n granted).2 :=
  grantUpTo_induction (P := s.Eases) (fun granted eases => eases.trans granted.eases) (.refl s)
    n granted

inductive Launched (s : Site) : Except EndpointError Unit → Site → Prop
  | unable (error : EndpointError) (quiet : s.endpoint.runs = false) :
      Launched s (.error error) s
  | already (line : Line) (mixer : Mixer) (opened : s.endpoint.phase = .opened line)
      (loop : line.loop = .writing mixer) : Launched s (.ok ()) s
  | ailing (line : Line) (mixer : Mixer) (error : EndpointError)
      (opened : s.endpoint.phase = .opened line) (loop : line.loop = .ended mixer) :
      Launched s (.error error) (s.setLoop (.idle mixer))
  | joined (line : Line) (error : EndpointError) (opened : s.endpoint.phase = .opened line)
      (loop : line.loop = .panicked) : Launched s (.error error) (s.joinPanicked true)
  | begun (line : Line) (mixer : Mixer) (opened : s.endpoint.phase = .opened line)
      (loop : line.loop = .idle mixer ∨ line.loop = .ended mixer)
      (timed : (s.endpoint.options.writeTimeout? line.params.burst line.params.sampleRate).isSome) :
      Launched s (.ok ()) (((s.setLoop (.idle mixer)).announce "streaming").continueLoop mixer)

theorem begin?_cases {params : HardwareParams} {mixer : Mixer} {answer : Except EndpointError Unit}
    (h : s.begin? params mixer = some (answer, t)) :
    (∃ reason, answer = .error (.spawn reason) ∧ t = s) ∨
      answer = .ok () ∧ t = (s.announce "streaming").continueLoop mixer ∧
        (s.endpoint.options.writeTimeout? params.burst params.sampleRate).isSome := by
  obtain ⟨timeout, timed, begun⟩ := Option.map_eq_some_iff.mp h
  split at begun
  next reason refused =>
    cases begun
    exact .inl ⟨reason, rfl, rfl⟩
  next granted =>
    cases begun
    exact .inr ⟨rfl, rfl, Option.isSome_of_eq_some timed⟩

theorem launched_of_launch? {answer : Except EndpointError Unit}
    (h : s.launch? = some (answer, t)) : s.Launched answer t := by
  unfold launch? at h
  split at h
  next owned closed =>
    cases h
    exact .unable _ (by simp [Endpoint.runs, Endpoint.line?, closed, Phase.line?])
  next line opened =>
    split at h
    next mixer loop =>
      cases h
      exact .already line mixer opened loop
    next mixer loop =>
      rcases begin?_cases h with ⟨reason, rfl, rfl⟩ | ⟨rfl, rfl, timed⟩
      · exact .unable _ (by rw [Endpoint.runs_of_opened opened, loop]; rfl)
      · have begun := Launched.begun line mixer opened (.inl loop) timed
        rw [← loop, setLoop_self opened] at begun
        exact begun
    next flag loop =>
      cases h
      exact .unable _ (by rw [Endpoint.runs_of_opened opened, loop]; rfl)
    next mixer loop =>
      dsimp only at h
      split at h
      · cases h
        exact .ailing line mixer _ opened loop
      · rcases begin?_cases h with ⟨reason, rfl, rfl⟩ | ⟨rfl, rfl, timed⟩
        · exact .ailing line mixer _ opened loop
        · rw [endpoint_setLoop, Endpoint.options_setLoop] at timed
          exact .begun line mixer opened (.inr loop) timed
    next loop =>
      cases h
      exact .joined line _ opened loop

theorem Launched.eases {answer : Except EndpointError Unit} (h : s.Launched answer t) :
    s.Eases t := by
  cases h with
  | unable => exact .refl _
  | already => exact .refl _
  | ailing => exact (Eases.refl _).setLoop _
  | joined => exact s.eases_joinPanicked true
  | begun =>
    exact (((Eases.refl _).setLoop _).announce _).trans (eases_continueLoop _ _)

theorem start_cases (s : Site) (id : StreamId) :
    (s.start? id).map (·.1) ≠ some (.ok ()) ∧ s.started id = s ∨
    ∃ key c, s.find? id = some key ∧ s.channels[key]? = some c ∧ s.endpoint.isOpen = true ∧
      s.endpoint.ailment? = none ∧ (c.enter .started).isRunning = true ∧
      ∃ answer t, (s.modifyChannel key fun _ => c.enter .started).Launched answer t ∧
        (s.start? id).map (·.1) = some answer ∧
        s.started id = match answer with
          | .ok () => t
          | .error _ => t.modifyChannel key Channel.stop := by
  unfold started start?
  split
  · exact .inl ⟨by simp, rfl⟩
  next opened =>
    split
    · exact .inl ⟨by simp, rfl⟩
    next ailment =>
      split
      · exact .inl ⟨by simp, rfl⟩
      next key found =>
        split
        · exact .inl ⟨by simp, rfl⟩
        · exact .inl ⟨by simp, rfl⟩
        next started starting =>
          obtain ⟨c, present, starts⟩ := Option.map_eq_some_iff.mp starting
          obtain ⟨entered, runs⟩ := Channel.enter_of_start starts
          subst entered
          cases result : (s.modifyChannel key fun _ => c.enter .started).launch? with
          | none => exact .inl ⟨by simp, rfl⟩
          | some launched =>
            obtain ⟨answer, t⟩ := launched
            refine .inr ⟨key, c, found, present, by simpa using opened, ailment, runs, answer, t,
              launched_of_launch? result, ?_⟩
            cases answer <;> exact ⟨rfl, rfl⟩

end Site

end SharedAudio

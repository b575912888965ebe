import SharedAudio.Proofs.Endpoint.Service

namespace SharedAudio

namespace Channel

variable (c : Channel) (e : StreamEvent)

theorem ramp_enter : (c.enter e).ramp = c.ramp := by
  rw [enter]
  split <;> rfl

theorem applied_enter : (c.enter e).applied = c.applied := by
  rw [enter]
  split <;> rfl

theorem underflows_enter : (c.enter e).underflows = c.underflows := by
  rw [enter]
  split <;> rfl

end Channel

namespace Endpoint

def Shaped (e : Endpoint) : Prop :=
  ∀ line mixer, e.phase = .opened line → line.loop.mixer? = some mixer →
    mixer.channels = e.config.channels ∧ mixer.burst = line.params.burst ∧
      mixer.sum.size = e.config.channels.toNat * line.params.burst.toNat

structure Calm (e f : Endpoint) : Prop where
  made : f.made = e.made
  quiet : f.runs = true → e.runs = true ∧ f.bursts = e.bursts
  config : f.config = e.config
  shaped : e.Shaped → f.Shaped

namespace Calm

variable {e f g : Endpoint} {line : Line} {loop : Loop}

theorem refl (e : Endpoint) : e.Calm e := ⟨rfl, fun runs => ⟨runs, rfl⟩, rfl, id⟩

theorem trans (h : e.Calm f) (k : f.Calm g) : e.Calm g where
  made := k.made.trans h.made
  quiet runs := by
    obtain ⟨before, bursts⟩ := k.quiet runs
    obtain ⟨first, earlier⟩ := h.quiet before
    exact ⟨first, bursts.trans earlier⟩
  config := k.config.trans h.config
  shaped shaped := k.shaped (h.shaped shaped)

theorem of_rest (opened : e.phase = .opened line) (after : f.phase = .opened { line with loop })
    (rest : loop.runs = false) (made : f.handed = e.made) (config : f.config = e.config)
    (mixer : loop.mixer? = none ∨ loop.mixer? = line.loop.mixer?) : e.Calm f where
  made := by
    have nothing : f.waiting = [] := by
      rw [waiting_of_opened after]
      cases loop <;> first | rfl | cases rest
    rw [Endpoint.made, nothing, List.append_nil, made]
  quiet runs := by
    rw [runs_of_opened after, rest] at runs
    cases runs
  config := config
  shaped shaped := by
    intro other mixer' there has
    rw [after] at there
    cases there
    rw [config]
    rcases mixer with none | same
    · rw [none] at has
      cases has
    · exact shaped line mixer' opened (same ▸ has)

theorem of_same (phase : f.phase = e.phase) (device : f.device.bursts = e.device.bursts)
    (bursts : f.bursts = e.bursts) (config : f.config = e.config) : e.Calm f where
  made := by rw [Endpoint.made, Endpoint.made, handed, handed, device, waiting_congr phase]
  quiet running := ⟨runs_congr phase ▸ running, bursts⟩
  config := config
  shaped shaped line mixer opened has := by
    rw [config]
    exact shaped line mixer (phase ▸ opened) has

end Calm

end Endpoint

namespace Site

variable {s t u : Site} {key : Nat}

def SameRings (s t : Site) : Prop :=
  ∀ key : Nat, t.channels[key]?.map (·.ring) = s.channels[key]?.map (·.ring)

theorem SameRings.trans (h : s.SameRings t) (g : t.SameRings u) : s.SameRings u :=
  fun key => (g key).trans (h key)

theorem map_modifyChannel {β : Type} {view : Channel → β} {change : Channel → Channel}
    (kept : ∀ c, s.channels[key]? = some c → view (change c) = view c) (other : Nat) :
    (s.modifyChannel key change).channels[other]?.map view = s.channels[other]?.map view := by
  rw [getElem?_modifyChannel]
  split
  next same =>
    subst same
    cases there : s.channels[key]? with
    | none => rfl
    | some c => exact congrArg some (kept c there)
  next => rfl

theorem map_modifyRegistered {β : Type} {view : Channel → β} {change : Channel → Channel}
    (again : ∀ c, change (change c) = change c) (kept : ∀ c, view (change c) = view c)
    (key : Nat) :
    (s.modifyRegistered change).channels[key]?.map view = s.channels[key]?.map view := by
  rw [getElem?_modifyRegistered again]
  split
  · cases s.channels[key]? with
    | none => rfl
    | some c => exact congrArg some (kept c)
  · rfl

theorem sameRings_enterAll (s : Site) (e : StreamEvent) :
    s.SameRings (s.modifyRegistered (·.enter e)) :=
  map_modifyRegistered (fun c => c.enter_enter e) fun c => c.ring_enter e

theorem sameRings_finish (s : Site) (exit : LoopExit) : s.SameRings (s.finish exit) := by
  cases exit with
  | stopped => exact fun _ => rfl
  | disconnected => exact s.sameRings_enterAll _
  | shortWrite written requested => exact s.sameRings_enterAll _
  | writeFailed reason => exact s.sameRings_enterAll _

theorem sameRings_joinPanicked (s : Site) (flag : Bool) : s.SameRings (s.joinPanicked flag) :=
  s.sameRings_enterAll _

structure Calm (s t : Site) : Prop where
  endpoint : s.endpoint.Calm t.endpoint
  rings : s.SameRings t

namespace Calm

theorem refl (s : Site) : s.Calm s := ⟨.refl _, fun _ => rfl⟩

theorem trans (h : s.Calm t) (g : t.Calm u) : s.Calm u :=
  ⟨h.endpoint.trans g.endpoint, h.rings.trans g.rings⟩

theorem of_channels (endpoint : t.endpoint = s.endpoint) (rings : s.SameRings t) : s.Calm t :=
  ⟨endpoint ▸ .refl _, rings⟩

theorem announce (h : s.Calm t) (what : String) : s.Calm (t.announce what) :=
  h.trans (of_channels (by simp) fun _ => by simp)

end Calm

theorem phase_joinPanicked {line : Line} {flag : Bool} (h : s.endpoint.phase = .opened line) :
    (s.joinPanicked flag).endpoint.phase = .opened { line with loop := .lost flag } := by
  have still : Endpoint.phase { (s.faultAll panicReason).endpoint with
      health := .faulted
      lastExit := some (.writeFailed panicReason) } = .opened line := h
  exact Endpoint.phase_setLoop still _

theorem calm_joinPanicked {line : Line} (before : s.endpoint.phase = .opened line)
    (opened : t.endpoint.phase = .opened line) (made : t.endpoint.handed = s.endpoint.made)
    (config : t.endpoint.config = s.endpoint.config) (rings : s.SameRings t) (flag : Bool) :
    s.Calm (t.joinPanicked flag) := by
  refine ⟨.of_rest before (phase_joinPanicked opened) rfl ?_ ?_ (.inl rfl),
    rings.trans (t.sameRings_joinPanicked flag)⟩
  · rw [joinPanicked, endpoint_setLoop, Endpoint.handed_setLoop]
    exact made
  · rw [joinPanicked, endpoint_setLoop, Endpoint.config_setLoop]
    exact config

theorem calm_setLoop {line : Line} {loop : Loop} (opened : s.endpoint.phase = .opened line)
    (quiet : line.loop.waiting = []) (rest : loop.runs = false)
    (mixer : loop.mixer? = none ∨ loop.mixer? = line.loop.mixer?) : s.Calm (s.setLoop loop) := by
  refine ⟨.of_rest opened ?_ rest ?_ (by simp) mixer, fun _ => by simp⟩
  · rw [endpoint_setLoop, Endpoint.phase_setLoop opened]
  · rw [endpoint_setLoop, Endpoint.handed_setLoop, Endpoint.made,
      Endpoint.waiting_of_opened opened, quiet, List.append_nil]

theorem made_of_writing {line : Line} {mixer : Mixer} (opened : s.endpoint.phase = .opened line)
    (loop : line.loop = .writing mixer) : s.endpoint.made = s.endpoint.handed ++ [mixer.sum] := by
  rw [Endpoint.made, Endpoint.waiting_of_opened opened, loop, Loop.waiting]

theorem calm_finish {line : Line} {mixer : Mixer} {delivery : Delivery}
    (opened : s.endpoint.phase = .opened line) (writing : line.loop = .writing mixer)
    (delivered : s.Delivered line.params mixer delivery u) (exit : LoopExit) {loop : Loop}
    (rest : loop.runs = false) (keeps : loop.mixer? = some mixer) :
    s.Calm ((u.finish exit).setLoop loop) := by
  obtain ⟨health, endpoint⟩ := u.endpoint_finish exit
  have phase := (u.phase_finish exit).trans (delivered.phase.trans opened)
  refine ⟨.of_rest opened ?_ rest ?_ ?_ (.inr (by rw [keeps, writing]; rfl)), ?_⟩
  · rw [endpoint_setLoop, Endpoint.phase_setLoop phase]
  · rw [endpoint_setLoop, Endpoint.handed_setLoop, endpoint, made_of_writing opened writing]
    exact delivered.handed
  · rw [endpoint_setLoop, Endpoint.config_setLoop, endpoint]
    exact delivered.eases.config
  · intro key
    rw [channels_setLoop, sameRings_finish u exit key, delivered.channels]

theorem Halted.calm (h : s.Halted t) : s.Calm t := by
  cases h with
  | resting _ => exact .refl s
  | lost line flag opened loop => exact calm_setLoop opened (by rw [loop]; rfl) rfl (.inl rfl)
  | ended line mixer opened loop =>
    exact (calm_setLoop opened (by rw [loop]; rfl) rfl (.inr (by rw [loop]; rfl))).announce _
  | panicked line opened loop =>
    refine (calm_joinPanicked opened opened ?_ rfl (fun _ => rfl) false).announce _
    rw [Endpoint.made, Endpoint.waiting_of_opened opened, loop, Loop.waiting, List.append_nil]
  | written line mixer delivery exit t opened loop delivered _ =>
    exact (calm_finish opened loop delivered exit rfl rfl).announce _
  | died line mixer t opened loop delivered =>
    refine (calm_joinPanicked opened (delivered.phase.trans opened)
      (delivered.handed.trans (made_of_writing opened loop).symm) delivered.eases.config ?_
      false).announce _
    intro key
    rw [delivered.channels]

theorem calm_device (s : Site) {device : Device} (same : device.bursts = s.endpoint.handed) :
    s.Calm { s with endpoint := { s.endpoint with device } } :=
  ⟨.of_same rfl same rfl rfl, fun _ => rfl⟩

theorem calm_opened (s : Site) : s.Calm s.opened := by
  rcases s.opened_cases with
    ⟨device, same, eq⟩ | ⟨params, buffer, device, closed, -, same, channels, endpoint⟩
  · rw [eq]
    exact s.calm_device same
  · refine ⟨?_, fun key => by rw [channels]⟩
    rw [endpoint]
    refine ⟨?_, ?_, rfl, ?_⟩
    · have before : s.endpoint.waiting = [] := by
        simp [Endpoint.waiting, Endpoint.line?, closed, Phase.line?]
      rw [Endpoint.made, Endpoint.made, before]
      exact congrArg (· ++ []) same
    · intro running
      cases running
    · intro _ line mixer opened has
      cases opened
      cases has
      exact ⟨rfl, rfl, by simp [Mixer.new]⟩

theorem calm_closeStream (s : Site) : s.Calm s.closeStream.2 := by
  unfold closeStream
  split
  · exact .refl s
  next line opened =>
    have halted := s.halted_halt.calm
    have stopped := halted.rings.trans (s.halt.sameRings_enterAll .stopped)
    have waiting := Endpoint.waiting_of_not_runs s.halted_halt.runs
    have handed : s.halt.endpoint.handed = s.endpoint.made := by
      rw [← halted.endpoint.made, Endpoint.made, waiting, List.append_nil]
    refine Calm.announce ?_ _
    refine ⟨⟨?_, ?_, halted.endpoint.config, ?_⟩, stopped⟩
    · rw [← handed, ← List.append_nil s.halt.endpoint.handed]
      refine congrArg (· ++ []) ?_
      dsimp only [Endpoint.handed, endpoint_modifyRegistered]
      split
      · exact s.halt.endpoint.device.bursts_close
      · rfl
    · intro running
      cases running
    · intro _ line mixer opened
      cases opened

theorem calm_register (s : Site) (key : Nat) (c : Channel) : s.Calm (s.register key c).2 := by
  rcases s.register_cases key c with eq | ⟨-, -, -, eq⟩
  · rw [eq]
    exact .refl s
  · rw [eq]
    exact ⟨.of_same rfl rfl rfl rfl, fun _ => rfl⟩

theorem calm_stop_channel (s : Site) (key : Nat) : s.Calm (s.modifyChannel key Channel.stop) :=
  .of_channels rfl (map_modifyChannel fun c _ => c.ring_enter _)

theorem calm_stopKey (s : Site) (key : Nat) : s.Calm (s.stopKey key) := by
  rcases s.stopKey_cases key with ⟨-, eq⟩ | ⟨t, rfl, ⟨-, eq⟩ | ⟨-, eq⟩⟩
  · rw [eq]
    exact .refl s
  · rw [eq]
    exact s.calm_stop_channel key
  · rw [eq]
    exact (s.calm_stop_channel key).trans (halted_halt _).calm

theorem calm_unregister (s : Site) (id : StreamId) : s.Calm (s.unregister id) := by
  cases found : s.find? id with
  | none =>
    rw [unregister_of_unknown found]
    exact .refl s
  | some key =>
    have without : s.Calm (s.without key) := ⟨.of_same rfl rfl rfl rfl, fun _ => rfl⟩
    rw [unregister_of_find? found]
    exact without.trans (calm_stopKey _ key)

theorem calm_stop (s : Site) (id : StreamId) : s.Calm (s.stop id).2 := by
  rcases s.stop_cases id with ⟨_, eq⟩ | ⟨key, -, -, eq⟩
  · rw [eq]
    exact .refl s
  · rw [eq]
    exact s.calm_stopKey key

theorem calm_setVolume (s : Site) (id : StreamId) (volume : Sample) :
    s.Calm (s.setVolume id volume).2 := by
  rcases s.setVolume_cases id volume with ⟨_, eq⟩ | ⟨key, -, eq⟩
  · rw [eq]
    exact .refl s
  · rw [eq]
    exact .of_channels rfl (map_modifyChannel fun _ _ => rfl)

theorem calm_disconnectAll (s : Site) : s.Calm s.disconnectAll :=
  .of_channels rfl (s.sameRings_enterAll _)

structure Mixes (s : Site) (line : Line) (mixer : Mixer) (ready : Site) : Prop where
  opened : s.endpoint.phase = .opened line
  mixer : line.loop.mixer? = some mixer
  still : ∃ loop, ready.endpoint.phase = .opened { line with loop }
  handed : ready.endpoint.handed = s.endpoint.made
  config : ready.endpoint.config = s.endpoint.config
  options : ready.endpoint.options = s.endpoint.options
  registered : ready.endpoint.registered = s.endpoint.registered
  counted : s.endpoint.runs = true → ready.endpoint.bursts ≠ s.endpoint.bursts
  rings : s.SameRings ready
  ramps : ∀ key : Nat, ready.channels[key]?.map (·.ramp) = s.channels[key]?.map (·.ramp)
  applied : ∀ key : Nat, ready.channels[key]?.map (·.applied) = s.channels[key]?.map (·.applied)
  underflows : ready.endpoint.underflows = s.endpoint.underflows
  counts : ∀ key : Nat,
    ready.channels[key]?.map (·.underflows) = s.channels[key]?.map (·.underflows)

theorem Delivered.mixes {line : Line} {mixer : Mixer} (opened : s.endpoint.phase = .opened line)
    (loop : line.loop = .writing mixer) (h : s.Delivered line.params mixer .delivered u) :
    s.Mixes line mixer u where
  opened := opened
  mixer := by rw [loop]; rfl
  still := ⟨line.loop, h.phase.trans opened⟩
  handed := h.handed.trans (made_of_writing opened loop).symm
  config := h.eases.config
  options := h.eases.options
  registered := h.eases.registered
  counted _ same := by
    rw [h.counted, if_pos rfl] at same
    simp at same
  rings key := by rw [h.channels]
  ramps key := by rw [h.channels]
  applied key := by rw [h.channels]
  underflows := by
    obtain ⟨device, bursts, rms, rfl⟩ := h.rest
    rfl
  counts key := by rw [h.channels]

theorem Granted.calm_or_mixes (h : s.Granted t) :
    s.Calm t ∨ ∃ line mixer ready, s.Mixes line mixer ready ∧ t = ready.continueLoop mixer := by
  cases h with
  | delivered line mixer u opened loop delivered =>
    exact .inr ⟨line, mixer, u, delivered.mixes opened loop, rfl⟩
  | failed line mixer exit u opened loop delivered =>
    exact .inl (calm_finish opened loop delivered exit rfl rfl)
  | died line mixer u opened loop delivered =>
    have phase := delivered.phase.trans opened
    refine .inl ⟨⟨?_, ?_, ?_, ?_⟩, ?_⟩
    · rw [endpoint_setLoop, Endpoint.made, Endpoint.handed_setLoop, delivered.handed,
        made_of_writing opened loop, Endpoint.waiting_setLoop (Endpoint.isOpen_of_opened phase),
        Loop.waiting, List.append_nil]
    · intro _
      refine ⟨by rw [Endpoint.runs_of_opened opened, loop]; rfl, ?_⟩
      rw [endpoint_setLoop, Endpoint.bursts_setLoop, delivered.counted]
      simp
    · rw [endpoint_setLoop, Endpoint.config_setLoop, delivered.eases.config]
    · intro _ line other there has
      rw [endpoint_setLoop, Endpoint.phase_setLoop phase] at there
      cases there
      cases has
    · intro key
      rw [channels_setLoop, delivered.channels]

theorem map_started {β : Type} {view : Channel → β} {c : Channel}
    (present : s.channels[key]? = some c) (kept : view (c.enter .started) = view c) (other : Nat) :
    (s.modifyChannel key fun _ => c.enter .started).channels[other]?.map view =
      s.channels[other]?.map view := by
  refine map_modifyChannel (fun before there => ?_) other
  rw [present] at there
  cases there
  exact kept

theorem mixes_begin {c : Channel} {line : Line} {mixer : Mixer}
    (present : s.channels[key]? = some c) (opened : s.endpoint.phase = .opened line)
    (loop : line.loop = .idle mixer ∨ line.loop = .ended mixer) :
    s.Mixes line mixer
      (((s.modifyChannel key fun _ => c.enter .started).setLoop (.idle mixer)).announce
        "streaming") where
  opened := opened
  mixer := by rcases loop with loop | loop <;> rw [loop] <;> rfl
  still := by
    refine ⟨.idle mixer, ?_⟩
    rw [endpoint_announce, endpoint_setLoop]
    exact Endpoint.phase_setLoop opened _
  handed := by
    rw [endpoint_announce, endpoint_setLoop, Endpoint.handed_setLoop, Endpoint.made,
      Endpoint.waiting_of_opened opened]
    rcases loop with loop | loop <;> rw [loop, Loop.waiting, List.append_nil] <;> rfl
  config := by rw [endpoint_announce, endpoint_setLoop, Endpoint.config_setLoop]; rfl
  options := by rw [endpoint_announce, endpoint_setLoop, Endpoint.options_setLoop]; rfl
  registered := by rw [endpoint_announce, endpoint_setLoop, Endpoint.registered_setLoop]; rfl
  counted runs := by
    rw [Endpoint.runs_of_opened opened] at runs
    rcases loop with loop | loop <;> simp [loop, Loop.runs] at runs
  rings other := by
    rw [channels_announce, channels_setLoop]
    exact map_started present (c.ring_enter _) other
  ramps other := by
    rw [channels_announce, channels_setLoop]
    exact map_started present (c.ramp_enter _) other
  applied other := by
    rw [channels_announce, channels_setLoop]
    exact map_started present (c.applied_enter _) other
  underflows := by
    rw [endpoint_announce, endpoint_setLoop, Endpoint.setLoop_eq]
    rfl
  counts other := by
    rw [channels_announce, channels_setLoop]
    exact map_started present (c.underflows_enter _) other

theorem start_calm_or_mixes (s : Site) (id : StreamId) :
    s.Calm (s.started id) ∨ ∃ line mixer ready, s.Mixes line mixer ready ∧
      (s.started id) = ready.continueLoop mixer := by
  rcases s.start_cases id with
    ⟨_, eq⟩ | ⟨key, c, -, present, -, -, -, answer, t, launched, -, eq⟩
  · rw [eq]
    exact .inl (.refl s)
  have started : s.Calm (s.modifyChannel key fun _ => c.enter .started) :=
    .of_channels rfl (map_started present (c.ring_enter _))
  have endpoint : (s.modifyChannel key fun _ => c.enter .started).endpoint = s.endpoint := rfl
  rw [eq]
  generalize built : (s.modifyChannel key fun _ => c.enter .started) = b at *
  cases launched with
  | unable error quiet => exact .inl (started.trans (calm_stop_channel _ key))
  | already line mixer opened loop => exact .inl started
  | ailing line mixer error opened loop =>
    have rests : b.Calm (b.setLoop (.idle mixer)) :=
      calm_setLoop opened (by rw [loop]; rfl) rfl (.inr (by rw [loop]; rfl))
    exact .inl ((started.trans rests).trans (calm_stop_channel _ key))
  | joined line error opened loop =>
    have made : b.endpoint.handed = b.endpoint.made := by
      rw [Endpoint.made, Endpoint.waiting_of_opened opened, loop, Loop.waiting, List.append_nil]
    have joins := calm_joinPanicked opened opened made rfl (fun _ => rfl) true
    exact .inl ((started.trans joins).trans (calm_stop_channel _ key))
  | begun line mixer opened loop =>
    subst built
    exact .inr ⟨line, mixer, _, mixes_begin present opened loop, rfl⟩

end Site

end SharedAudio

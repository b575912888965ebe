import SharedAudio.Proofs.Hardware.Writes
import SharedAudio.Proofs.Endpoint.Opening
import SharedAudio.Proofs.Endpoint.Rest

namespace SharedAudio

namespace Channel

structure Struck (c : Channel) (event : StreamEvent) (d : Channel) : Prop where
  entered : d = c.enter event ∨ d = c.stop.enter event
  spared : c.state.isTerminal = true → d = c
  state : c.state.isTerminal = false → d.state = event.entered
  told : c.state.isTerminal = false → c.events.length + 1 < backlog →
    d.events.getLast? = some event

variable {c d : Channel} {event : StreamEvent}

theorem isTerminal_stop (c : Channel) : c.stop.state.isTerminal = c.state.isTerminal := by
  rw [stop, state_enter]
  cases c.state <;> rfl

theorem stop_of_isTerminal (h : c.state.isTerminal = true) : c.stop = c := enter_of_isTerminal h _

theorem length_events_stop (c : Channel) : c.stop.events.length ≤ c.events.length + 1 := by
  rw [stop, enter]
  split
  · dsimp only
    split
    · simp
    · exact Nat.le_succ _
  · exact Nat.le_succ _

theorem enter_of_possibleIn (possible : event.possibleIn c.state = true) :
    (c.enter event).state = event.entered ∧
      (c.events.length < backlog → (c.enter event).events.getLast? = some event) := by
  rw [enter, if_pos possible]
  refine ⟨rfl, fun room => ?_⟩
  dsimp only
  rw [if_pos room, List.getLast?_concat]

theorem struck_enter (c : Channel) (exit : LoopExit) :
    c.Struck exit.event (c.enter exit.event) := by
  refine ⟨.inl rfl, fun terminal => enter_of_isTerminal terminal _,
    fun live => ?_, fun live room => ?_⟩
  · exact (enter_of_possibleIn (by rw [exit.possibleIn_event, live]; rfl)).1
  · exact (enter_of_possibleIn (by rw [exit.possibleIn_event, live]; rfl)).2
      (Nat.lt_of_succ_lt room)

theorem struck_stop (c : Channel) (exit : LoopExit) :
    c.Struck exit.event (c.stop.enter exit.event) := by
  have struck := c.stop.struck_enter exit
  refine ⟨.inr rfl, fun terminal => ?_, fun live => ?_, fun live room => ?_⟩
  · rw [stop_of_isTerminal terminal, enter_of_isTerminal terminal]
  · exact struck.state (c.isTerminal_stop.trans live)
  · rw [← c.isTerminal_stop] at live
    exact (enter_of_possibleIn (by rw [exit.possibleIn_event, live]; rfl)).2
      (Nat.lt_of_le_of_lt c.length_events_stop room)

namespace Struck

variable {exit : LoopExit}

theorem of_stop (h : c.stop.Struck exit.event d) : c.Struck exit.event d := by
  have entered : d = c.stop.enter exit.event := by
    rcases h.entered with eq | eq
    · exact eq
    · rwa [stop, stop, enter_enter, ← stop] at eq
  rw [entered]
  exact c.struck_stop exit

theorem isTerminal (h : c.Struck exit.event d) : d.state.isTerminal = true := by
  cases live : c.state.isTerminal with
  | true => rw [h.spared live, live]
  | false => rw [h.state live, exit.isTerminal_event]

end Struck

end Channel

namespace Endpoint

theorem lastExit_setLoop (e : Endpoint) (loop : Loop) :
    (e.setLoop loop).lastExit = e.lastExit := by
  rw [setLoop_eq]

theorem isOpen_of_waiting {e : Endpoint} {sum : Array Sample} (h : e.waiting = [sum]) :
    e.isOpen = true := by
  cases opened : e.phase with
  | closed owned => simp [waiting, line?, opened, Phase.line?] at h
  | opened line => exact isOpen_of_opened opened

theorem writes_shut (e : Endpoint) (line : Line) :
    (e.shut line).device.writes = e.device.writes := by
  rw [shut]
  dsimp only
  split
  · rw [Device.writes_of_push (Device.calls_close _)]
    exact List.append_nil _
  · rfl

end Endpoint

namespace Site

variable {s t u : Site} {key : Nat} {w : Write} {exit : LoopExit}

structure Outage (s : Site) (w : Write) (exit : LoopExit) (t : Site) : Prop where
  waiting : s.endpoint.waiting = [w.samples]
  burst : s.endpoint.burst? = some w.frames
  written : t.endpoint.device.writes = s.endpoint.device.writes ++ [w]
  health : t.endpoint.health = exit.health
  lastExit : t.endpoint.lastExit = some exit
  bursts : t.endpoint.bursts = s.endpoint.bursts
  quiet : t.endpoint.streaming = false
  registered : ∀ key ∈ s.endpoint.registered, ∀ c, s.channels[key]? = some c →
    ∃ d, t.channels[key]? = some d ∧
      if t.endpoint.isOpen = true ∧ key ∉ t.endpoint.registered then d = c.stop
      else c.Struck exit.event d
  apart : ∀ key, key ∉ s.endpoint.registered → t.channels[key]? = s.channels[key]?

structure Wrote (s : Site) (w : Write) (t : Site) : Prop where
  written : t.endpoint.device.writes = s.endpoint.device.writes ++ [w]
  outage : ∀ exit, Fails w.frames w.answer exit → s.Outage w exit t

theorem endpoint_finish_of_failed (s : Site) (failed : exit ≠ .stopped) :
    (s.finish exit).endpoint =
      { s.endpoint with health := exit.health, lastExit := some exit } := by
  cases exit with
  | stopped => exact absurd rfl failed
  | disconnected | shortWrite | writeFailed => rfl

theorem channels_finish_of_failed (s : Site) (failed : exit ≠ .stopped) :
    (s.finish exit).channels = (s.modifyRegistered (·.enter exit.event)).channels := by
  cases exit with
  | stopped => exact absurd rfl failed
  | disconnected | shortWrite | writeFailed => rfl

theorem Delivered.writes {params : HardwareParams} {mixer : Mixer} {delivery : Delivery}
    (h : s.Delivered params mixer delivery t) : ∃ w : Write, w.samples = mixer.sum ∧
      w.frames = params.burst ∧ w.timeout = s.endpoint.writeTimeout params ∧
      delivery = .ofAnswer params.burst w.answer ∧
      t.endpoint.device.writes = s.endpoint.device.writes ++ [w] := by
  obtain ⟨answer, outcome, calls⟩ := h.call
  exact ⟨⟨_, _, _, answer⟩, rfl, rfl, rfl, outcome, Device.writes_of_push calls⟩

theorem outage_of_failed {line : Line} {mixer : Mixer} (opened : s.endpoint.phase = .opened line)
    (loop : line.loop = .writing mixer)
    (delivered : s.Delivered line.params mixer (.failed exit) u) {rest : Loop}
    (quiet : rest.streaming = false) {after : Site}
    (endpoint : after.endpoint = (u.finish exit).endpoint.setLoop rest)
    (channels : after.channels = (u.finish exit).channels)
    (written : u.endpoint.device.writes = s.endpoint.device.writes ++ [w])
    (samples : w.samples = mixer.sum) (frames : w.frames = line.params.burst) :
    s.Outage w exit after := by
  have failed : exit ≠ .stopped := fun stopped => delivered.exit (by rw [stopped])
  have finished := u.endpoint_finish_of_failed failed
  have eases := delivered.eases
  have still : (u.finish exit).endpoint.isOpen = true := by
    rw [finished]
    exact eases.isOpen.trans (Endpoint.isOpen_of_opened opened)
  rw [u.channels_finish_of_failed failed] at channels
  constructor
  · rw [Endpoint.waiting_of_opened opened, loop, samples]
    rfl
  · rw [Endpoint.burst?, Endpoint.line?, opened, frames]
    rfl
  · rw [endpoint, Endpoint.device_setLoop, finished]
    exact written
  · rw [endpoint, Endpoint.health_setLoop, finished]
  · rw [endpoint, Endpoint.lastExit_setLoop, finished]
  · rw [endpoint, Endpoint.bursts_setLoop, finished]
    simpa using delivered.counted
  · rw [endpoint, Endpoint.streaming_setLoop still, quiet]
  · intro key member c present
    rw [← eases.registered] at member
    refine ⟨c.enter exit.event, ?_, ?_⟩
    · rw [channels, getElem?_modifyRegistered (fun c => c.enter_enter _), if_pos member,
        delivered.channels, present]
      rfl
    · rw [if_neg]
      · exact c.struck_enter exit
      · rintro ⟨-, gone⟩
        rw [endpoint, Endpoint.registered_setLoop, finished] at gone
        exact gone member
  · intro key outside
    rw [channels, getElem?_modifyRegistered (fun c => c.enter_enter _), if_neg, delivered.channels]
    rwa [eases.registered]

theorem wrote_of_other {params : HardwareParams} {mixer : Mixer} {delivery : Delivery}
    (delivered : s.Delivered params mixer delivery u)
    (device : t.endpoint.device = u.endpoint.device) (other : ∀ exit, delivery ≠ .failed exit) :
    ∃ w : Write, s.Wrote w t := by
  obtain ⟨w, -, frames, -, outcome, written⟩ := delivered.writes
  refine ⟨w, by rw [device, written], fun exit fails => ?_⟩
  rw [frames] at fails
  exact absurd (outcome.trans fails.ofAnswer) (other exit)

theorem wrote_of_failed {line : Line} {mixer : Mixer} (opened : s.endpoint.phase = .opened line)
    (loop : line.loop = .writing mixer)
    (delivered : s.Delivered line.params mixer (.failed exit) u) {rest : Loop}
    (quiet : rest.streaming = false) {after : Site}
    (endpoint : after.endpoint = (u.finish exit).endpoint.setLoop rest)
    (channels : after.channels = (u.finish exit).channels) :
    ∃ w : Write, s.Wrote w after := by
  obtain ⟨w, samples, frames, -, outcome, written⟩ := delivered.writes
  have failed : exit ≠ .stopped := fun stopped => delivered.exit (by rw [stopped])
  refine ⟨w, ?_, fun exit' fails => ?_⟩
  · rw [endpoint, Endpoint.device_setLoop, u.endpoint_finish_of_failed failed, written]
  · rw [frames] at fails
    have same := outcome.trans fails.ofAnswer
    cases same
    exact outage_of_failed opened loop delivered quiet endpoint channels written samples frames

theorem Granted.wrote (h : s.Granted t) : ∃ w : Write, s.Wrote w t := by
  cases h with
  | delivered line mixer u opened loop delivered =>
    exact wrote_of_other delivered (u.device_continueLoop mixer) (by simp)
  | failed line mixer exit u opened loop delivered =>
    have ended : ((u.finish exit).setLoop (.ended mixer)).endpoint =
        (u.finish exit).endpoint.setLoop (.ended mixer) := rfl
    exact wrote_of_failed opened loop delivered rfl ended rfl
  | died line mixer u opened loop delivered =>
    exact wrote_of_other delivered (Endpoint.device_setLoop _ _) (by simp)

theorem device_joinPanicked (s : Site) (flag : Bool) :
    (s.joinPanicked flag).endpoint.device = s.endpoint.device := Endpoint.device_setLoop _ _

theorem Halted.wrote (h : s.Halted t) :
    t.endpoint.device = s.endpoint.device ∨ ∃ w : Write, s.Wrote w t := by
  cases h with
  | resting => exact .inl rfl
  | lost => exact .inl (Endpoint.device_setLoop _ _)
  | ended =>
    rw [endpoint_announce]
    exact .inl (Endpoint.device_setLoop _ _)
  | panicked =>
    rw [endpoint_announce]
    exact .inl (s.device_joinPanicked false)
  | written line mixer delivery exit u opened loop delivered outcome =>
    right
    have endpoint := endpoint_announce ((u.finish exit).setLoop (.idle mixer)) "idle"
    have channels := channels_announce ((u.finish exit).setLoop (.idle mixer)) "idle"
    rcases outcome with ⟨rfl, rfl⟩ | rfl
    · refine wrote_of_other delivered ?_ (by simp)
      rw [endpoint, endpoint_setLoop, Endpoint.device_setLoop]
      rfl
    · exact wrote_of_failed opened loop delivered rfl endpoint channels
  | died line mixer u opened loop delivered =>
    refine .inr (wrote_of_other delivered ?_ (by simp))
    rw [endpoint_announce, device_joinPanicked]

def Ends (s t : Site) : Prop :=
  t.endpoint.device.writes = s.endpoint.device.writes ∨ ∃ w : Write, s.Wrote w t

theorem Halted.ends (h : s.Halted t) : s.Ends t :=
  h.wrote.imp (congrArg Device.writes) id

section Stop

theorem Outage.of_stop (h : (s.modifyChannel key Channel.stop).Outage w exit t)
    (member : key ∈ s.endpoint.registered) : s.Outage w exit t where
  waiting := h.waiting
  burst := h.burst
  written := h.written
  health := h.health
  lastExit := h.lastExit
  bursts := h.bursts
  quiet := h.quiet
  registered other inside c present := by
    have there : (s.modifyChannel key Channel.stop).channels[other]? = _ :=
      s.getElem?_modifyChannel key Channel.stop
    by_cases same : key = other
    · rw [if_pos same, present] at there
      obtain ⟨d, after, fate⟩ := h.registered other inside c.stop there
      refine ⟨d, after, ?_⟩
      split
      next gone =>
        rw [if_pos gone] at fate
        rwa [Channel.stop, Channel.stop, Channel.enter_enter] at fate
      next stays =>
        rw [if_neg stays] at fate
        exact fate.of_stop
    · rw [if_neg same, present] at there
      exact h.registered other inside c there
  apart other outside := by
    have different : key ≠ other := fun same => outside (same ▸ member)
    rw [h.apart other outside, getElem?_modifyChannel, if_neg different]

theorem Outage.of_without (h : ((s.without key).modifyChannel key Channel.stop).Outage w exit t)
    (isOpen : t.endpoint.isOpen = true)
    (listed : t.endpoint.registered = s.endpoint.registered.erase key)
    (member : key ∈ s.endpoint.registered) : s.Outage w exit t where
  waiting := h.waiting
  burst := h.burst
  written := h.written
  health := h.health
  lastExit := h.lastExit
  bursts := h.bursts
  quiet := h.quiet
  registered other inside c present := by
    have there : ((s.without key).modifyChannel key Channel.stop).channels[other]? = _ :=
      (s.without key).getElem?_modifyChannel key Channel.stop
    rw [show (s.without key).channels[other]? = some c from present] at there
    by_cases left : other ∈ s.endpoint.registered.erase key
    · have stays : ¬ (t.endpoint.isOpen = true ∧ other ∉ t.endpoint.registered) := by
        rintro ⟨-, gone⟩
        exact gone (listed ▸ left)
      by_cases same : key = other
      · rw [if_pos same] at there
        obtain ⟨d, after, fate⟩ := h.registered other left c.stop there
        rw [if_neg stays] at fate
        exact ⟨d, after, by rw [if_neg stays]; exact fate.of_stop⟩
      · rw [if_neg same] at there
        exact h.registered other left c there
    · have same : key = other := by
        refine Decidable.byContradiction fun different => left ?_
        exact (List.mem_erase_of_ne fun eq => different eq.symm).mpr inside
      rw [if_pos same] at there
      refine ⟨c.stop, (h.apart other left).trans there, ?_⟩
      rw [if_pos ⟨isOpen, listed ▸ left⟩]
  apart other outside := by
    have left : other ∉ (s.without key).endpoint.registered :=
      fun inside => outside (List.mem_of_mem_erase inside)
    have different : key ≠ other := fun same => outside (same ▸ member)
    rw [h.apart other left, getElem?_modifyChannel, if_neg different]
    rfl

theorem ends_stop (s : Site) (id : StreamId) : s.Ends (s.stop id).2 := by
  rcases s.stop_cases id with ⟨_, eq⟩ | ⟨key, -, found, eq⟩
  · exact .inl (by rw [eq])
  rw [eq]
  rcases s.stopKey_cases key with ⟨-, eq⟩ | ⟨t, rfl, ⟨-, eq⟩ | ⟨-, eq⟩⟩
  · exact .inl (by rw [eq])
  · exact .inl (by rw [eq]; rfl)
  · dsimp only
    rw [eq]
    refine (halted_halt _).ends.imp (fun same => same)
      fun ⟨w, wrote⟩ => ⟨w, wrote.written, fun exit fails => ?_⟩
    exact (wrote.outage exit fails).of_stop (find?_mem found)

theorem ends_unregister (s : Site) (id : StreamId) : s.Ends (s.unregister id) := by
  cases found : s.find? id with
  | none =>
    rw [unregister_of_unknown found]
    exact .inl rfl
  | some key =>
    rw [unregister_of_find? found]
    rcases (s.without key).stopKey_cases key with ⟨-, eq⟩ | ⟨t, rfl, ⟨-, eq⟩ | ⟨-, eq⟩⟩
    · exact .inl (by rw [eq]; rfl)
    · exact .inl (by rw [eq]; rfl)
    · rw [eq]
      have halted := ((s.without key).modifyChannel key Channel.stop).halted_halt
      refine halted.ends.imp (fun same => same) fun ⟨w, wrote⟩ =>
        ⟨w, wrote.written, fun exit fails => ?_⟩
      have outage := wrote.outage exit fails
      refine outage.of_without ?_ halted.eases.registered (find?_mem found)
      exact halted.eases.isOpen.trans (Endpoint.isOpen_of_waiting outage.waiting)

end Stop

theorem ends_closeStream (s : Site) : s.Ends s.closeStream.2 := by
  unfold closeStream
  split
  · exact .inl rfl
  next line opened =>
    have halted := s.halted_halt
    obtain ⟨after, still⟩ :=
      Endpoint.opened_of_isOpen (halted.eases.isOpen.trans (Endpoint.isOpen_of_opened opened))
    have endpoint (closed : Site) (eq : closed.endpoint = s.halt.endpoint.shut after) :
        closed.endpoint.device.writes = s.halt.endpoint.device.writes := by
      rw [eq, Endpoint.writes_shut]
    dsimp only
    rw [Endpoint.line?, still]
    rcases halted.ends with same | ⟨w, wrote⟩
    · exact .inl ((endpoint _ (endpoint_announce _ _)).trans same)
    refine .inr ⟨w, (endpoint _ (endpoint_announce _ _)).trans wrote.written, ?_⟩
    intro exit fails
    have outage := wrote.outage exit fails
    constructor
    · exact outage.waiting
    · exact outage.burst
    · exact (endpoint _ (endpoint_announce _ _)).trans wrote.written
    · rw [endpoint_announce]
      exact outage.health
    · rw [endpoint_announce]
      exact outage.lastExit
    · rw [endpoint_announce]
      exact outage.bursts
    · rw [endpoint_announce]
      rfl
    · intro key member c present
      obtain ⟨d, there, fate⟩ := outage.registered key member c present
      rw [← halted.eases.registered] at member
      have struck : c.Struck exit.event d := by
        rwa [if_neg fun gone => gone.2 member] at fate
      refine ⟨d, ?_, ?_⟩
      · rw [channels_announce, getElem?_modifyRegistered (fun c => c.enter_enter _), if_pos member,
          there]
        exact congrArg some (Channel.stop_of_isTerminal struck.isTerminal)
      · rw [if_neg fun gone => ?_]
        · exact struck
        · rw [endpoint_announce] at gone
          exact absurd gone.1 (by simp [Endpoint.isOpen, Endpoint.line?, Phase.line?])
    · intro key outside
      rw [channels_announce, getElem?_modifyRegistered (fun c => c.enter_enter _), if_neg,
        outage.apart key outside]
      rwa [halted.eases.registered]

theorem writes_grantUpTo (s : Site) (n granted : Nat) :
    s.endpoint.device.writes <+: (s.grantUpTo n granted).2.endpoint.device.writes := by
  refine grantUpTo_induction
    (P := fun t => s.endpoint.device.writes <+: t.endpoint.device.writes)
    (fun granted front => ?_) List.prefix_rfl n granted
  obtain ⟨w, wrote⟩ := granted.wrote
  exact front.trans (wrote.written ▸ List.prefix_append _ [w])

theorem grantUpTo_of_quiet (quiet : s.endpoint.streaming = false) (n granted : Nat) :
    (s.grantUpTo n granted).2 = s := by
  have nothing : s.grant? = none := by
    refine grant?_eq_none fun line mixer opened loop => ?_
    rw [Endpoint.streaming_of_opened opened, loop] at quiet
    cases quiet
  cases n with
  | zero => rfl
  | succ n => rw [grantUpTo, nothing]

theorem outage_grantUpTo {n granted i : Nat} (later : s.endpoint.device.writes.length ≤ i)
    (there : (s.grantUpTo n granted).2.endpoint.device.writes[i]? = some w)
    (fails : Fails w.frames w.answer exit) :
    (s.grantUpTo (i - s.endpoint.device.writes.length) 0).2.Outage w exit
      (s.grantUpTo n granted).2 := by
  induction n generalizing s granted with
  | zero =>
    rw [grantUpTo, List.getElem?_eq_none later] at there
    cases there
  | succ n ih =>
    cases granting : s.grant? with
    | none =>
      rw [grantUpTo, granting] at there
      rw [List.getElem?_eq_none later] at there
      cases there
    | some t =>
      have step (n granted : Nat) :
          (s.grantUpTo (n + 1) granted).2 = (t.grantUpTo n (granted + 1)).2 := by
        rw [grantUpTo, granting]
      obtain ⟨first, wrote⟩ := (granted_of_grant granting).wrote
      rw [step] at there ⊢
      rcases Nat.eq_or_lt_of_le later with now | after
      · have kept := t.writes_grantUpTo n (granted + 1)
        rw [wrote.written] at kept
        have same : (s.endpoint.device.writes ++ [first])[i]? = some w := by
          obtain ⟨more, eq⟩ := kept
          rw [← eq, List.getElem?_append_left (by simp [now])] at there
          exact there
        rw [← now, List.getElem?_concat_length] at same
        cases same
        have outage := wrote.outage exit fails
        rw [← now, Nat.sub_self, grantUpTo, grantUpTo_of_quiet outage.quiet]
        exact outage
      · have size : t.endpoint.device.writes.length = s.endpoint.device.writes.length + 1 := by
          rw [wrote.written, List.length_append, List.length_singleton]
        have outage := ih (by omega) there
        rw [size] at outage
        rw [show i - s.endpoint.device.writes.length =
          i - (s.endpoint.device.writes.length + 1) + 1 by omega, step, t.snd_grantUpTo _ _ 0]
        exact outage

theorem Ends.outage {i : Nat} (h : s.Ends t) (later : s.endpoint.device.writes.length ≤ i)
    (there : t.endpoint.device.writes[i]? = some w) (fails : Fails w.frames w.answer exit) :
    i = s.endpoint.device.writes.length ∧ s.Outage w exit t := by
  rcases h with same | ⟨only, wrote⟩
  · rw [same, List.getElem?_eq_none later] at there
    cases there
  · obtain ⟨inside, -⟩ := List.getElem?_eq_some_iff.mp there
    have now : i = s.endpoint.device.writes.length := by
      rw [wrote.written, List.length_append, List.length_singleton] at inside
      omega
    rw [now, wrote.written, List.getElem?_concat_length] at there
    cases there
    exact ⟨now, wrote.outage exit fails⟩

end Site

end SharedAudio

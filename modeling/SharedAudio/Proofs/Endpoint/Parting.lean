import SharedAudio.Proofs.Endpoint.Failure
import SharedAudio.Proofs.Endpoint.Outage

namespace SharedAudio

def Delivery.parting? : Delivery → Option StreamEvent
  | .delivered => none
  | .failed exit => some exit.event
  | .died => some (.faulted Site.panicReason)

namespace Endpoint

def parting? (e : Endpoint) : Option StreamEvent :=
  e.line?.bind fun line =>
    match line.loop with
    | .writing mixer => Delivery.parting? (.ofAnswer line.params.burst
        (e.device.write mixer.sum line.params.burst (e.writeTimeout line.params)).1)
    | .panicked => some (.faulted Site.panicReason)
    | .idle _ | .ended _ | .lost _ => none

theorem isTerminal_of_parting {e : Endpoint} {event : StreamEvent} (h : e.parting? = some event) :
    event.entered.isTerminal = true := by
  obtain ⟨line, -, told⟩ := Option.bind_eq_some_iff.mp h
  split at told
  next mixer loop =>
    generalize Delivery.ofAnswer _ _ = delivery at told
    cases delivery with
    | delivered => cases told
    | failed exit =>
      cases told
      exact exit.isTerminal_event
    | died =>
      cases told
      rfl
  next =>
    cases told
    rfl
  all_goals cases told

end Endpoint

namespace Site

variable {s t : Site} {key : Nat} {id : StreamId} {c : Channel}

theorem fst_deliver (s : Site) (params : HardwareParams) (mixer : Mixer) :
    (s.deliver params mixer).1 = .ofAnswer params.burst
      (s.endpoint.device.write mixer.sum params.burst (s.endpoint.writeTimeout params)).1 := by
  simp only [deliver]
  split
  next delivered => exact delivered.symm
  next => rfl

theorem channels_halt (s : Site) : s.halt.channels =
    match s.endpoint.parting? with
    | none => s.channels
    | some event => (s.modifyRegistered (·.enter event)).channels := by
  have told (u : Site) (event : StreamEvent) (channels : u.channels = s.channels)
      (registered : u.endpoint.registered = s.endpoint.registered) :
      (u.modifyRegistered (·.enter event)).channels =
        (s.modifyRegistered (·.enter event)).channels := by
    simp only [modifyRegistered, channels, registered]
  unfold halt
  cases phase : s.endpoint.phase with
  | closed owned => simp [Endpoint.parting?, Endpoint.line?, phase, Phase.line?]
  | opened line =>
    simp only [Endpoint.parting?, Endpoint.line?, phase, Phase.line?, Option.bind_some]
    cases loop : line.loop with
    | idle mixer | lost flag => rfl
    | ended mixer => simp
    | panicked =>
      simp only [channels_announce]
      exact told s _ rfl rfl
    | writing mixer =>
      dsimp only
      rw [← s.fst_deliver]
      cases result : s.deliver line.params mixer with
      | mk delivery u =>
        have delivered := delivered_of_deliver result
        cases delivery with
        | delivered =>
          simp only [channels_announce]
          exact delivered.channels
        | failed exit =>
          have failed : exit ≠ .stopped := fun stopped => delivered.exit (by rw [stopped])
          simp only [channels_announce, channels_setLoop, u.channels_finish_of_failed failed]
          exact told u _ delivered.channels delivered.eases.registered
        | died =>
          simp only [channels_announce]
          exact told u _ delivered.channels delivered.eases.registered

def leaving (s : Site) (key : Nat) : ChannelState :=
  if s.endpoint.registered.any fun other => other != key && s.channels[other]?.any Channel.isRunning
  then .stopped
  else (s.endpoint.parting?.map StreamEvent.entered).getD .stopped

theorem silent_stopped_iff : (s.modifyChannel key Channel.stop).Silent ↔
    (s.endpoint.registered.any fun other =>
      other != key && s.channels[other]?.any Channel.isRunning) = false := by
  obtain ⟨elsewhere, runs⟩ := s.modifyChannel_stop key
  rw [List.any_eq_false]
  constructor
  · intro silent other member busy
    rw [Bool.and_eq_true, bne_iff_ne, any_isRunning_iff] at busy
    obtain ⟨c, present, running⟩ := busy.2
    exact silent other member ⟨c, by rw [elsewhere other busy.1, present], running⟩
  · intro nobody other member running
    obtain ⟨before, ne⟩ := runs other running
    refine nobody other member ?_
    rw [Bool.and_eq_true, bne_iff_ne, any_isRunning_iff]
    exact ⟨ne, before⟩

theorem state_stopKey (member : key ∈ s.endpoint.registered) (running : s.Runs key) :
    (s.stopKey key).channels[key]?.map (·.state) = some (s.leaving key) := by
  obtain ⟨c, present, runs⟩ := running
  have stopped : (s.modifyChannel key Channel.stop).channels[key]? = some c.stop := by
    rw [getElem?_modifyChannel, if_pos rfl, present]
    rfl
  have rests : c.stop.state = .stopped := by
    rw [Channel.stop, Channel.state_enter, eq_of_beq runs]
    rfl
  rcases s.stopKey_cases key with ⟨quiet, -⟩ | ⟨t, rfl, ⟨busy, eq⟩ | ⟨silent, eq⟩⟩
  · exact absurd ⟨c, present, runs⟩ quiet
  · rw [eq, stopped, leaving, if_pos (Bool.not_eq_false _ ▸ mt silent_stopped_iff.mpr busy)]
    exact congrArg some rests
  · rw [eq, channels_halt, leaving, silent_stopped_iff.mp silent,
      if_neg Bool.false_ne_true]
    have parting : (s.modifyChannel key Channel.stop).endpoint.parting? = s.endpoint.parting? := rfl
    rw [parting]
    cases told : s.endpoint.parting? with
    | none =>
      dsimp only
      rw [stopped]
      exact congrArg some rests
    | some event =>
      dsimp only
      have listed : key ∈ (s.modifyChannel key Channel.stop).endpoint.registered := member
      have possible : event.possibleIn .stopped = true := by
        have terminal := Endpoint.isTerminal_of_parting told
        cases event <;> first | rfl | cases terminal
      rw [getElem?_modifyRegistered (fun c => c.enter_enter event), if_pos listed, stopped]
      simp only [Option.map_some, Option.getD_some, Channel.state_enter, rests, possible, if_true]

theorem state_stop (answer : (s.stop id).1 = .ok ()) (found : s.find? id = some key)
    (running : s.Runs key) :
    (s.stop id).2.channels[key]?.map (·.state) = some (s.leaving key) := by
  rcases s.stop_cases id with ⟨_, eq⟩ | ⟨other, -, found', eq⟩
  · rw [eq] at answer
    cases answer
  · cases found.symm.trans found'
    rw [eq]
    exact state_stopKey (find?_mem found) running

end Site

end SharedAudio

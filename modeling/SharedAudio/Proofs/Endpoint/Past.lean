import SharedAudio.Proofs.Channel.Lifecycle
import SharedAudio.Proofs.Endpoint.Effects

namespace SharedAudio

-- What no operation looks at: which number a device has, which calls it had earlier, and which
-- events a client has not fetched.
structure Past where
  number : Nat
  calls : Array Call
  waiting : Nat → List StreamEvent → List StreamEvent
  told : ∀ key events e, waiting key (Channel.tell events e) = Channel.tell (waiting key events) e

def Device.after (d : Device) (p : Past) : Device :=
  { d with number := p.number, calls := p.calls ++ d.calls }

def Endpoint.after (e : Endpoint) (p : Past) : Endpoint := { e with device := e.device.after p }

def Channel.after (c : Channel) (p : Past) (key : Nat) : Channel :=
  { c with events := p.waiting key c.events }

def Past.channels (p : Past) (all : Array Channel) : Array Channel :=
  all.mapIdx fun key c => c.after p key

def Mixing.after (m : Mixing) (p : Past) : Mixing := { m with channels := p.channels m.channels }

def Site.after (s : Site) (p : Past) : Site where
  endpoint := s.endpoint.after p
  channels := p.channels s.channels
  log := s.log

variable (p : Past)

namespace Past

variable (all : Array Channel) (key : Nat)

theorem getElem?_channels : (p.channels all)[key]? = all[key]?.map (·.after p key) :=
  Array.getElem?_mapIdx

theorem modify_channels {change changed : Channel → Channel}
    (blind : ∀ c : Channel, change (c.after p key) = (changed c).after p key) :
    (p.channels all).modify key change = p.channels (all.modify key changed) := by
  apply Array.ext_getElem?
  intro i
  rw [Array.getElem?_modify, getElem?_channels, getElem?_channels, Array.getElem?_modify]
  split
  next same =>
    subst same
    cases all[key]? <;> simp [blind]
  next => rfl

theorem setIfInBounds_channels (c : Channel) :
    (p.channels all).setIfInBounds key (c.after p key) = p.channels (all.setIfInBounds key c) := by
  apply Array.ext_getElem?
  intro i
  rw [Array.getElem?_setIfInBounds, getElem?_channels, getElem?_channels,
    Array.getElem?_setIfInBounds, channels, Array.size_mapIdx]
  split
  next same =>
    subst same
    split <;> rfl
  next => rfl

end Past

section Unchanged

@[simp] theorem Device.plan_after (d : Device) : (d.after p).plan = d.plan := rfl

namespace Channel

variable (c : Channel) (key : Nat)

@[simp] theorem state_after : (c.after p key).state = c.state := by simp only [after]

@[simp] theorem ring_after : (c.after p key).ring = c.ring := rfl

@[simp] theorem applied_after : (c.after p key).applied = c.applied := rfl

@[simp] theorem isRunning_after : (c.after p key).isRunning = c.isRunning := by
  simp only [isRunning, after]

@[simp] theorem stepGain_after : (c.after p key).stepGain = c.stepGain.after p key := rfl

@[simp] theorem record_after (share : Mixer.Share) :
    (c.after p key).record share = (c.record share).after p key := rfl

end Channel

namespace Endpoint

variable (e : Endpoint)

@[simp] theorem config_after : (e.after p).config = e.config := rfl

@[simp] theorem options_after : (e.after p).options = e.options := by simp only [after]

@[simp] theorem device_after : (e.after p).device = e.device.after p := rfl

@[simp] theorem phase_after : (e.after p).phase = e.phase := rfl

@[simp] theorem registered_after : (e.after p).registered = e.registered := by
  simp only [after]

@[simp] theorem underflows_after : (e.after p).underflows = e.underflows := rfl

@[simp] theorem line?_after : (e.after p).line? = e.line? := rfl

@[simp] theorem isOpen_after : (e.after p).isOpen = e.isOpen := rfl

@[simp] theorem ailment?_after : (e.after p).ailment? = e.ailment? := rfl

@[simp] theorem objection?_after : (e.after p).objection? = e.objection? := rfl

@[simp] theorem burstsPerBuffer_after : (e.after p).burstsPerBuffer = e.burstsPerBuffer := rfl

@[simp] theorem writeTimeout_after : (e.after p).writeTimeout = e.writeTimeout := rfl

end Endpoint

@[simp] theorem Site.endpoint_after (s : Site) : (s.after p).endpoint = s.endpoint.after p := rfl

@[simp] theorem Site.channels_after (s : Site) : (s.after p).channels = p.channels s.channels := rfl

end Unchanged

namespace Device

variable (d : Device)

theorem note_after (call : Call) : (d.after p).note call = (d.note call).after p := by
  simp [note, after]

theorem close_after : (d.after p).close = d.close.after p := note_after p d .closed

theorem setBuffer_after (frames : UInt64) : (d.after p).setBuffer frames =
    ((d.setBuffer frames).1, (d.setBuffer frames).2.after p) :=
  Prod.ext rfl (note_after p d (.buffer frames))

theorem start_after (config : StreamConfig) : (d.after p).start config =
    ((d.start config).1, (d.start config).2.after p) := by
  simp only [start, plan_after, note_after]
  split <;> rfl

theorem write_after (samples : Array Sample) (frames timeout : UInt64) :
    (d.after p).write samples frames timeout =
      ((d.write samples frames timeout).1, (d.write samples frames timeout).2.after p) :=
  Prod.ext rfl (note_after p { d with script := d.script.tail } _)

end Device

namespace Channel

variable (c : Channel) (key : Nat)

theorem enter_after (e : StreamEvent) : (c.after p key).enter e = (c.enter e).after p key := by
  simp only [enter, state_after]
  split
  · exact congrArg (fun events => { c with state := e.entered, events })
      (p.told key c.events e).symm
  · rfl

theorem start_after : (c.after p key).start = c.start.map (·.after p key) := by
  simp only [start, state_after, enter_after]
  cases c.state <;> rfl

end Channel

theorem Mixing.take_after (m : Mixing) (key : Nat) :
    (m.after p).take key = (m.take key).after p := by
  obtain ⟨mixer, channels, underflows⟩ := m
  simp only [take, after, Past.getElem?_channels]
  cases mixer with
  | none => rfl
  | some mixer =>
    cases channels[key]? with
    | none => rfl
    | some c =>
      simp only [Option.map_some, Channel.isRunning_after, Channel.stepGain_after,
        Channel.ring_after, Channel.applied_after]
      split
      · split
        next share _ =>
          simp only [Channel.record_after, Past.setIfInBounds_channels]
        next => simp only [Past.setIfInBounds_channels]
      · rfl

theorem Mixing.foldl_take_after (m : Mixing) (keys : List Nat) :
    keys.foldl take (m.after p) = (keys.foldl take m).after p := by
  induction keys generalizing m with
  | nil => rfl
  | cons key keys ih => rw [List.foldl_cons, take_after, ih, List.foldl_cons]

namespace Site

variable (s : Site)

theorem note_after (line : String) : (s.after p).note line = (s.note line).after p := by
  simp only [note, after]

theorem announce_after (what : String) :
    (s.after p).announce what = (s.announce what).after p := s.note_after p _

theorem announce_of_after {s t : Site} (same : t = s.after p) (what : String) :
    t.announce what = (s.announce what).after p := by rw [same, announce_after]

theorem setLoop_after (loop : Loop) : (s.after p).setLoop loop = (s.setLoop loop).after p := by
  have same : (s.endpoint.after p).setLoop loop = (s.endpoint.setLoop loop).after p := by
    simp only [Endpoint.setLoop, Endpoint.after]
    split <;> rfl
  simp only [setLoop, after, same]

theorem modifyChannel_after (key : Nat) {change changed : Channel → Channel}
    (blind : ∀ c : Channel, change (c.after p key) = (changed c).after p key) :
    (s.after p).modifyChannel key change = (s.modifyChannel key changed).after p := by
  simp only [modifyChannel, after, Past.modify_channels p _ key blind]

theorem modifyRegistered_after {change : Channel → Channel}
    (blind : ∀ (c : Channel) key, change (c.after p key) = (change c).after p key) :
    (s.after p).modifyRegistered change = (s.modifyRegistered change).after p := by
  have all (keys : List Nat) (channels : Array Channel) :
      keys.foldl (fun all key => all.modify key change) (p.channels channels) =
        p.channels (keys.foldl (fun all key => all.modify key change) channels) := by
    induction keys generalizing channels with
    | nil => rfl
    | cons key keys ih => rw [List.foldl_cons, Past.modify_channels p _ key (blind · key), ih]; rfl
  simp only [modifyRegistered, after, Endpoint.registered_after, all]

theorem stopChannel_after (key : Nat) : (s.after p).modifyChannel key Channel.stop =
    (s.modifyChannel key Channel.stop).after p :=
  s.modifyChannel_after p key fun c => c.enter_after p key .stopped

theorem disconnectAll_after : (s.after p).disconnectAll = s.disconnectAll.after p :=
  s.modifyRegistered_after p fun c key => c.enter_after p key _

theorem faultAll_after (reason : String) :
    (s.after p).faultAll reason = (s.faultAll reason).after p :=
  s.modifyRegistered_after p fun c key => c.enter_after p key _

theorem find?_after (id : StreamId) : (s.after p).find? id = s.find? id := by
  have same (key : Nat) : (s.after p).idOf? key = s.idOf? key := by
    simp only [idOf?, after, Past.getElem?_channels, Option.map_map]
    rfl
  simp only [find?, same]
  rfl

theorem registered_after : (s.after p).registered = s.endpoint.registered.filterMap fun key =>
    s.channels[key]?.map (·.after p key) := by
  simp only [registered, after, Past.getElem?_channels]
  rfl

theorem ids_after : (s.after p).ids = s.ids := by
  rw [ids, registered_after, ids, registered]
  simp only [List.map_filterMap, Option.map_map]
  rfl

theorem any_registered_after {ask : Channel → Bool}
    (blind : ∀ (c : Channel) key, ask (c.after p key) = ask c) :
    (s.after p).registered.any ask = s.registered.any ask := by
  rw [registered_after, registered, List.any_filterMap, List.any_filterMap]
  congr 1
  funext key
  cases s.channels[key]? with
  | none => rfl
  | some c => exact blind c key

theorem running_after : (s.after p).running.isEmpty = s.running.isEmpty := by
  have any (t : Site) : t.running.isEmpty = !t.registered.any Channel.isRunning := by
    rw [Bool.eq_iff_iff]
    simp [running, List.isEmpty_iff, List.filter_eq_nil_iff]
  rw [any, any, s.any_registered_after p fun _ _ => rfl]

theorem mix_after (mixer : Mixer) :
    (s.after p).mix mixer = ((s.mix mixer).1, (s.mix mixer).2.after p) := by
  have mixed := Mixing.foldl_take_after p
    ⟨some mixer.clear, s.channels, s.endpoint.underflows⟩ s.endpoint.registered
  rw [Mixing.after] at mixed
  simp only [mix, endpoint_after, Endpoint.registered_after, channels_after,
    Endpoint.underflows_after, mixed]
  rfl

theorem continueLoop_after (mixer : Mixer) :
    (s.after p).continueLoop mixer = (s.continueLoop mixer).after p := by
  simp only [continueLoop, mix_after]
  rcases s.mix mixer with ⟨_ | next, t⟩
  · exact t.setLoop_after p _
  · exact t.setLoop_after p _

theorem deliver_after (params : HardwareParams) (mixer : Mixer) :
    (s.after p).deliver params mixer =
      ((s.deliver params mixer).1, (s.deliver params mixer).2.after p) := by
  simp only [deliver, endpoint_after, Endpoint.device_after, Endpoint.writeTimeout_after,
    Device.write_after]
  split <;> rfl

theorem finish_after (exit : LoopExit) : (s.after p).finish exit = (s.finish exit).after p := by
  cases exit with
  | stopped => rfl
  | disconnected => simp only [finish, disconnectAll_after]; rfl
  | shortWrite written requested => simp only [finish, faultAll_after]; rfl
  | writeFailed reason => simp only [finish, faultAll_after]; rfl

theorem joinPanicked_after (flag : Bool) :
    (s.after p).joinPanicked flag = (s.joinPanicked flag).after p := by
  simp only [joinPanicked, faultAll_after]
  exact setLoop_after p { s.faultAll panicReason with
    endpoint := { (s.faultAll panicReason).endpoint with
      health := .faulted
      lastExit := some (.writeFailed panicReason) } } _

theorem grant?_after : (s.after p).grant? = s.grant?.map (·.after p) := by
  simp only [grant?, endpoint_after, Endpoint.phase_after]
  split
  next params _ mixer _ =>
    simp only [deliver_after]
    rcases s.deliver params mixer with ⟨_ | exit | _, t⟩
    · simp only [continueLoop_after, Option.map_some]
    · simp only [finish_after, setLoop_after, Option.map_some]
    · simp only [setLoop_after, Option.map_some]
  next => rfl

theorem grantUpTo_after (n granted : Nat) : (s.after p).grantUpTo n granted =
    ((s.grantUpTo n granted).1, (s.grantUpTo n granted).2.after p) := by
  induction n generalizing s granted with
  | zero => rfl
  | succ n ih =>
    simp only [grantUpTo, grant?_after]
    cases s.grant? with
    | none => rfl
    | some t => exact ih t (granted + 1)

theorem halt_after : (s.after p).halt = s.halt.after p := by
  simp only [halt, endpoint_after, Endpoint.phase_after]
  split
  · rfl
  next line _ =>
    split
    · rfl
    · exact s.setLoop_after p _
    · simp only [setLoop_after, announce_after]
    · simp only [joinPanicked_after, announce_after]
    next mixer _ =>
      simp only [deliver_after]
      rcases s.deliver line.params mixer with ⟨_ | exit | _, t⟩
      · simp only [finish_after, setLoop_after, announce_after]
      · simp only [finish_after, setLoop_after, announce_after]
      · simp only [joinPanicked_after, announce_after]

theorem launch?_after :
    (s.after p).launch? = s.launch?.map fun (answer, t) => (answer, t.after p) := by
  have begun (params : HardwareParams) (mixer : Mixer) (t : Site) :
      (t.after p).begin? params mixer =
        (t.begin? params mixer).map fun (answer, u) => (answer, u.after p) := by
    simp only [begin?, endpoint_after, Endpoint.options_after, Endpoint.device_after,
      Device.plan_after, announce_after, continueLoop_after, Option.map_map]
    congr 1
    funext timeout
    cases t.endpoint.device.plan.spawnError <;> rfl
  simp only [launch?, endpoint_after, Endpoint.phase_after]
  split
  · rfl
  next line _ =>
    split
    · rfl
    · exact begun _ _ s
    · rfl
    next mixer _ =>
      simp only [setLoop_after]
      rw [endpoint_after, Endpoint.ailment?_after]
      split
      · rfl
      · exact begun _ _ _
    · simp only [joinPanicked_after]
      rfl

theorem openStream?_after :
    (s.after p).openStream? = s.openStream?.map fun (answer, t) => (answer, t.after p) := by
  simp only [openStream?, endpoint_after, Endpoint.phase_after, Endpoint.device_after,
    Endpoint.config_after, Device.start_after]
  split
  · rfl
  · rfl
  · rcases s.endpoint.device.start s.endpoint.config with ⟨error | params, device⟩
    · rfl
    · simp only [Endpoint.objection?_after, Endpoint.burstsPerBuffer_after, Device.close_after,
        Device.setBuffer_after]
      split
      · rfl
      · rcases Word.mul? s.endpoint.burstsPerBuffer params.burst with _ | frames
        · rfl
        · rcases Mixer.new? s.endpoint.config.channels params.burst with _ | mixer
          · rfl
          · exact congrArg some (Prod.ext rfl (announce_of_after p (by rfl) _))

theorem closeStream_after : (s.after p).closeStream =
    (s.closeStream.1, s.closeStream.2.after p) := by
  have stopped (t : Site) :
      (t.after p).modifyRegistered Channel.stop = (t.modifyRegistered Channel.stop).after p :=
    t.modifyRegistered_after p fun c key => c.enter_after p key .stopped
  simp only [closeStream, endpoint_after, Endpoint.phase_after, halt_after,
    stopped]
  split
  · rfl
  · refine Prod.ext rfl ?_
    simp only [Endpoint.line?_after,
      Endpoint.device_after,
      Device.close_after]
    split
    · exact announce_of_after p (by rfl) _
    · exact announce_of_after p (by rfl) _

theorem register_after (key : Nat) (c : Channel) : (s.after p).register key c =
    ((s.register key c).1, (s.register key c).2.after p) := by
  simp only [register, ids_after, endpoint_after, Endpoint.isOpen_after, Endpoint.config_after,
    Endpoint.options_after, Endpoint.registered_after]
  split
  · rfl
  · split
    · rfl
    · split
      · rfl
      · split <;> rfl

theorem stopKey_after (key : Nat) : (s.after p).stopKey key = (s.stopKey key).after p := by
  have running : (s.after p).channels[key]?.any Channel.isRunning =
      s.channels[key]?.any Channel.isRunning := by
    rw [channels_after, Past.getElem?_channels]
    cases s.channels[key]? <;> rfl
  simp only [stopKey, running, stopChannel_after, running_after, halt_after]
  split
  · split <;> rfl
  · rfl

theorem unregister_after (id : StreamId) :
    (s.after p).unregister id = (s.unregister id).after p := by
  simp only [unregister, find?_after]
  split
  · rfl
  next key _ => exact (s.without key).stopKey_after p key

theorem start?_after (id : StreamId) :
    (s.after p).start? id = (s.start? id).map fun (answer, t) => (answer, t.after p) := by
  have started (key : Nat) : (s.after p).channels[key]?.map Channel.start =
      (s.channels[key]?.map Channel.start).map fun r => r.map (·.after p key) := by
    rw [channels_after, Past.getElem?_channels,
      Option.map_map, Option.map_map]
    congr 1
    funext c
    exact c.start_after p key
  have entered (key : Nat) (c : Channel) : ((s.after p).modifyChannel key fun _ => c.after p key) =
      (s.modifyChannel key fun _ => c).after p := s.modifyChannel_after p key fun _ => rfl
  simp only [start?, find?_after, started, endpoint_after, Endpoint.isOpen_after,
    Endpoint.ailment?_after]
  split
  · rfl
  · split
    · rfl
    · split
      · rfl
      next key _ =>
        rcases s.channels[key]?.map Channel.start with _ | error | c
        · rfl
        · rfl
        · simp only [Option.map_some, Except.map, entered, launch?_after]
          rcases (s.modifyChannel key fun _ => c).launch? with _ | ⟨error | _, t⟩
          · rfl
          · simp only [Option.map_some, stopChannel_after]
          · rfl

theorem stop_after (id : StreamId) : (s.after p).stop id =
    ((s.stop id).1, (s.stop id).2.after p) := by
  simp only [stop, find?_after, stopKey_after, endpoint_after, Endpoint.isOpen_after]
  split
  · rfl
  · split <;> rfl

theorem setVolume_after (id : StreamId) (volume : Sample) : (s.after p).setVolume id volume =
    ((s.setVolume id volume).1, (s.setVolume id volume).2.after p) := by
  have aimed (key : Nat) (bursts : UInt32) :
      (s.after p).modifyChannel key (Channel.setVolume volume bursts) =
        (s.modifyChannel key (Channel.setVolume volume bursts)).after p :=
    s.modifyChannel_after p key fun _ => rfl
  simp only [setVolume, find?_after, aimed, endpoint_after, Endpoint.options_after]
  split <;> rfl

end Site

end SharedAudio

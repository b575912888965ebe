import SharedAudio.Proofs.Endpoint.Work

namespace SharedAudio

namespace Endpoint

def Panicked (e : Endpoint) : Prop := ∃ line, e.phase = .opened line ∧ line.loop = .panicked

def Rests (e f : Endpoint) : Prop :=
  e.streaming = false → f.streaming = false ∧ f.handed = e.handed

theorem Rests.refl (e : Endpoint) : e.Rests e := fun quiet => ⟨quiet, rfl⟩

theorem Rests.trans {e f g : Endpoint} (h : e.Rests f) (k : f.Rests g) : e.Rests g := by
  intro quiet
  obtain ⟨still, same⟩ := h quiet
  obtain ⟨still', same'⟩ := k still
  exact ⟨still', same'.trans same⟩

end Endpoint

namespace Site

variable {s t : Site} {key : Nat} {act : Site → Site}

section Rests

theorem streaming_closeStream (s : Site) : s.closeStream.2.endpoint.streaming = false :=
  Endpoint.streaming_of_closed s.isOpen_closeStream

theorem rests_opened (s : Site) : s.endpoint.Rests s.opened.endpoint := by
  intro quiet
  rcases s.opened_cases with ⟨device, same, eq⟩ | ⟨params, buffer, device, -, -, same, -, endpoint⟩
  · rw [eq]
    exact ⟨quiet, same⟩
  · rw [endpoint]
    exact ⟨rfl, same⟩

theorem Halted.rests (h : s.Halted t) : s.endpoint.Rests t.endpoint := by
  intro quiet
  refine ⟨h.streaming, ?_⟩
  cases h with
  | resting => rfl
  | lost => exact Endpoint.handed_setLoop
  | ended =>
    rw [endpoint_announce]
    exact Endpoint.handed_setLoop
  | panicked line opened loop | written line _ _ _ _ opened loop | died line _ _ opened loop =>
    rw [Endpoint.streaming_of_opened opened, loop] at quiet
    cases quiet

theorem Granted.rests (h : s.Granted t) : s.endpoint.Rests t.endpoint := by
  intro quiet
  cases h with
  | delivered line _ _ opened loop | failed line _ _ _ opened loop | died line _ _ opened loop =>
    rw [Endpoint.streaming_of_opened opened, loop] at quiet
    cases quiet

theorem steady_rests (e : Endpoint) : Steady e.Rests where
  device f device calls rests quiet := by
    obtain ⟨still, same⟩ := rests quiet
    refine ⟨still, ?_⟩
    rw [← same, Endpoint.handed, Endpoint.handed, Device.bursts, Device.bursts, calls]
  listed _ _ rests := rests
  granted _ _ granted rests := rests.trans granted.rests
  halted _ _ halted rests := rests.trans halted.rests
  closed f line _ _ rests quiet := ⟨rfl, (f.handed_shut line).trans (rests quiet).2⟩

theorem Work.rests (h : Work act) (s : Site) : s.endpoint.Rests (act s).endpoint :=
  h.steady (steady_rests s.endpoint) (.refl _)

theorem Launched.rests_of_error {error : EndpointError} (h : s.Launched (.error error) t) :
    s.endpoint.Rests t.endpoint := by
  intro quiet
  cases h with
  | unable => exact ⟨quiet, rfl⟩
  | ailing line mixer _ opened loop =>
    refine ⟨Endpoint.streaming_setLoop (Endpoint.isOpen_of_opened opened), ?_⟩
    rw [endpoint_setLoop, Endpoint.handed_setLoop]
  | joined line _ opened loop =>
    rw [Endpoint.streaming_of_opened opened, loop] at quiet
    cases quiet

theorem rests_start {id : StreamId} (h : (s.start? id).map (·.1) ≠ some (.ok ())) :
    s.endpoint.Rests (s.started id).endpoint := by
  rcases s.start_cases id with
    ⟨_, eq⟩ | ⟨key, c, -, -, -, -, -, answer, t, launched, answered, eq⟩
  · rw [eq]
    exact .refl _
  · cases answer with
    | ok => exact absurd answered h
    | error error =>
      rw [eq]
      exact launched.rests_of_error

end Rests

def Stray (s : Site) : Prop := s.endpoint.streaming = true ∧ s.Silent

namespace Stray

theorem before (stray : t.Stray)
    (streaming : t.endpoint.streaming = true → s.endpoint.streaming = true)
    (kept : ∀ key ∈ s.endpoint.registered, s.Runs key → key ∈ t.endpoint.registered ∧ t.Runs key) :
    s.Stray := by
  refine ⟨streaming stray.1, fun key member running => ?_⟩
  obtain ⟨still, runs⟩ := kept key member running
  exact stray.2 key still runs

end Stray

theorem not_stray (h : s.endpoint.streaming = false) : ¬ s.Stray := by
  rintro ⟨streaming, -⟩
  rw [h] at streaming
  cases streaming

theorem state_continueLoop (s : Site) (mixer : Mixer) (key : Nat) :
    (s.continueLoop mixer).channels[key]?.map (·.state) = s.channels[key]?.map (·.state) := by
  have mixed := s.state_mix mixer key
  rw [continueLoop]
  split
  next eq =>
    rw [eq] at mixed
    exact mixed
  next eq =>
    rw [eq] at mixed
    exact mixed

theorem Granted.stray (h : s.Granted t) (stray : t.Stray) : s.Stray := by
  have registered := h.eases.registered
  cases h with
  | delivered line mixer u opened loop delivered =>
    refine stray.before (fun _ => ?_) fun key member running => ⟨registered ▸ member, ?_⟩
    · rw [Endpoint.streaming_of_opened opened, loop, Loop.streaming]
    · rw [runs_iff] at running ⊢
      rw [state_continueLoop, delivered.channels, running]
  | failed line mixer exit u opened loop delivered =>
    have eases := delivered.eases.trans (eases_finish u exit)
    refine absurd stray (not_stray ?_)
    exact Endpoint.streaming_setLoop (eases.isOpen.trans (Endpoint.isOpen_of_opened opened))
  | died line mixer u opened loop delivered =>
    refine stray.before (fun _ => ?_) fun key member running => ⟨registered ▸ member, ?_⟩
    · rw [Endpoint.streaming_of_opened opened, loop, Loop.streaming]
    · rw [runs_iff] at running ⊢
      rw [channels_setLoop, delivered.channels, running]

theorem stray_grantUpTo {n granted : Nat} (stray : (s.grantUpTo n granted).2.Stray) : s.Stray :=
  grantUpTo_induction (P := fun t => t.Stray → s.Stray)
    (fun granted before stray => before (granted.stray stray)) (fun stray => stray) n granted stray

theorem stopKey_of_stray (stray : (s.stopKey key).Stray) :
    ¬ s.Runs key ∧ s.stopKey key = s := by
  rcases s.stopKey_cases key with same | ⟨t, rfl, ⟨busy, eq⟩ | ⟨-, eq⟩⟩
  · exact same
  · rw [eq] at stray
    exact absurd stray.2 busy
  · rw [eq] at stray
    exact absurd stray (not_stray (halted_halt _).streaming)

theorem stray_without (stray : (s.without key).Stray) (idle : ¬ s.Runs key) : s.Stray := by
  refine ⟨stray.1, fun other member running => ?_⟩
  have different : other ≠ key := by
    rintro rfl
    exact idle running
  exact stray.2 other ((List.mem_erase_of_ne different).mpr member) running

theorem stray_stop {id : StreamId} (stray : (s.stop id).2.Stray) : s.Stray := by
  rcases s.stop_cases id with ⟨_, eq⟩ | ⟨key, -, -, eq⟩
  · rwa [eq] at stray
  · rw [eq] at stray
    exact (stopKey_of_stray stray).2 ▸ stray

theorem stray_unregister {id : StreamId} (stray : (s.unregister id).Stray) : s.Stray := by
  cases found : s.find? id with
  | none => rwa [unregister_of_unknown found] at stray
  | some key =>
    rw [unregister_of_find? found] at stray
    obtain ⟨idle, eq⟩ := stopKey_of_stray stray
    rw [eq] at stray
    exact stray_without stray idle

theorem stray_register {c : Channel} (stray : (s.register key c).2.Stray) : s.Stray := by
  rcases s.register_cases key c with eq | ⟨-, -, -, eq⟩
  · rwa [eq] at stray
  · rw [eq] at stray
    exact stray.before id fun other member running => ⟨List.mem_append_left _ member, running⟩

theorem stray_setVolume {id : StreamId} {volume : Sample}
    (stray : (s.setVolume id volume).2.Stray) : s.Stray := by
  rcases s.setVolume_cases id volume with ⟨_, eq⟩ | ⟨key, -, eq⟩
  · rwa [eq] at stray
  · rw [eq] at stray
    refine stray.before (fun streaming => streaming) fun other member running => ⟨member, ?_⟩
    rw [runs_iff] at running ⊢
    rw [getElem?_modifyChannel, ← running]
    split
    · cases s.channels[other]? <;> rfl
    · rfl

theorem stray_opened (stray : s.opened.Stray) : s.Stray := by
  rcases s.opened_cases with ⟨device, -, eq⟩ | ⟨params, buffer, device, -, -, -, -, endpoint⟩
  · rw [eq] at stray
    exact stray.before id fun other member running => ⟨member, running⟩
  · refine absurd stray (not_stray ?_)
    rw [endpoint]
    rfl

theorem Work.stray (h : Work act) (stray : (act s).Stray) : s.Stray := by
  cases h with
  | device change => exact stray.before id fun other member running => ⟨member, running⟩
  | grant n => exact stray_grantUpTo stray
  | close => exact absurd stray (not_stray s.streaming_closeStream)
  | register key c => exact stray_register stray
  | unregister id => exact stray_unregister stray
  | stop id => exact stray_stop stray
  | setVolume id volume => exact stray_setVolume stray

theorem Launched.state_of_ok (h : s.Launched (.ok ()) t) (key : Nat) :
    t.channels[key]?.map (·.state) = s.channels[key]?.map (·.state) := by
  cases h with
  | already => rfl
  | begun _ mixer => rw [state_continueLoop, channels_announce, channels_setLoop]

theorem runs_started {c : Channel} (found : s.channels[key]? = some c)
    (starts : (c.enter .started).isRunning = true) :
    (s.modifyChannel key fun _ => c.enter .started).Runs key :=
  ⟨c.enter .started, by rw [getElem?_modifyChannel, if_pos rfl, found]; rfl, starts⟩

theorem stray_start {id : StreamId} (served : s.Served) (stray : (s.started id).Stray) :
    s.Stray ∨ s.endpoint.Panicked := by
  rcases s.start_cases id with
    ⟨_, eq⟩ | ⟨key, c, found, present, -, -, starts, answer, t, launched, -, eq⟩
  · rw [eq] at stray
    exact .inl stray
  rw [eq] at stray
  cases answer with
  | ok _ =>
    have running : t.Runs key := by
      have begun := runs_started present starts
      rw [runs_iff] at begun ⊢
      rw [launched.state_of_ok, begun]
    have member : key ∈ s.endpoint.registered := find?_mem found
    exact absurd running (stray.2 key (launched.eases.registered ▸ member))
  | error error =>
    cases launched with
    | unable _ quiet =>
      refine .inl ⟨stray.1, fun other member running => ?_⟩
      have busy : s.endpoint.runs = true := served other member running
      rw [show s.endpoint.runs = false from quiet] at busy
      cases busy
    | ailing line mixer _ opened loop =>
      refine absurd stray (not_stray ?_)
      exact Endpoint.streaming_setLoop (Endpoint.isOpen_of_opened opened)
    | joined line _ opened loop => exact .inr ⟨line, opened, loop⟩

theorem streaming_stop_of_stray {id : StreamId} (stray : s.Stray) :
    (s.stop id).2.endpoint.streaming = true := by
  rcases s.stop_cases id with ⟨_, eq⟩ | ⟨key, -, found, eq⟩
  · rw [eq]
    exact stray.1
  · rw [eq, stopKey_of_not_runs (stray.2 key (find?_mem found))]
    exact stray.1

theorem streaming_unregister_of_stray {id : StreamId} (stray : s.Stray) :
    (s.unregister id).endpoint.streaming = true := by
  cases found : s.find? id with
  | none =>
    rw [unregister_of_unknown found]
    exact stray.1
  | some key =>
    have idle : ¬ (s.without key).Runs key := stray.2 key (find?_mem found)
    rw [unregister_of_find? found, stopKey_of_not_runs idle]
    exact stray.1

end Site

end SharedAudio

import SharedAudio.Proofs.Endpoint.Opening
import SharedAudio.Proofs.Endpoint.Work
import SharedAudio.Proofs.Hardware.Writes

namespace SharedAudio

namespace Endpoint

structure Accounted (e : Endpoint) : Prop where
  bursts : e.bursts = .ofNat (e.device.recent.countP Write.delivers)
  frames : ∀ burst ∈ e.burst?, ∀ w ∈ e.device.recent, w.frames = burst

variable {e f : Endpoint} {line : Line}

theorem burst?_of_opened (h : e.phase = .opened line) : e.burst? = some line.params.burst := by
  rw [burst?, line?, h]
  rfl

@[simp] theorem burst?_setLoop (e : Endpoint) (loop : Loop) :
    (e.setLoop loop).burst? = e.burst? := by
  cases phase : e.phase with
  | closed owned => rw [setLoop, phase]
  | opened line => rw [burst?_of_opened (phase_setLoop phase loop), burst?_of_opened phase]

namespace Accounted

theorem fresh {config : StreamConfig} {options : Options} {device : Device}
    (unused : device.calls = #[]) : Accounted { config, options, device } where
  bursts := by simp [Device.recent, unused]
  frames _ opened := by cases opened

theorem congr (h : e.Accounted) (calls : f.device.calls = e.device.calls)
    (bursts : f.bursts = e.bursts) (burst : f.burst? = e.burst?) : f.Accounted where
  bursts := by rw [bursts, Device.recent_congr calls, h.bursts]
  frames := by
    rw [burst, Device.recent_congr calls]
    exact h.frames

theorem noted (h : e.Accounted) (call : Call) (calls : f.device.calls = e.device.calls.push call)
    (quiet : call.write? = none) (within : call.sizes = false) (bursts : f.bursts = e.bursts)
    (closed : f.burst? = none) : f.Accounted where
  bursts := by
    rw [bursts, Device.recent_of_push calls, quiet, within, h.bursts]
    rfl
  frames burst opened := by
    rw [closed] at opened
    cases opened

theorem setLoop (h : e.Accounted) (loop : Loop) : (e.setLoop loop).Accounted := by
  refine h.congr ?_ bursts_setLoop (e.burst?_setLoop loop)
  rw [device_setLoop]

theorem shut (h : e.Accounted) (line : Line) : (e.shut line).Accounted := by
  cases owned : line.loop.mixer?.isSome with
  | true => exact h.noted .closed (by simp [Endpoint.shut, owned]) rfl rfl rfl rfl
  | false =>
    refine ⟨?_, fun burst opened => by cases opened⟩
    simpa [Endpoint.shut, owned] using h.bursts

end Accounted

end Endpoint

namespace Site

variable {s t : Site} {line : Line} {mixer : Mixer}

theorem Delivered.accounted {delivery : Delivery} (h : s.Delivered line.params mixer delivery t)
    (opened : s.endpoint.phase = .opened line) (before : s.endpoint.Accounted) :
    t.endpoint.Accounted := by
  obtain ⟨answer, rfl, calls⟩ := h.call
  have recent := Device.recent_of_push calls
  rw [if_neg (by simp [Call.sizes])] at recent
  refine ⟨?_, fun burst same w member => ?_⟩
  · have delivers : Delivery.ofAnswer line.params.burst answer = .delivered ↔
        answer = .accepted line.params.burst := Delivery.ofAnswer_eq_delivered
    rw [recent, h.counted, before.bursts]
    by_cases whole : answer = .accepted line.params.burst
    · rw [if_pos (delivers.mpr whole)]
      simp [Call.write?, Write.delivers, whole, UInt64.ofNat_add]
    · rw [if_neg (mt delivers.mp whole)]
      simp [Call.write?, Write.delivers, whole]
  · have still : t.endpoint.burst? = s.endpoint.burst? := by
      rw [Endpoint.burst?, Endpoint.line?, h.phase, Endpoint.burst?, Endpoint.line?]
    rw [still] at same
    rw [recent] at member
    rcases List.mem_append.mp member with new | old
    · rw [Endpoint.burst?_of_opened opened] at same
      cases same
      rw [List.mem_singleton.mp new]
    · exact before.frames burst same w old

theorem accounted_finish (h : s.endpoint.Accounted) (exit : LoopExit) :
    (s.finish exit).endpoint.Accounted := by
  obtain ⟨health, endpoint⟩ := s.endpoint_finish exit
  rw [endpoint]
  exact h.congr rfl rfl rfl

theorem accounted_joinPanicked (h : s.endpoint.Accounted) (flag : Bool) :
    (s.joinPanicked flag).endpoint.Accounted := by
  have faulted : Endpoint.Accounted { (s.faultAll panicReason).endpoint with
      health := .faulted
      lastExit := some (.writeFailed panicReason) } := h.congr rfl rfl rfl
  exact faulted.setLoop _

theorem accounted_continueLoop (h : s.endpoint.Accounted) (mixer : Mixer) :
    (s.continueLoop mixer).endpoint.Accounted := by
  obtain ⟨loop, underflows, -, -, endpoint⟩ := s.endpoint_continueLoop mixer
  have counted : Endpoint.Accounted { s.endpoint with underflows } := h.congr rfl rfl rfl
  rw [endpoint]
  exact counted.setLoop loop

theorem Granted.accounted (h : s.Granted t) (before : s.endpoint.Accounted) :
    t.endpoint.Accounted := by
  cases h with
  | delivered line mixer u opened loop delivered =>
    exact accounted_continueLoop (delivered.accounted opened before) mixer
  | failed line mixer exit u opened loop delivered =>
    exact (accounted_finish (delivered.accounted opened before) exit).setLoop _
  | died line mixer u opened loop delivered => exact (delivered.accounted opened before).setLoop _

theorem Halted.accounted (h : s.Halted t) (before : s.endpoint.Accounted) :
    t.endpoint.Accounted := by
  cases h with
  | resting => exact before
  | lost => exact before.setLoop _
  | ended =>
    rw [endpoint_announce]
    exact before.setLoop _
  | panicked =>
    rw [endpoint_announce]
    exact accounted_joinPanicked before false
  | written line mixer delivery exit u opened loop delivered =>
    rw [endpoint_announce]
    exact (accounted_finish (delivered.accounted opened before) exit).setLoop _
  | died line mixer u opened loop delivered =>
    rw [endpoint_announce]
    exact accounted_joinPanicked (delivered.accounted opened before) false

theorem steady_accounted : Steady Endpoint.Accounted where
  device _ _ calls accounted := accounted.congr calls rfl rfl
  listed _ _ accounted := accounted.congr rfl rfl rfl
  granted _ _ granted := granted.accounted
  halted _ _ halted := halted.accounted
  closed _ line _ _ accounted := accounted.shut line

theorem accounted_opened (h : s.endpoint.Accounted) : s.opened.endpoint.Accounted := by
  rcases s.opening_opened with eq | ⟨answer, opening⟩
  · rw [eq]
    exact h
  generalize s.opened = t at opening ⊢
  have shut {e : Endpoint} (phase : s.endpoint.phase = .closed true)
      (same : e.phase = s.endpoint.phase) : e.burst? = none := by
    rw [Endpoint.burst?, Endpoint.line?, same, phase]
    rfl
  cases opening with
  | barred => exact h
  | refused error phase => exact h.noted .opened rfl rfl rfl rfl (shut phase rfl)
  | rejected params reason phase =>
    have opened : Endpoint.Accounted
        { s.endpoint with device := s.endpoint.device.note .opened } :=
      h.noted .opened rfl rfl rfl rfl (shut phase rfl)
    exact opened.noted .closed rfl rfl rfl rfl (shut phase rfl)
  | opened params frames _ _ _ _ _ _ _ endpoint =>
    have recent := Device.recent_of_push
      ((s.endpoint.device.note .opened).calls_setBuffer frames)
    rw [if_pos (by rfl)] at recent
    rw [endpoint]
    exact ⟨by rw [recent]; rfl, fun _ _ w member => by rw [recent] at member; cases member⟩

theorem accounted_start (h : s.endpoint.Accounted) (id : StreamId) :
    (s.started id).endpoint.Accounted := by
  rcases s.start_cases id with ⟨_, eq⟩ | ⟨key, c, -, -, -, -, -, answer, t, launched, -, eq⟩
  · rw [eq]
    exact h
  have started : (s.modifyChannel key fun _ => c.enter .started).endpoint.Accounted := h
  have after : t.endpoint.Accounted := by
    cases launched with
    | unable | already => exact started
    | ailing => exact started.setLoop _
    | joined => exact accounted_joinPanicked started true
    | begun line mixer =>
      refine accounted_continueLoop ?_ mixer
      rw [endpoint_announce]
      exact started.setLoop _
  rw [eq]
  cases answer with
  | ok _ => exact after
  | error error => exact after

end Site

end SharedAudio

import SharedAudio.Proofs.Hardware.Visit
import SharedAudio.Proofs.Endpoint.Failure
import SharedAudio.Proofs.Endpoint.Latch
import SharedAudio.Proofs.Endpoint.Shape

namespace SharedAudio

section Spoilt

theorem foldl_spoils_writes (writes : List Write) (spoilt : Bool) :
    (writes.map Write.call).foldl Call.spoils spoilt =
      (spoilt || writes.any fun w => w.answer != .accepted w.frames) := by
  induction writes generalizing spoilt with
  | nil => simp
  | cons w writes ih =>
    rw [List.map_cons, List.foldl_cons, ih, List.any_cons, ← Bool.or_assoc]
    rfl

theorem spoilt_of_served {d : Device} {before : List Visit} {params : HardwareParams}
    {buffer : UInt64} {writes : List Write}
    (calls : d.calls.toList =
      (before ++ [Visit.served params buffer writes false]).flatMap Visit.calls) :
    d.spoilt = writes.any fun w => w.answer != .accepted w.frames := by
  rw [Device.spoilt, ← Array.foldl_toList, calls, List.flatMap_append, List.foldl_append]
  simp only [List.flatMap_cons, List.flatMap_nil, List.append_nil, Visit.calls, List.foldl_cons,
    Bool.false_eq_true, if_false]
  rw [foldl_spoils_writes]
  rfl

end Spoilt

namespace Endpoint

structure Engaged (e : Endpoint) (visits : List Visit) : Prop where
  calls : e.device.calls.toList = visits.flatMap Visit.calls
  lawful : ∀ v ∈ visits, v.Lawful e.config e.options
  complete : ∀ v ∈ visits.dropLast, v.Over
  left : e.phase = .closed true → ∀ v ∈ visits, v.Over
  serving : ∀ line, e.phase = .opened line → ∃ before buffer writes,
    visits = before ++ [.served line.params buffer writes false] ∧
      (line.loop.mixer?.isSome = true → ∀ w ∈ writes, w.answer ≠ .panicked)

variable {e f : Endpoint} {visits : List Visit} {line : Line} {loop : Loop} {w : Write}

theorem engaged_fresh {config : StreamConfig} {options : Options} {device : Device}
    (unused : device.calls = #[]) :
    Engaged { config, options, device } [] where
  calls := by
    dsimp only
    rw [unused]
    rfl
  lawful _ member := by cases member
  complete _ member := by cases member
  left _ _ member := by cases member
  serving _ opened := by cases opened

namespace Engaged

theorem congr (h : e.Engaged visits) (calls : f.device.calls = e.device.calls)
    (config : f.config = e.config) (options : f.options = e.options) (phase : f.phase = e.phase) :
    f.Engaged visits where
  calls := calls ▸ h.calls
  lawful := by
    rw [config, options]
    exact h.lawful
  complete := h.complete
  left closed := h.left (phase ▸ closed)
  serving line opened := h.serving line (phase ▸ opened)

theorem relooped (h : e.Engaged visits) (opened : e.phase = .opened line)
    (after : f.phase = .opened { line with loop }) (calls : f.device.calls = e.device.calls)
    (config : f.config = e.config) (options : f.options = e.options)
    (kept : loop.mixer?.isSome = true → line.loop.mixer?.isSome = true) : f.Engaged visits where
  calls := calls ▸ h.calls
  lawful := by
    rw [config, options]
    exact h.lawful
  complete := h.complete
  left closed := by
    rw [after] at closed
    cases closed
  serving line' opened' := by
    rw [after] at opened'
    cases opened'
    obtain ⟨before, buffer, writes, eq, alive⟩ := h.serving line opened
    exact ⟨before, buffer, writes, eq, alive ∘ kept⟩

theorem written (h : e.Engaged visits) (opened : e.phase = .opened line)
    (after : f.phase = .opened { line with loop }) (unspoilt : e.device.spoilt = false)
    (calls : f.device.calls = e.device.calls.push w.call) (config : f.config = e.config)
    (options : f.options = e.options) (lawful : w.Lawful e.config e.options line.params)
    (had : line.loop.mixer?.isSome = true)
    (alive : loop.mixer?.isSome = true → w.answer ≠ .panicked) :
    ∃ next, f.Engaged next ∧ next.map Visit.answer = visits.map Visit.answer := by
  obtain ⟨before, buffer, writes, rfl, quiet⟩ := h.serving line opened
  obtain ⟨suits, fits, -, -⟩ := h.lawful (.served line.params buffer writes false) (by simp)
  have accepted : ∀ v ∈ writes, v.answer = .accepted line.params.burst := by
    rw [spoilt_of_served h.calls, List.any_eq_false] at unspoilt
    intro v member
    rw [← (fits v member).frames]
    simpa using unspoilt v member
  refine ⟨before ++ [.served line.params buffer (writes ++ [w]) false], ⟨?_, ?_, ?_, ?_, ?_⟩, ?_⟩
  · rw [calls, Array.toList_push, h.calls]
    simp [Visit.calls]
  · rw [config, options]
    intro v member
    rcases List.mem_append.mp member with earlier | last
    · exact h.lawful v (List.mem_append_left _ earlier)
    · rw [List.mem_singleton.mp last]
      refine ⟨suits, fun v member => ?_, ?_, by simp⟩
      · rcases List.mem_append.mp member with old | new
        · exact fits v old
        · rw [List.mem_singleton.mp new]
          exact lawful
      · rwa [List.dropLast_concat]
  · have complete := h.complete
    rw [List.dropLast_concat] at complete ⊢
    exact complete
  · intro closed
    rw [after] at closed
    cases closed
  · intro line' opened'
    rw [after] at opened'
    cases opened'
    refine ⟨before, buffer, writes ++ [w], rfl, fun has v member => ?_⟩
    rcases List.mem_append.mp member with old | new
    · exact quiet had v old
    · rw [List.mem_singleton.mp new]
      exact alive has
  · simp [Visit.answer]

theorem shut (h : e.Engaged visits) (opened : e.phase = .opened line) :
    ∃ next, (e.shut line).Engaged next ∧ next.map Visit.answer = visits.map Visit.answer := by
  obtain ⟨before, buffer, writes, rfl, alive⟩ := h.serving line opened
  have complete := h.complete
  rw [List.dropLast_concat] at complete
  cases owned : line.loop.mixer?.isSome with
  | true =>
    obtain ⟨suits, fits, accepted, -⟩ :=
      h.lawful (.served line.params buffer writes false) (by simp)
    refine ⟨before ++ [.served line.params buffer writes true], ⟨?_, ?_, ?_, ?_, ?_⟩, ?_⟩
    · rw [Endpoint.shut, owned, if_pos rfl]
      dsimp only
      rw [Device.calls_close, Array.toList_push, h.calls]
      simp [Visit.calls]
    · intro v member
      rcases List.mem_append.mp member with earlier | last
      · exact h.lawful v (List.mem_append_left _ earlier)
      · rw [List.mem_singleton.mp last]
        exact ⟨suits, fits, accepted, fun _ => alive owned⟩
    · rwa [List.dropLast_concat]
    · intro _ v member
      rcases List.mem_append.mp member with earlier | last
      · exact complete v earlier
      · rw [List.mem_singleton.mp last]
        rfl
    · intro _ reopened
      cases reopened
    · simp [Visit.answer]
  | false =>
    refine ⟨before ++ [.served line.params buffer writes false],
      ⟨?_, h.lawful, h.complete, ?_, ?_⟩, rfl⟩
    · rw [Endpoint.shut, owned, if_neg (by simp)]
      exact h.calls
    · intro closed
      rw [Endpoint.shut, owned] at closed
      cases closed
    · intro _ reopened
      cases reopened

theorem visit (h : e.Engaged visits) (closed : e.phase = .closed true) {v : Visit}
    (calls : f.device.calls.toList = e.device.calls.toList ++ v.calls)
    (config : f.config = e.config) (options : f.options = e.options)
    (lawful : v.Lawful e.config e.options) (left : f.phase = .closed true → v.Over)
    (serving : ∀ line, f.phase = .opened line → ∃ buffer, v = .served line.params buffer [] false) :
    f.Engaged (visits ++ [v]) where
  calls := by
    rw [calls, h.calls]
    simp
  lawful := by
    rw [config, options]
    intro u member
    rcases List.mem_append.mp member with earlier | last
    · exact h.lawful u earlier
    · rw [List.mem_singleton.mp last]
      exact lawful
  complete := by
    rw [List.dropLast_concat]
    exact h.left closed
  left still u member := by
    rcases List.mem_append.mp member with earlier | last
    · exact h.left closed u earlier
    · rw [List.mem_singleton.mp last]
      exact left still
  serving line opened := by
    obtain ⟨buffer, rfl⟩ := serving line opened
    exact ⟨visits, buffer, [], rfl, fun _ _ member => by cases member⟩

end Engaged

theorem objection?_eq_none_iff (e : Endpoint) (params : HardwareParams) :
    e.objection? params = none ↔ params.Suits e.config := by
  unfold objection?
  constructor
  · intro none
    split at none
    · cases none
    next burst =>
      split at none
      · cases none
      next rate =>
        split at none
        · cases none
        next channels => exact ⟨burst, Decidable.not_not.mp rate, Decidable.not_not.mp channels⟩
  · rintro ⟨burst, rate, channels⟩
    rw [if_neg burst, if_neg (by simp [rate]), if_neg (by simp [channels])]

def Well (e : Endpoint) : Prop := e.runs = true → e.health = .healthy

theorem well_of_not_runs (h : e.runs = false) : e.Well := by
  intro runs
  rw [h] at runs
  cases runs

theorem Well.unspoilt {mixer : Mixer} (well : e.Well) (sincere : e.Sincere)
    (opened : e.phase = .opened line) (loop : line.loop = .writing mixer) :
    e.device.spoilt = false := by
  have runs : e.runs = true := by
    rw [runs_of_opened opened, loop]
    rfl
  exact sincere.unspoilt opened (well runs) (by rw [loop]; rfl)

structure Talks (answers : List (Except HardwareError HardwareParams)) (e : Endpoint) : Prop where
  well : e.Well
  sincere : e.Sincere
  shaped : e.Shaped
  timed : e.Timed
  engaged : ∃ visits, e.Engaged visits ∧ visits.map Visit.answer = answers

namespace Talks

variable {answers : List (Except HardwareError HardwareParams)}

theorem fresh {config : StreamConfig} {options : Options} {device : Device}
    (unused : device.calls = #[]) : Talks [] { config, options, device } where
  well := well_of_not_runs rfl
  sincere := sincere_of_closed rfl
  shaped line mixer opened := by cases opened
  timed := timed_of_rest rfl
  engaged := ⟨[], engaged_fresh unused, rfl⟩

theorem openings (h : e.Talks answers) : e.device.openings = answers.length := by
  obtain ⟨visits, engaged, rfl⟩ := h.engaged
  rw [openings_of_visits engaged.calls, List.length_map]

theorem counted (h : e.Talks answers) (references : UInt64) :
    Talks answers { e with references } := by
  obtain ⟨visits, engaged, same⟩ := h.engaged
  exact ⟨h.well, h.sincere.congr rfl rfl rfl, h.shaped, h.timed,
    visits, engaged.congr rfl rfl rfl rfl, same⟩

end Talks

end Endpoint

namespace Site

variable {s t u : Site} {visits : List Visit} {mixer : Mixer} {delivery : Delivery} {line : Line}
  {rest : Loop}

theorem Delivered.engaged (h : s.Delivered line.params mixer delivery u)
    (opened : s.endpoint.phase = .opened line) (loop : line.loop = .writing mixer)
    (engaged : s.endpoint.Engaged visits) (shaped : s.endpoint.Shaped) (timed : s.endpoint.Timed)
    (unspoilt : s.endpoint.device.spoilt = false) {f : Endpoint}
    (after : f.phase = .opened { line with loop := rest }) (device : f.device = u.endpoint.device)
    (config : f.config = s.endpoint.config) (options : f.options = s.endpoint.options)
    (alive : rest.mixer?.isSome = true → delivery ≠ .died) :
    ∃ next, f.Engaged next ∧ next.map Visit.answer = visits.map Visit.answer := by
  obtain ⟨answer, outcome, calls⟩ := h.call
  have had : line.loop.mixer? = some mixer := by
    rw [loop]
    rfl
  obtain ⟨-, -, size⟩ := shaped line mixer opened had
  refine engaged.written (w := ⟨mixer.sum, _, _, answer⟩) opened after unspoilt
    (by rw [device, calls]; rfl) config options ⟨rfl, ?_, size⟩ (by rw [had]; rfl) ?_
  · exact timed.writeTimeout? opened (by rw [loop]; rfl)
  · intro has panicked
    refine alive has ?_
    rw [outcome, show answer = .panicked from panicked]
    rfl

theorem Granted.engaged (h : s.Granted t) (well : s.endpoint.Well)
    (sincere : s.endpoint.Sincere) (shaped : s.endpoint.Shaped) (timed : s.endpoint.Timed)
    (engaged : s.endpoint.Engaged visits) :
    ∃ next, t.endpoint.Engaged next ∧ next.map Visit.answer = visits.map Visit.answer := by
  have config := h.eases.config
  have options := h.eases.options
  cases h with
  | delivered line mixer u opened loop delivered =>
    obtain ⟨next, after, -⟩ := phase_continueLoop mixer (delivered.phase.trans opened)
    exact delivered.engaged opened loop engaged shaped timed
      (well.unspoilt sincere opened loop) after
      (u.device_continueLoop mixer) config options (by simp)
  | failed line mixer exit u opened loop delivered =>
    have phase := (u.phase_finish exit).trans (delivered.phase.trans opened)
    refine delivered.engaged opened loop engaged shaped timed (well.unspoilt sincere opened loop)
      (Endpoint.phase_setLoop phase (.ended mixer)) ?_ config options (by simp)
    rw [endpoint_setLoop, Endpoint.device_setLoop, device_finish]
  | died line mixer u opened loop delivered =>
    refine delivered.engaged opened loop engaged shaped timed (well.unspoilt sincere opened loop)
      (Endpoint.phase_setLoop (delivered.phase.trans opened) .panicked) ?_ config options ?_
    · rw [endpoint_setLoop, Endpoint.device_setLoop]
    · intro has
      cases has

theorem Halted.engaged (h : s.Halted t) (well : s.endpoint.Well)
    (sincere : s.endpoint.Sincere) (shaped : s.endpoint.Shaped) (timed : s.endpoint.Timed)
    (engaged : s.endpoint.Engaged visits) :
    ∃ next, t.endpoint.Engaged next ∧ next.map Visit.answer = visits.map Visit.answer := by
  have config := h.eases.config
  have options := h.eases.options
  cases h with
  | resting => exact ⟨visits, engaged, rfl⟩
  | lost line flag opened loop =>
    refine ⟨visits, engaged.relooped opened (Endpoint.phase_setLoop opened (.lost false)) ?_ config
      options ?_, rfl⟩
    · rw [endpoint_setLoop, Endpoint.device_setLoop]
    · intro has
      cases has
  | ended line mixer opened loop =>
    rw [endpoint_announce] at config options ⊢
    refine ⟨visits, engaged.relooped opened (Endpoint.phase_setLoop opened (.idle mixer)) ?_ config
      options ?_, rfl⟩
    · rw [endpoint_setLoop, Endpoint.device_setLoop]
    · rw [loop]
      exact id
  | panicked line opened loop =>
    rw [endpoint_announce] at config options ⊢
    refine ⟨visits, engaged.relooped opened (phase_joinPanicked opened) ?_ config options ?_, rfl⟩
    · rw [device_joinPanicked]
    · intro has
      cases has
  | written line mixer delivery exit u opened loop delivered outcome =>
    rw [endpoint_announce] at config options ⊢
    have phase := (u.phase_finish exit).trans (delivered.phase.trans opened)
    refine delivered.engaged opened loop engaged shaped timed (well.unspoilt sincere opened loop)
      (Endpoint.phase_setLoop phase (.idle mixer)) ?_ config options fun _ => ?_
    · rw [endpoint_setLoop, Endpoint.device_setLoop, device_finish]
    · rcases outcome with ⟨rfl, -⟩ | rfl <;> simp
  | died line mixer u opened loop delivered =>
    rw [endpoint_announce] at config options ⊢
    refine delivered.engaged opened loop engaged shaped timed (well.unspoilt sincere opened loop)
      (phase_joinPanicked (delivered.phase.trans opened)) ?_ config options ?_
    · rw [device_joinPanicked]
    · intro has
      cases has

theorem Launched.engaged {answer : Except EndpointError Unit} (h : s.Launched answer t)
    (engaged : s.endpoint.Engaged visits) : t.endpoint.Engaged visits := by
  have config := h.eases.config
  have options := h.eases.options
  have device := h.device
  cases h with
  | unable | already => exact engaged
  | ailing line mixer error opened loop =>
    refine engaged.relooped opened (Endpoint.phase_setLoop opened (.idle mixer))
      (congrArg Device.calls device) config options ?_
    rw [loop]
    exact id
  | joined line error opened loop =>
    refine engaged.relooped opened (phase_joinPanicked opened) (congrArg Device.calls device) config
      options ?_
    intro has
    cases has
  | begun line mixer opened loop =>
    have ready : ((s.setLoop (.idle mixer)).announce "streaming").endpoint.phase =
        .opened { line with loop := .idle mixer } := by
      rw [endpoint_announce, endpoint_setLoop, Endpoint.phase_setLoop opened]
    obtain ⟨next, after, -⟩ := phase_continueLoop mixer ready
    refine engaged.relooped opened after (congrArg Device.calls device) config options fun _ => ?_
    rcases loop with loop | loop <;> rw [loop] <;> rfl

theorem Opening.engaged {result : Except EndpointError Unit} (h : s.Opening result t)
    (engaged : s.endpoint.Engaged visits) : t.endpoint = s.endpoint ∨
      ∃ v : Visit, t.endpoint.Engaged (visits ++ [v]) ∧
        (t.endpoint.device.start t.endpoint.config).1 = v.answer := by
  cases h with
  | barred => exact .inl rfl
  | refused error closed answer =>
    have again : ((s.endpoint.device.note .opened).start s.endpoint.config).1 = .error error :=
      (Device.fst_start_note ..).trans answer
    refine .inr ⟨.refused error,
      engaged.visit closed ?_ rfl rfl trivial (fun _ => trivial) ?_, again⟩
    · exact Array.toList_push
    · intro line opened
      rw [show s.endpoint.phase = .opened line from opened] at closed
      cases closed
  | rejected params reason closed answer objection =>
    have again : ((s.endpoint.device.note .opened).close.start s.endpoint.config).1 = .ok params :=
      (Device.fst_start_note ..).trans ((Device.fst_start_note ..).trans answer)
    refine .inr ⟨.rejected params, engaged.visit closed ?_ rfl rfl ?_ (fun _ => trivial) ?_, again⟩
    · simp [Visit.calls, Device.note, Device.close]
    · intro suits
      rw [(s.endpoint.objection?_eq_none_iff params).mpr suits] at objection
      cases objection
    · intro line opened
      rw [show s.endpoint.phase = .opened line from opened] at closed
      cases closed
  | opened params frames t closed answer objection counted fits channels endpoint =>
    have again : (((s.endpoint.device.note .opened).setBuffer frames).2.start
        s.endpoint.config).1 = .ok params :=
      (Device.fst_start_note ..).trans ((Device.fst_start_note ..).trans answer)
    have suits := (s.endpoint.objection?_eq_none_iff params).mp objection
    rw [endpoint]
    refine .inr ⟨.served params frames [] false, engaged.visit closed ?_ rfl rfl
      ⟨suits, by simp, by simp, by simp⟩ ?_ ?_, again⟩
    · simp [Visit.calls, Device.note, Device.setBuffer]
    · intro still
      cases still
    · intro line opened
      cases opened
      exact ⟨frames, rfl⟩

theorem Granted.well (h : s.Granted t) (well : s.endpoint.Well) : t.endpoint.Well := by
  cases h with
  | delivered line mixer u opened loop delivered =>
    have isOpen := delivered.eases.isOpen.trans (Endpoint.isOpen_of_opened opened)
    intro _
    rw [(runs_continueLoop mixer isOpen).2, delivered.health]
    exact well (by rw [Endpoint.runs_of_opened opened, loop]; rfl)
  | failed line mixer exit u opened loop delivered =>
    have isOpen := (delivered.eases.trans (eases_finish u exit)).isOpen.trans
      (Endpoint.isOpen_of_opened opened)
    exact Endpoint.well_of_not_runs (Endpoint.runs_setLoop isOpen)
  | died line mixer u opened loop delivered =>
    intro _
    rw [endpoint_setLoop, Endpoint.health_setLoop, delivered.health]
    exact well (by rw [Endpoint.runs_of_opened opened, loop]; rfl)

theorem well_start (well : s.endpoint.Well) (id : StreamId) : (s.started id).endpoint.Well := by
  rcases s.start_cases id with
    ⟨_, eq⟩ | ⟨key, c, -, -, -, ailment, -, answer, t, launched, -, eq⟩
  · rw [eq]
    exact well
  · rw [eq]
    cases answer with
    | ok _ => exact fun _ => launched.ok.2.trans (Endpoint.health_of_ailment ailment)
    | error error => exact Endpoint.well_of_not_runs launched.error.1

theorem engaged_start (engaged : s.endpoint.Engaged visits) (id : StreamId) :
    (s.started id).endpoint.Engaged visits := by
  rcases s.start_cases id with
    ⟨_, eq⟩ | ⟨key, c, -, -, -, -, -, answer, t, launched, -, eq⟩
  · rw [eq]
    exact engaged
  · have after : t.endpoint.Engaged visits := launched.engaged engaged
    rw [eq]
    cases answer with
    | ok _ => exact after
    | error error => exact after

section Talks

variable {answers : List (Except HardwareError HardwareParams)}

theorem steady_talks (answers : List (Except HardwareError HardwareParams)) :
    Steady (Endpoint.Talks answers) where
  device e device calls talks := by
    obtain ⟨visits, engaged, same⟩ := talks.engaged
    exact ⟨talks.well, talks.sincere.congr rfl rfl calls, talks.shaped, talks.timed,
      visits, engaged.congr calls rfl rfl rfl, same⟩
  listed e registered talks := by
    obtain ⟨visits, engaged, same⟩ := talks.engaged
    exact ⟨talks.well, talks.sincere, talks.shaped, talks.timed,
      visits, engaged.congr rfl rfl rfl rfl, same⟩
  granted s t granted talks := by
    obtain ⟨visits, engaged, rfl⟩ := talks.engaged
    exact ⟨granted.well talks.well, granted.sincere talks.sincere,
      steady_shaped.granted s t granted talks.shaped, granted.timed talks.timed,
      granted.engaged talks.well talks.sincere talks.shaped talks.timed engaged⟩
  halted s t halted talks := by
    obtain ⟨visits, engaged, rfl⟩ := talks.engaged
    exact ⟨Endpoint.well_of_not_runs halted.runs, halted.sincere talks.sincere,
      halted.calm.endpoint.shaped talks.shaped, Endpoint.timed_of_rest halted.runs,
      halted.engaged talks.well talks.sincere talks.shaped talks.timed engaged⟩
  closed e line opened quiet talks := by
    obtain ⟨visits, engaged, rfl⟩ := talks.engaged
    exact ⟨Endpoint.well_of_not_runs rfl, Endpoint.sincere_of_closed rfl,
      steady_shaped.closed e line opened quiet talks.shaped, Endpoint.timed_of_rest rfl,
      engaged.shut opened⟩

theorem talks_start (talks : s.endpoint.Talks answers) (id : StreamId) :
    (s.started id).endpoint.Talks answers := by
  obtain ⟨visits, engaged, same⟩ := talks.engaged
  exact ⟨well_start talks.well id, sincere_start talks.sincere id, shaped_start talks.shaped id,
    timed_started talks.timed id, visits, engaged_start engaged id, same⟩

theorem well_opened (well : s.endpoint.Well) : s.opened.endpoint.Well := by
  rcases s.opened_cases with ⟨device, -, eq⟩ | ⟨params, buffer, device, -, -, -, -, endpoint⟩
  · rw [eq]
    exact well
  · rw [endpoint]
    exact fun _ => rfl

theorem talks_opened (talks : s.endpoint.Talks answers) :
    s.opened.endpoint = s.endpoint ∨
      s.opened.endpoint.Talks
        (answers ++ [(s.opened.endpoint.device.start s.opened.endpoint.config).1]) := by
  obtain ⟨visits, engaged, rfl⟩ := talks.engaged
  rcases s.opening_opened with same | ⟨result, opening⟩
  · exact .inl (by rw [same])
  refine (opening.engaged engaged).imp_right fun ⟨v, visited, answer⟩ => ?_
  refine ⟨well_opened talks.well, sincere_opened talks.sincere,
    s.calm_opened.endpoint.shaped talks.shaped, timed_opened talks.timed,
    visits ++ [v], visited, ?_⟩
  rw [List.map_append, answer]
  rfl

end Talks

end Site

end SharedAudio

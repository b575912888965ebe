import SharedAudio.Endpoint.Control

namespace SharedAudio

theorem Channel.enter_enter (c : Channel) (e : StreamEvent) :
    (c.enter e).enter e = c.enter e := by
  by_cases possible : e.possibleIn c.state = true
  · have again : e.possibleIn (c.enter e).state = false := by
      rw [state_enter, if_pos possible]
      cases e <;> rfl
    rw [enter, again]
    rfl
  · have same : c.enter e = c := by rw [enter, if_neg possible]
    rw [same, same]

theorem Channel.isRunning_enter {c : Channel} {e : StreamEvent} (stops : e ≠ .started)
    (h : (c.enter e).isRunning = true) : c.isRunning = true := by
  rw [isRunning, state_enter] at h
  split at h
  next possible => cases e <;> simp_all [StreamEvent.entered]
  next => exact h

namespace Loop

def runs : Loop → Bool
  | .writing _ | .panicked => true
  | .idle _ | .ended _ | .lost _ => false

def waiting : Loop → List (Array Sample)
  | .writing mixer => [mixer.sum]
  | .idle _ | .ended _ | .panicked | .lost _ => []

theorem waiting_of_runs {loop : Loop} (h : loop.runs = true) :
    loop.waiting = (loop.mixer?.map (·.sum)).toList := by
  cases loop <;> first | rfl | cases h

end Loop

def Call.burst? : Call → Option (Array Sample)
  | .wrote samples .. => some samples
  | .opened | .buffer _ | .closed => none

namespace Device

def bursts (d : Device) : List (Array Sample) := d.calls.toList.filterMap Call.burst?

@[simp] theorem bursts_close (d : Device) : d.close.bursts = d.bursts := by
  simp [bursts, Call.burst?]

@[simp] theorem bursts_write (d : Device) (samples : Array Sample) (frames timeout : UInt64) :
    (d.write samples frames timeout).2.bursts = d.bursts ++ [samples] := by
  simp [bursts, Device.calls_write, Call.burst?]

end Device

namespace Endpoint

def runs (e : Endpoint) : Bool := e.line?.any (·.loop.runs)

def handed (e : Endpoint) : List (Array Sample) := e.device.bursts

def waiting (e : Endpoint) : List (Array Sample) := (e.line?.map (·.loop.waiting)).getD []

def made (e : Endpoint) : List (Array Sample) := e.handed ++ e.waiting

variable {e : Endpoint} {line : Line} {loop : Loop}

theorem setLoop_of_opened (h : e.phase = .opened line) :
    e.setLoop loop = { e with phase := .opened { line with loop } } := by
  rw [setLoop, h]

theorem phase_setLoop (h : e.phase = .opened line) (loop : Loop) :
    (e.setLoop loop).phase = .opened { line with loop } := by
  rw [setLoop_of_opened h]

theorem setLoop_eq (e : Endpoint) (loop : Loop) :
    e.setLoop loop = { e with phase := (e.setLoop loop).phase } := by
  rw [setLoop]
  split <;> rfl

@[simp] theorem registered_setLoop : (e.setLoop loop).registered = e.registered := by
  rw [setLoop_eq]

@[simp] theorem health_setLoop : (e.setLoop loop).health = e.health := by rw [setLoop_eq]

@[simp] theorem config_setLoop : (e.setLoop loop).config = e.config := by rw [setLoop_eq]

@[simp] theorem options_setLoop : (e.setLoop loop).options = e.options := by rw [setLoop_eq]

@[simp] theorem bursts_setLoop : (e.setLoop loop).bursts = e.bursts := by rw [setLoop_eq]

theorem device_setLoop (e : Endpoint) (loop : Loop) : (e.setLoop loop).device = e.device := by
  rw [setLoop_eq]

@[simp] theorem handed_setLoop : (e.setLoop loop).handed = e.handed := by
  rw [handed, setLoop_eq, handed]

theorem runs_setLoop (h : e.isOpen = true) : (e.setLoop loop).runs = loop.runs := by
  cases opened : e.phase with
  | closed owned => simp [isOpen, line?, opened, Phase.line?] at h
  | opened line => simp [setLoop_of_opened opened, runs, line?, Phase.line?]

theorem waiting_setLoop (h : e.isOpen = true) : (e.setLoop loop).waiting = loop.waiting := by
  cases opened : e.phase with
  | closed owned => simp [isOpen, line?, opened, Phase.line?] at h
  | opened line => simp [setLoop_of_opened opened, waiting, line?, Phase.line?]

theorem isOpen_of_opened (h : e.phase = .opened line) : e.isOpen = true := by
  simp [isOpen, line?, h, Phase.line?]

theorem opened_of_isOpen (h : e.isOpen = true) : ∃ line, e.phase = .opened line := by
  cases phase : e.phase with
  | closed owned => simp [isOpen, line?, phase, Phase.line?] at h
  | opened line => exact ⟨line, rfl⟩

theorem runs_of_opened (h : e.phase = .opened line) : e.runs = line.loop.runs := by
  simp [runs, line?, h, Phase.line?]

theorem waiting_of_opened (h : e.phase = .opened line) : e.waiting = line.loop.waiting := by
  simp [waiting, line?, h, Phase.line?]

theorem runs_congr {other : Endpoint} (phase : other.phase = e.phase) : other.runs = e.runs := by
  rw [runs, line?, phase]
  rfl

theorem waiting_congr {other : Endpoint} (phase : other.phase = e.phase) :
    other.waiting = e.waiting := by
  rw [waiting, line?, phase]
  rfl

theorem runs_iff : e.runs = true ↔ ∃ line, e.phase = .opened line ∧
    ((∃ mixer, line.loop = .writing mixer) ∨ line.loop = .panicked) := by
  cases opened : e.phase with
  | closed owned => simp [runs, line?, opened, Phase.line?]
  | opened line =>
    rw [runs_of_opened opened]
    cases loop : line.loop <;> simp [Loop.runs, loop]

theorem streaming_of_opened (h : e.phase = .opened line) : e.streaming = line.loop.streaming := by
  rw [streaming, h]

theorem streaming_of_closed (h : e.isOpen = false) : e.streaming = false := by
  cases phase : e.phase with
  | closed owned => rw [streaming, phase]
  | opened line => simp [isOpen, line?, phase, Phase.line?] at h

theorem streaming_setLoop (h : e.isOpen = true) : (e.setLoop loop).streaming = loop.streaming := by
  cases opened : e.phase with
  | closed owned => simp [isOpen, line?, opened, Phase.line?] at h
  | opened line => rw [streaming_of_opened (phase_setLoop opened loop)]

theorem streaming_of_runs (h : e.runs = true) : e.streaming = true := by
  obtain ⟨line, opened, ⟨mixer, loop⟩ | loop⟩ := runs_iff.mp h
  · rw [streaming_of_opened opened, loop, Loop.streaming]
  · rw [streaming_of_opened opened, loop, Loop.streaming]

theorem runs_of_not_streaming (h : e.streaming = false) : e.runs = false := by
  cases runs : e.runs with
  | false => rfl
  | true => rw [streaming_of_runs runs] at h; cases h

theorem waiting_of_not_runs (h : e.runs = false) : e.waiting = [] := by
  cases phase : e.phase with
  | closed owned => simp [waiting, line?, phase, Phase.line?]
  | opened line =>
    rw [runs_of_opened phase] at h
    rw [waiting_of_opened phase]
    cases loop : line.loop <;> simp_all [Loop.runs, Loop.waiting]

end Endpoint

theorem getElem?_foldl_modify {change : Channel → Channel} (keys : List Nat) (all : Array Channel)
    (key : Nat) (again : ∀ c, change (change c) = change c) :
    (keys.foldl (fun all key => all.modify key change) all)[key]? =
      if key ∈ keys then all[key]?.map change else all[key]? := by
  induction keys generalizing all with
  | nil => simp
  | cons first keys ih =>
    rw [List.foldl_cons, ih, Array.getElem?_modify]
    by_cases same : first = key
    · subst same
      cases all[first]? <;> simp [again]
    · have other : key ≠ first := fun eq => same eq.symm
      simp [same, other]

namespace Site

variable {s : Site} {key : Nat}

theorem getElem?_modifyChannel (s : Site) (changed : Nat) (change : Channel → Channel) :
    (s.modifyChannel changed change).channels[key]? =
      if changed = key then s.channels[key]?.map change else s.channels[key]? := by
  rw [modifyChannel, Array.getElem?_modify]

theorem getElem?_modifyRegistered {change : Channel → Channel}
    (again : ∀ c, change (change c) = change c) :
    (s.modifyRegistered change).channels[key]? =
      if key ∈ s.endpoint.registered then s.channels[key]?.map change else s.channels[key]? :=
  getElem?_foldl_modify _ _ _ again

@[simp] theorem endpoint_setLoop (s : Site) (loop : Loop) :
    (s.setLoop loop).endpoint = s.endpoint.setLoop loop := rfl

@[simp] theorem channels_setLoop (s : Site) (loop : Loop) :
    (s.setLoop loop).channels = s.channels := rfl

theorem setLoop_self {line : Line} (opened : s.endpoint.phase = .opened line) :
    s.setLoop line.loop = s := by
  rw [setLoop, Endpoint.setLoop_of_opened opened, ← opened]

@[simp] theorem endpoint_announce (s : Site) (what : String) :
    (s.announce what).endpoint = s.endpoint := endpoint_note _ _

@[simp] theorem channels_announce (s : Site) (what : String) :
    (s.announce what).channels = s.channels := channels_note _ _

@[simp] theorem endpoint_modifyChannel (s : Site) (key : Nat) (change : Channel → Channel) :
    (s.modifyChannel key change).endpoint = s.endpoint := rfl

def opened (s : Site) : Site := (s.openStream?.map (·.2)).getD s

def started (s : Site) (id : StreamId) : Site := ((s.start? id).map (·.2)).getD s

theorem opened_of_openStream? {answer : Except EndpointError Unit} {t : Site}
    (h : s.openStream? = some (answer, t)) : s.opened = t := by
  rw [opened, h]
  rfl

theorem started_of_start? {id : StreamId} {answer : Except EndpointError Unit} {t : Site}
    (h : s.start? id = some (answer, t)) : s.started id = t := by
  rw [started, h]
  rfl

def including (s : Site) (key : Nat) : Site :=
  { s with endpoint := { s.endpoint with registered := s.endpoint.registered ++ [key] } }

theorem register_cases (s : Site) (key : Nat) (c : Channel) :
    (s.register key c).2 = s ∨ s.endpoint.isOpen = true ∧
      c.channels = s.endpoint.config.channels ∧ c.id ∉ s.ids ∧
      (s.register key c).2 = s.including key := by
  simp only [register]
  split
  · exact .inl rfl
  next opened =>
    split
    · exact .inl rfl
    next fits =>
      split
      · exact .inl rfl
      next fresh =>
        split
        · exact .inl rfl
        · exact .inr ⟨by simpa using opened, by simpa using fits, by simpa using fresh, rfl⟩

theorem find?_mem {id : StreamId} (h : s.find? id = some key) : key ∈ s.endpoint.registered :=
  List.mem_of_find?_eq_some h

def without (s : Site) (key : Nat) : Site :=
  { s with endpoint := { s.endpoint with registered := s.endpoint.registered.erase key } }

theorem unregister_of_find? {id : StreamId} (h : s.find? id = some key) :
    s.unregister id = (s.without key).stopKey key := by
  rw [unregister, h]
  rfl

theorem stop_cases (s : Site) (id : StreamId) :
    (∃ error, s.stop id = (.error error, s)) ∨
      ∃ key, s.endpoint.isOpen = true ∧ s.find? id = some key ∧
        s.stop id = (.ok (), s.stopKey key) := by
  rw [stop]
  cases opened : s.endpoint.isOpen with
  | false => exact .inl ⟨_, rfl⟩
  | true =>
    cases found : s.find? id with
    | none => exact .inl ⟨_, rfl⟩
    | some key => exact .inr ⟨key, rfl, rfl, rfl⟩

theorem setVolume_cases (s : Site) (id : StreamId) (volume : Sample) :
    (∃ error, s.setVolume id volume = (.error error, s)) ∨
      ∃ key, s.find? id = some key ∧ s.setVolume id volume =
        (.ok (), s.modifyChannel key
          (Channel.setVolume volume s.endpoint.options.rampBursts)) := by
  rw [setVolume]
  cases found : s.find? id with
  | none => exact .inl ⟨_, rfl⟩
  | some key => exact .inr ⟨key, rfl, rfl⟩

theorem snd_grantUpTo (s : Site) (n granted other : Nat) :
    (s.grantUpTo n granted).2 = (s.grantUpTo n other).2 := by
  induction n generalizing s granted other with
  | zero => rfl
  | succ n ih =>
    rw [grantUpTo, grantUpTo]
    cases s.grant? with
    | none => rfl
    | some t => exact ih t (granted + 1) (other + 1)

theorem grantUpTo_one (s : Site) (n : Nat) :
    ((s.grantUpTo 1 0).2.grantUpTo n 0).2 = (s.grantUpTo (n + 1) 0).2 := by
  rw [grantUpTo, grantUpTo]
  cases granting : s.grant? with
  | none => cases n <;> simp [grantUpTo, granting]
  | some t => exact t.snd_grantUpTo n 0 1

def Runs (s : Site) (key : Nat) : Prop := ∃ c, s.channels[key]? = some c ∧ c.isRunning = true

end Site

end SharedAudio

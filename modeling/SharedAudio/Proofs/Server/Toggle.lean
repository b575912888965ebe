import SharedAudio.Proofs.Endpoint.Parting
import SharedAudio.Proofs.Server.Erasure
import SharedAudio.Proofs.Server.Roll

namespace SharedAudio

namespace Site

variable {s : Site} {key : Nat} {id : StreamId} {c : Channel}

theorem state_of_start? (answer : (s.start? id).map (·.1) = some (.ok ()))
    (found : s.find? id = some key) (present : s.channels[key]? = some c)
    (rests : ¬ s.Runs key) : c.state = .stopped := by
  rcases s.start_cases id with ⟨refused, -⟩ | ⟨other, d, found', present', -, -, starts, -⟩
  · exact absurd answer refused
  · rw [found] at found'
    cases found'
    rw [present] at present'
    cases present'
    have idle : c.state ≠ .running := fun runs =>
      rests ⟨c, present, by rw [Channel.isRunning, runs]; rfl⟩
    rw [Channel.isRunning, Channel.state_enter] at starts
    cases state : c.state with
    | stopped => rfl
    | running => exact absurd state idle
    | disconnected | faulted =>
      rw [state] at starts
      cases starts

theorem runs_of_start?_error {error : EndpointError}
    (answer : (s.start? id).map (·.1) = some (.error error)) (runs : (s.started id).Runs key) :
    s.Runs key := by
  rcases s.start_cases id with
    ⟨_, eq⟩ | ⟨other, c, -, -, -, -, -, answer', t, launched, answered, eq⟩
  · rwa [eq] at runs
  · obtain rfl := Option.some.inj (answer.symm.trans answered)
    rw [eq] at runs
    obtain ⟨before, ne⟩ := (t.modifyChannel_stop other).2 key runs
    obtain ⟨d, present, running⟩ := launched.eases.runs key before
    rw [getElem?_modifyChannel, if_neg fun same => ne same.symm] at present
    exact ⟨d, present, running⟩

def Timeless (s : Site) : Prop :=
  ∃ line, s.endpoint.phase = .opened line ∧
    s.endpoint.options.writeTimeout? line.params.burst line.params.sampleRate = none

theorem timeless_of_launch? (panics : s.launch? = none) : s.Timeless := by
  unfold launch? at panics
  split at panics
  next => cases panics
  next line opened =>
    split at panics
    next => cases panics
    next => exact ⟨line, opened, Option.map_eq_none_iff.mp panics⟩
    next => cases panics
    next mixer loop =>
      dsimp only at panics
      split at panics
      next => cases panics
      next =>
        have untimed := Option.map_eq_none_iff.mp panics
        rw [endpoint_setLoop, Endpoint.options_setLoop] at untimed
        exact ⟨line, opened, untimed⟩
    next => cases panics

theorem timeless_of_start? (panics : s.start? id = none) : s.Timeless := by
  unfold start? at panics
  split at panics
  next => cases panics
  next =>
    split at panics
    next => cases panics
    next =>
      split at panics
      next => cases panics
      next =>
        split at panics
        next => cases panics
        next => cases panics
        next key _ _ started _ =>
          have launching := Option.map_eq_none_iff.mp panics
          exact timeless_of_launch? (s := s.modifyChannel key fun _ => started) launching

end Site

namespace Server

variable {s t : Server} {k key : Nat} {id : StreamId} {site : Site} {state : ChannelState}
  {error : EndpointError}

theorem site_of_find? (found : s.find? id = some k) :
    ∃ site key, s.site? k = some site ∧ site.find? id = some key := by
  have mixes := List.find?_some found
  cases there : s.site? k with
  | none => simp [there] at mixes
  | some site =>
    have listed : id ∈ site.ids := by simpa [there] using mixes
    cases inside : site.find? id with
    | none => exact absurd listed (Site.find?_eq_none_iff.mp inside)
    | some key => exact ⟨site, key, rfl, inside⟩

theorem isRunning_iff (enrols : s.Enrols k) (there : s.site? k = some site)
    (inside : site.find? id = some key) : s.isRunning k id = true ↔ site.Runs key := by
  have channels := (endpoint_of_site? there).2
  have named := Site.idOf?_of_find? inside
  have listed {other : Nat} (member : other ∈ site.endpoint.registered) : other ∈ s.roll k :=
    roll_of_site there ▸ member
  rw [isRunning, there, Option.any_some, List.any_eq_true]
  constructor
  · rintro ⟨c, registered, runs⟩
    obtain ⟨other, member, present⟩ := List.mem_filterMap.mp registered
    rw [Bool.and_eq_true, beq_iff_eq] at runs
    have same : other = key := by
      refine enrols.unique (listed member) (listed (Site.find?_mem inside)) ?_
      rw [idOf?, idOf?, ← channels, present]
      exact (congrArg some runs.1).trans named.symm
    exact ⟨c, same ▸ present, runs.2⟩
  · rintro ⟨c, present, runs⟩
    rw [Site.idOf?, present] at named
    refine ⟨c, List.mem_filterMap.mpr ⟨key, Site.find?_mem inside, present⟩, ?_⟩
    rw [Bool.and_eq_true, beq_iff_eq]
    exact ⟨Option.some.inj named, runs⟩

theorem toggle?_cases (s : Server) (id : StreamId) :
    (s.find? id = none ∧ s.toggle? id = some (.error (.unknownStream id), s)) ∨
    ∃ k site, s.find? id = some k ∧ s.site? k = some site ∧
      (s.isRunning k id = true ∧ s.toggle? id =
        some ((site.stop id).1.map fun _ => .stopped, s.putSite k (site.stop id).2) ∨
      s.isRunning k id = false ∧ s.toggle? id = (site.start? id).map fun (answer, after) =>
        (answer.map fun _ => .running, s.putSite k after)) := by
  cases found : s.find? id with
  | none => exact .inl ⟨rfl, toggle?_of_unknown found⟩
  | some k =>
    obtain ⟨site, key, there, -⟩ := site_of_find? found
    refine .inr ⟨k, site, rfl, there, ?_⟩
    cases running : s.isRunning k id with
    | true =>
      refine .inl ⟨rfl, ?_⟩
      rw [toggle?_of_running found running, onSite?, there]
      rfl
    | false =>
      refine .inr ⟨rfl, ?_⟩
      rw [toggle?_of_resting found running, trySite?, there, Option.bind_some, toggled,
        Option.map_map]
      rfl

structure Toggled (s : Server) (id : StreamId) (state : ChannelState) (t : Server) (k : Nat)
    (site : Site) (key : Nat) (c d : Channel) : Prop where
  found : s.find? id = some k
  there : s.site? k = some site
  inside : site.find? id = some key
  before : s.channels[key]? = some c
  after : t.channels[key]? = some d
  ids : c.id = id ∧ d.id = id
  told : state = .running ∧ c.state = .stopped ∧ d.state = .running ∨
    state = .stopped ∧ c.state = .running ∧ d.state = site.leaving key

theorem channels_of_toggle? {answer : Except EndpointError ChannelState}
    (found : s.find? id = some k) (there : s.site? k = some site)
    (done : s.toggle? id = some (answer, t)) :
    ∃ key c d, site.find? id = some key ∧ s.channels[key]? = some c ∧
      t.channels[key]? = some d ∧ c.id = id ∧ d.id = id := by
  obtain ⟨site', key, there', inside⟩ := site_of_find? found
  rw [there] at there'
  cases there'
  have named := Site.idOf?_of_find? inside
  rw [Site.idOf?, (endpoint_of_site? there).2] at named
  have kept := s.keepsIds_perform (.toggle id) key id named
  rw [perform_toggle_eq, done] at kept
  obtain ⟨c, before, same⟩ := Option.map_eq_some_iff.mp named
  obtain ⟨d, after, same'⟩ := Option.map_eq_some_iff.mp kept
  exact ⟨key, c, d, inside, before, after, same, same'⟩

def Tells (s : Server) (id : StreamId) : Option (Except EndpointError ChannelState × Server) → Prop
  | some (.ok state, t) => ∃ k site key c d, s.Toggled id state t k site key c d
  | some (.error _, t) => ∀ key, t.Runs key → s.Runs key
  | none => ∃ k site, s.find? id = some k ∧ s.site? k = some site ∧ site.Timeless

theorem tells_of_stop (enrols : s.Enrols k) (found : s.find? id = some k)
    (there : s.site? k = some site) (running : s.isRunning k id = true)
    (eq : s.toggle? id =
      some ((site.stop id).1.map fun _ => .stopped, s.putSite k (site.stop id).2)) :
    s.Tells id (s.toggle? id) := by
  obtain ⟨key, c, d, inside, before, after, same⟩ := channels_of_toggle? found there eq
  have present : site.channels[key]? = some c := (endpoint_of_site? there).2 ▸ before
  rw [eq]
  cases answer : (site.stop id).1 with
  | error error =>
    intro other now
    have still : (site.stop id).2 = site := Site.stop_of_error answer
    rwa [still, putSite_self there] at now
  | ok =>
    have on := (isRunning_iff enrols there inside).mp running
    have left := Site.state_stop answer inside on
    refine ⟨k, site, key, c, d, found, there, inside, before, after, same, .inr ⟨rfl, ?_, ?_⟩⟩
    · obtain ⟨c', present', on⟩ := on
      rw [present] at present'
      cases present'
      exact eq_of_beq on
    · rw [show (site.stop id).2.channels[key]? = some d from after] at left
      exact Option.some.inj left

theorem tells_of_start (enrols : s.Enrols k) (found : s.find? id = some k)
    (there : s.site? k = some site) (resting : s.isRunning k id = false)
    (eq : s.toggle? id = (site.start? id).map fun (answer, after) =>
      (answer.map fun _ => .running, s.putSite k after)) :
    s.Tells id (s.toggle? id) := by
  cases starting : site.start? id with
  | none =>
    rw [eq, starting]
    exact ⟨k, site, found, there, Site.timeless_of_start? starting⟩
  | some started =>
    obtain ⟨answer, u⟩ := started
    rw [starting] at eq
    have done : (site.start? id).map (·.1) = some answer := by rw [starting]; rfl
    have after' : site.started id = u := by rw [Site.started, starting]; rfl
    obtain ⟨key, c, d, inside, before, after, same⟩ := channels_of_toggle? found there eq
    have present : site.channels[key]? = some c := (endpoint_of_site? there).2 ▸ before
    rw [eq]
    cases answer with
    | error error =>
      rintro other ⟨e, now, on⟩
      have runs : (site.started id).Runs other := by
        rw [after']
        exact ⟨e, now, on⟩
      obtain ⟨e, was, on⟩ := Site.runs_of_start?_error done runs
      exact ⟨e, (endpoint_of_site? there).2 ▸ was, on⟩
    | ok =>
      refine ⟨k, site, key, c, d, found, there, inside, before, after, same, .inl ⟨rfl, ?_, ?_⟩⟩
      · refine Site.state_of_start? done inside present fun on => ?_
        exact Bool.false_ne_true
          (resting.symm.trans ((isRunning_iff enrols there inside).mpr on))
      · obtain ⟨e, now, on⟩ := Site.runs_of_start? done inside
        rw [after', show u.channels[key]? = some d from after] at now
        cases now
        exact eq_of_beq on

theorem toggle_tells_all_but_the_end (options : Options) (ops : List Operation) (id : StreamId) :
    let s := run { options } ops
    s.Tells id (s.toggle? id) := by
  intro s
  rcases s.toggle?_cases id with ⟨-, eq⟩ | ⟨k, site, found, there, ⟨running, eq⟩ | ⟨resting, eq⟩⟩
  · rw [eq]
    exact fun _ runs => runs
  · exact tells_of_stop (enrols_run options ops k) found there running eq
  · exact tells_of_start (enrols_run options ops k) found there resting eq

theorem toggle_is_silent_about_the_end :
    let s := run { options := {} } [.acquire {} {}, .createChannel 0, .register 0 0, .start 0 ⟨1⟩,
      .extendScript 0 [.fail .timeout]]
    (s.channels.toList.map (·.state) = [.running]) ∧
      (s.toggle? ⟨1⟩).map (fun (answer, t) => (answer, t.channels.toList.map (·.state))) =
        some (.ok .stopped, [.faulted]) := by
  decide +kernel

end Server

end SharedAudio

import SharedAudio.Proofs.Endpoint.Latch
import SharedAudio.Proofs.Endpoint.Opening
import SharedAudio.Proofs.Server.Admission
import SharedAudio.Proofs.Server.Past

namespace SharedAudio

def Device.Spurned (d f : Device) : Prop := f = d.note .opened ∨ f = (d.note .opened).close

inductive Woven : Array Call → Array Call → Prop
  | same (calls : Array Call) : Woven calls calls
  | append {bare full : Array Call} (more : Array Call) (h : Woven bare full) :
      Woven (bare ++ more) (full ++ more)
  | refused {bare full : Array Call} (h : Woven bare full) : Woven bare (full.push .opened)
  | rejected {bare full : Array Call} (h : Woven bare full) :
      Woven bare ((full.push .opened).push .closed)

def Blur.vain : Blur := ⟨Woven, Woven.same, Woven.append, fun _ => id, Past.told_id⟩

theorem Woven.spurned {calls : Array Call} {d f : Device} (h : Woven calls d.calls)
    (spurned : d.Spurned f) : Woven calls f.calls := by
  rcases spurned with rfl | rfl
  · exact h.refused
  · exact h.rejected

def Reply.isFailure : Reply → Bool
  | .failed _ => true
  | _ => false

def Reply.isStarved : Reply → Bool
  | .failed (.spawn _) => true
  | _ => false

namespace Site

variable {s t : Site} {id : StreamId} {error : EndpointError}

theorem modifyChannel_const {key : Nat} {c : Channel} (present : s.channels[key]? = some c)
    (act : Channel → Channel) : (s.modifyChannel key fun _ => act c) = s.modifyChannel key act := by
  refine congrArg (fun channels => { s with channels }) (Array.ext_getElem? fun other => ?_)
  rw [Array.getElem?_modify, Array.getElem?_modify]
  split
  next same => rw [← same, present]; rfl
  next => rfl

theorem modifyChannel_modifyChannel (s : Site) (key : Nat) (first second : Channel → Channel) :
    (s.modifyChannel key first).modifyChannel key second =
      s.modifyChannel key (second ∘ first) := by
  refine congrArg (fun channels => { s with channels }) (Array.ext_getElem? fun other => ?_)
  simp only [modifyChannel, Array.getElem?_modify]
  split
  next => rw [Option.map_map]
  next => rfl

theorem closeStream_of_error (failed : s.closeStream.1 = .error error) : s.closeStream.2 = s := by
  unfold closeStream at failed ⊢
  split at failed
  next => rfl
  next => cases failed

theorem register_of_error {key : Nat} {c : Channel}
    (failed : (s.register key c).1 = .error error) : (s.register key c).2 = s := by
  simp only [register] at failed ⊢
  split
  · rfl
  · split
    · rfl
    · split
      · rfl
      · split
        · rfl
        · simp_all

theorem stop_of_error (failed : (s.stop id).1 = .error error) : (s.stop id).2 = s := by
  rcases s.stop_cases id with ⟨_, eq⟩ | ⟨key, -, -, eq⟩
  · rw [eq]
  · rw [eq] at failed
    cases failed

theorem setVolume_of_error {volume : Sample} (failed : (s.setVolume id volume).1 = .error error) :
    (s.setVolume id volume).2 = s := by
  rcases s.setVolume_cases id volume with ⟨_, eq⟩ | ⟨key, -, eq⟩
  · rw [eq]
  · rw [eq] at failed
    cases failed

theorem start?_of_error (sincere : s.endpoint.Sincere) (alive : ¬ s.endpoint.Panicked)
    (failed : s.start? id = some (.error error, t)) : t = s ∨
      ∃ reason key, error = .spawn reason ∧ s.find? id = some key ∧
        t = s.modifyChannel key fun c => (c.enter .started).stop := by
  have after := started_of_start? failed
  rcases s.start_cases id with
    ⟨-, eq⟩ | ⟨key, c, found, present, isOpen, ailment, runs, answer, u, launched, answered, eq⟩
  · exact .inl (after.symm.trans eq)
  rw [failed] at answered
  cases answered
  obtain ⟨line, opened⟩ := Endpoint.opened_of_isOpen isOpen
  have healthy := Endpoint.health_of_ailment ailment
  have ready := ((sincere line opened healthy).resolve_left fun dead =>
    alive ⟨line, opened, dead⟩).1
  have starts := Channel.start_of_enter runs
  have launch := start?_of_starts isOpen healthy found present starts
  rw [failed] at launch
  obtain ⟨reason, spawn⟩ := spawn_of_launch? (s := s.modifyChannel key _) opened ready launch.symm
  refine .inr ⟨reason, key, spawn, found, ?_⟩
  rw [← after, eq]
  cases launched with
  | unable =>
    change (s.modifyChannel key fun _ => c.enter .started).modifyChannel key Channel.stop = _
    rw [modifyChannel_const present (·.enter .started), modifyChannel_modifyChannel]
    rfl
  | ailing other mixer error opened' loop | joined other error opened' loop =>
    cases opened.symm.trans opened'
    rw [loop] at ready
    cases ready

end Site

namespace Server

variable {s t : Server} {k : Nat} {op : Operation} {error : EndpointError}

def Joined (s : Server) : Prop := s.Everywhere fun e => ¬ e.Panicked

def fails (s : Server) (op : Operation) : Bool := (s.reply? op).any Reply.isFailure

def starves (s : Server) (op : Operation) : Bool := (s.reply? op).any Reply.isStarved

theorem joined_of_idle (idle : s.endpoints.toList.all (!·.streaming) = true) : s.Joined := by
  rintro k e there ⟨line, opened, loop⟩
  have still := List.all_eq_true.mp idle e (Array.mem_toList_iff.mpr (Array.mem_of_getElem? there))
  rw [Endpoint.streaming_of_opened opened, loop] at still
  cases still

inductive Spared (s : Server) : Operation → Server → Prop
  | still (op : Operation) : Spared s op s
  | reopened (k : Nat) (e : Endpoint) (d : Device) (there : s.endpoints[k]? = some e)
      (owned : e.phase = .closed true) (spurned : e.device.Spurned d) :
      Spared s (.openStream k)
        { s with endpoints := s.endpoints.setIfInBounds k { e with device := d } }
  | unmade (config : StreamConfig) (plan : Plan) (d : Device)
      (spurned : (s.newDevice plan).Spurned d) :
      Spared s (.acquire config plan) { s with refused := s.refused.push d }
  | unspawned (op : Operation) (reason : String) (k key : Nat) (id : StreamId) (site : Site)
      (asks : op = .start k id ∨ op = .toggle id)
      (answer : s.reply? op = some (.failed (.spawn reason))) (found : s.site? k = some site)
      (known : site.find? id = some key) :
      Spared s op
        { s with channels := s.channels.modify key fun c => (c.enter .started).stop }

theorem performed_of_fails (h : s.fails op = true) :
    ∃ error t, s.perform? op = some (.failed error, t) ∧ s.perform op = t := by
  rw [fails, reply?] at h
  rw [perform]
  generalize s.perform? op = performed at h
  rcases performed with _ | ⟨reply, t⟩
  · cases h
  · cases reply with
    | failed error => exact ⟨error, t, rfl, rfl⟩
    | _ => cases h

theorem error_of_onResult? {α : Type} {ok : α → Reply}
    {result : Option (Except EndpointError α × Server)} (success : ∀ a, (ok a).isFailure = false)
    (failed : onResult? ok result = some (.failed error, t)) : result = some (.error error, t) := by
  rcases result with _ | ⟨error' | a, u⟩
  · cases failed
  · cases failed
    rfl
  · have answer : ok a = .failed error := congrArg (·.1) (Option.some.inj failed)
    have impossible := success a
    rw [answer] at impossible
    cases impossible

theorem of_onSite?_eq_some {α : Type} {act : Site → α × Site} {answer : α}
    (acted : s.onSite? k act = some (answer, t)) : ∃ site, s.site? k = some site ∧
      (act site).1 = answer ∧ t = s.putSite k (act site).2 := by
  obtain ⟨site, found, eq⟩ := Option.map_eq_some_iff.mp acted
  cases eq
  exact ⟨site, found, rfl, rfl⟩

theorem still_of_onSite? {α : Type} {act : Site → Except EndpointError α × Site}
    (acted : s.onSite? k act = some (.error error, t))
    (still : ∀ site, s.site? k = some site → (act site).1 = .error error → (act site).2 = site) :
    t = s := by
  obtain ⟨site, found, failed, rfl⟩ := of_onSite?_eq_some acted
  rw [still site found failed]
  exact putSite_self found

theorem of_trySite?_eq_some {α : Type} {act : Site → Option (α × Site)} {answer : α}
    (acted : s.trySite? k act = some (answer, t)) : ∃ site after, s.site? k = some site ∧
      act site = some (answer, after) ∧ t = s.putSite k after := by
  obtain ⟨site, found, eq⟩ := Option.bind_eq_some_iff.mp acted
  obtain ⟨⟨answer, after⟩, answered, eq⟩ := Option.map_eq_some_iff.mp eq
  cases eq
  exact ⟨site, after, found, answered, rfl⟩

theorem spared_of_site {act : Site → Except EndpointError Unit × Site}
    (performed : s.perform? op = onResult? (fun _ => .done) (s.onSite? k act))
    (still : ∀ site error, s.site? k = some site → (act site).1 = .error error →
      (act site).2 = site) (failed : s.fails op = true) : s.Spared op (s.perform op) := by
  obtain ⟨error, t, eq, rfl⟩ := performed_of_fails failed
  rw [performed] at eq
  rw [still_of_onSite? (error_of_onResult? (fun _ => rfl) eq) (still · error)]
  exact .still op

theorem spared_openStream (failed : s.fails (.openStream k) = true) :
    s.Spared (.openStream k) (s.perform (.openStream k)) := by
  obtain ⟨error, t, eq, rfl⟩ := performed_of_fails failed
  obtain ⟨site, after, found, opened, eq⟩ :=
    of_trySite?_eq_some (error_of_onResult? (fun _ => rfl) eq)
  obtain ⟨there, -⟩ := endpoint_of_site? found
  rw [eq]
  have opening := Site.opening_of_openStream? opened
  have put (d : Device) : s.putSite k { site with endpoint := { site.endpoint with device := d } } =
      { s with endpoints := s.endpoints.setIfInBounds k { site.endpoint with device := d } } := by
    obtain ⟨e, -, rfl⟩ := Option.map_eq_some_iff.mp found
    rfl
  cases opening with
  | barred =>
    rw [putSite_self found]
    exact .still _
  | refused _ phase =>
    rw [put]
    exact .reopened k _ _ there phase (.inl rfl)
  | rejected _ _ phase =>
    rw [put]
    exact .reopened k _ _ there phase (.inr rfl)

theorem spared_acquire {config : StreamConfig} {plan : Plan}
    (failed : s.fails (.acquire config plan) = true) :
    s.Spared (.acquire config plan) (s.perform (.acquire config plan)) := by
  obtain ⟨error, t, eq, -⟩ := performed_of_fails failed
  have acquired := s.acquired_acquire config plan
  rw [error_of_onResult? (fun _ => rfl) eq, Option.map_some] at acquired
  rw [perform_acquire]
  generalize s.acquired config plan = after at acquired ⊢
  cases acquired with
  | refused _ site _ failed =>
    cases Site.opening_of_openStream? failed with
    | barred _ phase => exact absurd rfl phase
    | refused => exact .unmade config plan _ (.inl rfl)
    | rejected => exact .unmade config plan _ (.inr rfl)

theorem spared_start {id : StreamId} (sincere : s.Everywhere Endpoint.Sincere) (joined : s.Joined)
    (asks : op = .start k id ∨ op = .toggle id)
    (answer : s.reply? op = some (.failed error))
    (started : s.trySite? k (·.start? id) = some (.error error, t)) : s.Spared op t := by
  obtain ⟨site, after, found, starting, rfl⟩ := of_trySite?_eq_some started
  obtain ⟨there, channels⟩ := endpoint_of_site? found
  rcases Site.start?_of_error (sincere k _ there) (joined k _ there) starting with
    rfl | ⟨reason, key, rfl, known, rfl⟩
  · rw [putSite_self found]
    exact .still op
  · have put : s.putSite k (site.modifyChannel key fun c => (c.enter .started).stop) =
        { s with channels := s.channels.modify key fun c => (c.enter .started).stop } := by
      obtain ⟨e, there, rfl⟩ := Option.map_eq_some_iff.mp found
      obtain ⟨inside, rfl⟩ := Array.getElem?_eq_some_iff.mp there
      simp only [putSite, Site.modifyChannel, Array.setIfInBounds_def, dif_pos inside,
        Array.set_getElem_self]
    rw [put]
    exact .unspawned op reason k key id site asks answer found known

theorem of_toggled_eq_error {state : ChannelState}
    {result : Option (Except EndpointError Unit × Server)}
    (refused : toggled state result = some (.error error, t)) :
    result = some (.error error, t) := by
  rcases result with _ | ⟨_ | _, u⟩ <;> cases refused
  rfl

theorem spared_toggle {id : StreamId} (sincere : s.Everywhere Endpoint.Sincere) (joined : s.Joined)
    (answer : s.reply? (.toggle id) = some (.failed error))
    (refused : s.toggle? id = some (.error error, t)) : s.Spared (.toggle id) t := by
  cases found : s.find? id with
  | none =>
    rw [toggle?_of_unknown found] at refused
    cases refused
    exact .still _
  | some k =>
    cases running : s.isRunning k id with
    | true =>
      rw [toggle?_of_running found running] at refused
      rw [still_of_onSite? (of_toggled_eq_error refused) fun _ _ => Site.stop_of_error]
      exact .still _
    | false =>
      rw [toggle?_of_resting found running] at refused
      exact spared_start sincere joined (.inr rfl) answer (of_toggled_eq_error refused)

theorem still_createChannel? (refused : s.createChannel? k = some (.error error, t)) : t = s := by
  obtain ⟨e, there, made⟩ := Option.bind_eq_some_iff.mp refused
  cases phase : e.phase with
  | closed owned =>
    rw [Endpoint.line?, phase] at made
    cases made
    rfl
  | opened line =>
    rw [createChannel?_of_opened there phase] at refused
    obtain ⟨ring, -, eq⟩ := Option.map_eq_some_iff.mp refused
    cases eq

theorem spared_of_fails (sincere : s.Everywhere Endpoint.Sincere) (joined : s.Joined)
    (failed : s.fails op = true) : s.Spared op (s.perform op) := by
  cases op with
  | acquire => exact spared_acquire failed
  | openStream => exact spared_openStream failed
  | closeStream => exact spared_of_site rfl (fun site _ _ => Site.closeStream_of_error) failed
  | createChannel k =>
    obtain ⟨error, t, eq, after⟩ := performed_of_fails failed
    rw [after, still_createChannel? (error_of_onResult? (fun _ => rfl) eq)]
    exact .still _
  | register k channel =>
    obtain ⟨error, t, eq, after⟩ := performed_of_fails failed
    obtain ⟨c, -, acted⟩ := Option.bind_eq_some_iff.mp (error_of_onResult? (fun _ => rfl) eq)
    rw [after, still_of_onSite? acted fun site _ => Site.register_of_error]
    exact .still _
  | start k id =>
    obtain ⟨error, t, eq, after⟩ := performed_of_fails failed
    rw [after]
    exact spared_start sincere joined (.inl rfl) (by rw [reply?, eq]; rfl)
      (error_of_onResult? (fun _ => rfl) eq)
  | stop => exact spared_of_site rfl (fun site _ _ => Site.stop_of_error) failed
  | setVolume => exact spared_of_site rfl (fun site _ _ => Site.setVolume_of_error) failed
  | toggle id =>
    obtain ⟨error, t, eq, after⟩ := performed_of_fails failed
    rw [after]
    exact spared_toggle sincere joined (by rw [reply?, eq]; rfl)
      (error_of_onResult? (fun _ => rfl) eq)
  | release handle =>
    obtain ⟨error, t, eq, -⟩ := performed_of_fails failed
    obtain ⟨u, -, answer⟩ := Option.map_eq_some_iff.mp eq
    cases answer
  | setPlan | extendScript | grant | unregister | disconnectAll =>
    obtain ⟨error, t, eq, -⟩ := performed_of_fails failed
    rw [perform?] at eq
    obtain ⟨site, -, answer, -⟩ := of_onSite?_eq_some eq
    cases answer
  | write | pop | setGain | disconnect | fault | drainEvents =>
    obtain ⟨error, t, eq, -⟩ := performed_of_fails failed
    rw [perform?] at eq
    obtain ⟨c, -, answer⟩ := Option.map_eq_some_iff.mp eq
    cases answer
  | retarget channel threshold =>
    obtain ⟨error, t, eq, -⟩ := performed_of_fails failed
    rw [perform?] at eq
    obtain ⟨c, -, answer⟩ := Option.map_eq_some_iff.mp eq
    dsimp only at answer
    split at answer <;> cases answer
  | addEndpoint | addChannel | setLevel | drainLog => cases failed

namespace Like

variable {u : Server}

protected theorem refl (s : Server) : s.Like .vain s :=
  .of_channels rfl (Past.channels_whole 0 #[] s.channels).symm

theorem spared (h : s.Like .vain t) (spared : t.Spared op u)
    (spawned : t.starves op = false) : s.Like .vain u := by
  cases spared with
  | unspawned _ reason _ _ _ _ _ answer =>
    rw [starves, answer] at spawned
    cases spawned
  | still => exact h
  | unmade =>
    exact ⟨h.options, h.held, h.handles, h.nextStream, h.log, h.channels, h.size, h.endpoints⟩
  | reopened k f d there owned spurned =>
    refine ⟨h.options, h.held, h.handles, h.nextStream, h.log, h.channels, by simp [h.size], ?_⟩
    intro i e g before after
    rw [Array.getElem?_setIfInBounds] at after
    split at after
    next same =>
      subst same
      split at after
      · cases after
        obtain ⟨same, plan, script, calls⟩ := h.endpoints k e f before there
        refine ⟨same, ?_, ?_, calls.spurned spurned⟩
        · rw [← plan]
          rcases spurned with rfl | rfl <;> rfl
        · rw [← script]
          rcases spurned with rfl | rfl <;> rfl
      · cases after
    next => exact h.endpoints i e g before after

end Like

def successes (s : Server) : List Operation → List Operation
  | [] => []
  | op :: ops =>
    if s.fails op then (s.perform op).successes ops else op :: (s.perform op).successes ops

def replies (s : Server) : List Operation → List (Option Reply)
  | [] => []
  | op :: ops => s.reply? op :: (s.perform op).replies ops

def FailsCleanly (s : Server) (ops : List Operation) : Prop :=
  ∀ before op after, ops = before ++ op :: after → (s.run before).fails op = true →
    (s.run before).Joined ∧ (s.run before).starves op = false

theorem FailsCleanly.tail {ops : List Operation} (h : s.FailsCleanly (op :: ops)) :
    (s.perform op).FailsCleanly ops :=
  fun before next after eq => h (op :: before) next after (by rw [eq]; rfl)

theorem run_successes (h : s.Like .vain t) (sincere : t.Everywhere Endpoint.Sincere)
    {ops : List Operation} (clean : t.FailsCleanly ops) :
    s.replies (t.successes ops) = (t.replies ops).filter (!·.any Reply.isFailure) ∧
      (s.run (t.successes ops)).Like .vain (t.run ops) := by
  -- The induction is over the run with the failures. The one without them falls behind by a step
  -- wherever one fails, and the two servers stay alike.
  induction ops generalizing s t with
  | nil => exact ⟨rfl, h⟩
  | cons op ops ih =>
    have sincere' := lasting_sincere.perform sincere op
    rw [successes, replies, run_cons]
    cases fails : t.fails op with
    | true =>
      obtain ⟨joined, spawned⟩ := clean [] op ops rfl fails
      have spared := spared_of_fails sincere joined fails
      rw [if_pos rfl, List.filter_cons_of_neg]
      · exact ih (h.spared spared spawned) sincere' clean.tail
      · simpa [Server.fails] using fails
    | false =>
      obtain ⟨same, like⟩ := h.perform rfl op fun _ _ _ => rfl
      obtain ⟨replied, after⟩ := ih like sincere' clean.tail
      rw [if_neg Bool.false_ne_true, replies, run_cons, ← same, replied, List.filter_cons_of_pos]
      · exact ⟨rfl, after⟩
      · simpa [Server.fails] using fails

theorem failures_leave_no_trace (options : Options) (ops : List Operation) :
    let s := run { options } ops
    (∀ op, s.Joined → s.fails op = true → s.Spared op (s.perform op)) ∧
    ∀ more, s.FailsCleanly more →
      s.replies (s.successes more) = (s.replies more).filter (!·.any Reply.isFailure) ∧
        (s.run (s.successes more)).Like .vain (s.run more) := by
  intro s
  have sincere : s.Everywhere Endpoint.Sincere := lasting_sincere.run options ops
  exact ⟨fun op => spared_of_fails sincere, fun more => run_successes (.refl s) sincere⟩

theorem failures_leave_no_trace_of_two_openings :
    let s := run { options := {} } [.addEndpoint {} {} { burst := some 0 }]
    let more := [.openStream 0, .acquire {} { openError := some (.device "busy") }, .setPlan 0 {},
      .openStream 0]
    (s.fails (.openStream 0) = true ∧ s.Spared (.openStream 0) (s.perform (.openStream 0))) ∧
      (s.successes more).length = 2 ∧
      s.replies (s.successes more) = (s.replies more).filter (!·.any Reply.isFailure) ∧
      (s.run (s.successes more)).Like .vain (s.run more) := by
  intro s more
  have quiet : ∀ n < 5, (s.run (more.take n)).endpoints.toList.all (!·.streaming) = true := by
    decide
  have spawned : ∀ n < 4, (more[n]?.any fun op => (s.run (more.take n)).starves op) = false := by
    decide
  have clean : s.FailsCleanly more := by
    intro before op after eq _
    have lengths := congrArg List.length eq
    simp only [more, List.length_append, List.length_cons, List.length_nil] at lengths
    have still := quiet before.length (by omega)
    have here := spawned before.length (by omega)
    rw [eq, List.take_left] at still here
    rw [List.getElem?_append_right (Nat.le_refl _), Nat.sub_self] at here
    exact ⟨joined_of_idle still, here⟩
  have ⟨spared, erased⟩ := failures_leave_no_trace {} [.addEndpoint {} {} { burst := some 0 }]
  have failed : s.fails (.openStream 0) = true := by decide
  exact ⟨⟨failed, spared _ (joined_of_idle (quiet 0 (by decide))) failed⟩, by decide,
    erased more clean⟩

theorem start_without_thread_is_told :
    let s := run { options := {} }
      [.acquire {} { spawnError := some "out of threads" }, .createChannel 0, .register 0 0]
    s.Joined ∧ s.fails (.start 0 ⟨1⟩) = true ∧ s.channels.toList.map (·.events) = [[]] ∧
      (s.perform (.start 0 ⟨1⟩)).channels.toList.map (·.events) = [[.started, .stopped]] := by
  intro s
  exact ⟨joined_of_idle (by decide), by decide, by decide, by decide⟩

end Server

end SharedAudio

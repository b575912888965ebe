import SharedAudio.Proofs.Endpoint.Failure
import SharedAudio.Proofs.Server.Work

namespace SharedAudio.Server

variable {s t : Server} {k key : Nat} {site : Site} {c : Channel}

theorem lasting_sincere : Lasting Endpoint.Sincere where
  fresh _ _ _ := Endpoint.sincere_of_closed rfl
  counted _ _ sincere := sincere.congr rfl rfl rfl
  opened _ := Site.sincere_opened
  started _ id sincere := Site.sincere_start sincere id
  worked _ _ work := work.steady Site.steady_sincere

theorem perform?_register (found : t.site? k = some site) (present : t.channels[key]? = some c) :
    t.perform? (.register k key) =
      some (.ofUnit (site.register key c).1, t.putSite k (site.register key c).2) := by
  rw [perform?, register?, present]
  change onResult? _ (t.onSite? k (·.register key c)) = _
  rw [onSite?, found]
  rfl

theorem perform?_register_of_fits (found : t.site? k = some site)
    (opened : site.endpoint.isOpen = true) (fits : site.Fits key c) :
    t.perform? (.register k key) = some (.done, t.putSite k (site.including key)) := by
  have present : t.channels[key]? = some c := (endpoint_of_site? found).2 ▸ fits.present
  rw [perform?_register found present, Site.register_of_new opened fits.width fits.new fits.room]
  rfl

theorem start_after_register (found : t.site? k = some site) (usable : site.endpoint.usable = true)
    (fits : site.Fits key c) :
    let u := t.perform (.register k key)
    (t.perform? (.register k key)).map (·.1) = some .done ∧
      (u.perform? (.start k c.id)).map (·.1) = (((site.including key).modifyChannel key fun _ =>
        c.enter .started).launch?.map (·.1)).map Reply.ofUnit ∧
      ((u.perform? (.start k c.id)).map (·.1) = some .done →
        (u.perform (.start k c.id)).Runs key) := by
  intro u
  obtain ⟨opened, healthy⟩ := Endpoint.usable_iff.mp usable
  have registered := perform?_register_of_fits found opened fits
  have inside := (Array.getElem?_eq_some_iff.mp (endpoint_of_site? found).1).1
  have found' : u.site? k = some (site.including key) := by
    rw [show u = t.putSite k (site.including key) by simp only [u, perform, registered]; rfl]
    exact site?_putSite inside
  have known := Site.find?_including fits.present fits.new
  have reply := map_reply_start found' c.id
  have starts : c.start = .ok (c.enter .started) := by rw [Channel.start, fits.stopped]
  rw [Site.start?_of_starts (s := site.including key) opened healthy known fits.present
    starts] at reply
  refine ⟨by rw [registered]; rfl, reply, fun done => ?_⟩
  rw [map_reply_start found' c.id] at done
  have answer : ((site.including key).start? c.id).map (·.1) = some (.ok ()) := by
    obtain ⟨answer, same, eq⟩ := Option.map_eq_some_iff.mp done
    cases answer with
    | error error => cases eq
    | ok => exact same
  have inside' : k < u.endpoints.size :=
    (Array.getElem?_eq_some_iff.mp (endpoint_of_site? found').1).1
  rw [perform_start, actOn_of_site found']
  exact (runs_site (site?_putSite inside')).mp (Site.runs_of_start? answer known)

theorem push_inj {handles : Array (Option Nat)} {k l : Nat}
    (h : handles.push (some k) = handles.push (some l)) : k = l := by
  have last := congrArg (·[handles.size]?) h
  simpa using last

theorem alive_of_acquire (sincere : s.Everywhere Endpoint.Sincere) (config : StreamConfig)
    (plan : Plan) (pushed : (s.acquired config plan).handles = s.handles.push (some k))
    {f : Endpoint} (there : (s.acquired config plan).endpoints[k]? = some f) :
    f.usable = true ∧ (k ∈ s.held ∨ k = s.endpoints.size) ∧
      (f.Panicked ∧ (∃ e, k ∈ s.held ∧ s.endpoints[k]? = some e ∧ e.Panicked) ∨
        f.device.spoilt = false ∧ ∃ line, f.phase = .opened line ∧ line.loop.ready = true) := by
  obtain ⟨answer, acquired⟩ := s.acquired_cases config plan
  have after := lasting_sincere.acquire sincere config plan
  generalize s.acquired config plan = t at acquired pushed there after
  cases acquired with
  | shared l e held was usable serves =>
    obtain rfl := push_inj pushed
    have sincere' := after l f there
    rw [Array.getElem?_modify, if_pos rfl, was] at there
    cases there
    obtain ⟨opened, healthy⟩ := Endpoint.usable_iff.mp usable
    obtain ⟨line, phase⟩ := Endpoint.opened_of_isOpen opened
    refine ⟨usable, .inl held, ?_⟩
    rcases sincere' line phase healthy with dead | ⟨ready, unspoilt⟩
    · exact .inl ⟨⟨line, phase, dead⟩, e, held, was, line, phase, dead⟩
    · exact .inr ⟨unspoilt, line, phase, ready⟩
  | panicked | refused =>
    have size := congrArg Array.size pushed
    simp at size
  | fresh site unshared opening =>
    obtain rfl := push_inj pushed
    rw [Array.getElem?_push_size] at there
    cases there
    have unspoilt := Site.unspoilt_of_ok opening
    obtain ⟨params, buffer, device, frames, -, -, -, -, opened⟩ := Site.openStream?_of_ok opening
    refine ⟨?_, .inr rfl, .inr ⟨unspoilt, ?_⟩⟩
    · rw [Endpoint.usable_iff, opened]
      exact ⟨rfl, rfl⟩
    · rw [opened]
      exact ⟨_, rfl, rfl⟩

theorem acquired_is_alive_unless_panicked (options : Options) (ops : List Operation)
    (config : StreamConfig) (plan : Plan) :
    let s := run { options } ops
    let t := s.acquired config plan
    ∀ k site, t.handles = s.handles.push (some k) → t.site? k = some site →
      site.endpoint.usable = true ∧ (k ∈ s.held ∨ k = s.endpoints.size) ∧
      (site.endpoint.Panicked ∧ (∃ e, k ∈ s.held ∧ s.endpoints[k]? = some e ∧ e.Panicked) ∨
        site.endpoint.device.spoilt = false ∧
          ∃ line, site.endpoint.phase = .opened line ∧ line.loop.ready = true) ∧
      ∀ key c, site.Fits key c →
        let u := t.perform (.register k key)
        let reply := (u.perform? (.start k c.id)).map (·.1)
        (t.perform? (.register k key)).map (·.1) = some .done ∧
        (site.endpoint.Panicked → reply = some (.failed
          (.streamFault (LoopExit.writeFailed Site.panicReason).message))) ∧
        (¬ site.endpoint.Panicked → reply = site.endpoint.welcome?.map Reply.ofUnit) ∧
        (reply = some .done → (u.perform (.start k c.id)).Runs key) := by
  intro s t k site pushed found
  obtain ⟨usable, origin, condition⟩ := alive_of_acquire (lasting_sincere.run options ops) config
    plan pushed (endpoint_of_site? found).1
  refine ⟨usable, origin, condition, fun key c fits => ?_⟩
  obtain ⟨registered, started, runs⟩ := start_after_register found usable fits
  refine ⟨registered, fun panicked => ?_, fun alive => ?_, runs⟩
  · have refused := Site.launch?_of_panicked
      (s := (site.including key).modifyChannel key fun _ => c.enter .started) panicked
    rw [started, refused]
    rfl
  · obtain ⟨line, opened, ready⟩ := (condition.resolve_left fun dead => alive dead.1).2
    have launched := Site.launch?_of_ready
      (s := (site.including key).modifyChannel key fun _ => c.enter .started) opened ready
    rw [launched] at started
    exact started

theorem acquired_is_alive_at_first :
    let s := run { options := {} } [.addChannel ⟨7⟩ (.heap 8 2)]
    let t := s.acquired {} {}
    let u := t.perform (.register 0 0)
    t.handles = s.handles.push (some 0) ∧ (u.perform? (.start 0 ⟨7⟩)).map (·.1) = some .done ∧
      (u.perform (.start 0 ⟨7⟩)).Runs 0 := by
  intro s t u
  have pushed : t.handles = s.handles.push (some 0) := by decide
  have facts : t.endpoints[0]?.map (fun e =>
      (e.streaming, e.config.channels, e.registered, e.options.maxChannels,
        e.welcome?.map Except.isOk)) = some (false, 2, [], 32, some true) := by decide
  obtain ⟨e, there, eq⟩ := Option.map_eq_some_iff.mp facts
  simp only [Prod.mk.injEq] at eq
  obtain ⟨quiet, width, nobody, room, granted⟩ := eq
  obtain ⟨_ | _, welcome, ok⟩ := Option.map_eq_some_iff.mp granted
  · cases ok
  have found := site?_of_endpoint there
  have fits : Site.Fits ⟨e, t.channels, t.log⟩ 0 { id := ⟨7⟩, ring := .heap 8 2 } := by
    refine ⟨?_, rfl, width.symm, ?_, ?_⟩
    · exact congrArg (·[0]?) (s.channels_acquire {} {})
    · simp [Site.ids, Site.registered, nobody]
    · simp [nobody, room]
  have alive : ¬ e.Panicked := by
    rintro ⟨line, opened, loop⟩
    rw [Endpoint.streaming_of_opened opened, loop] at quiet
    cases quiet
  have acquired := acquired_is_alive_unless_panicked {} [.addChannel ⟨7⟩ (.heap 8 2)] {} {}
  have begun : run { options := {} } [.addChannel ⟨7⟩ (.heap 8 2)] = s := rfl
  have shared : s.acquired {} {} = t := rfl
  dsimp only at acquired
  rw [begun, shared] at acquired
  obtain ⟨-, -, -, starts⟩ := acquired 0 _ pushed found
  obtain ⟨-, -, reply, runs⟩ := starts 0 _ fits
  have done := (reply alive).trans (congrArg (Option.map Reply.ofUnit) welcome)
  exact ⟨pushed, done, runs done⟩

theorem panicked_endpoint_is_shared :
    let s := run { options := {} } [.acquire {} {}, .createChannel 0, .register 0 0, .start 0 ⟨1⟩,
      .extendScript 0 [.panic], .grant 0 1]
    let t := s.acquired {} {}
    let u := t.run [.createChannel 0, .register 0 1]
    s.endpoints.toList.map (·.device.spoilt) = [true] ∧
      t.handles = s.handles.push (some 0) ∧ t.deviceCount = s.deviceCount ∧
      u.channels.toList.map (·.state) = [.running, .stopped] ∧
      u.endpoints.toList.map (·.registered) = [[0, 1]] ∧
      ((u.perform? (.start 0 ⟨2⟩)).map fun r => r.1 matches .failed (.streamFault _)) =
        some true := by
  decide

end SharedAudio.Server

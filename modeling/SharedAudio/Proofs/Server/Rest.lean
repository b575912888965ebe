import SharedAudio.Proofs.Endpoint.Rest
import SharedAudio.Proofs.Server.Work

namespace SharedAudio.Server

variable {s t : Server} {k l : Nat} {op : Operation}

section Stray

def Stray (s : Server) (k : Nat) : Prop := ∃ site, s.site? k = some site ∧ site.Stray

def Strands (s : Server) (k : Nat) (op : Operation) : Prop :=
  ∃ site, s.site? k = some site ∧ site.endpoint.streaming = true ∧ ¬ site.Silent ∧
    (op.Withdraws ∨ site.endpoint.Panicked ∧ ∃ id, op = .start k id ∨ op = .toggle id)

theorem stray_of_alike (stray : t.Stray k)
    (endpoints : ∀ f, t.endpoints[k]? = some f → ∃ e : Endpoint, s.endpoints[k]? = some e ∧
      (f.streaming = true → e.streaming = true) ∧ f.registered = e.registered)
    (runs : ∀ key, s.Runs key → t.Runs key) : s.Stray k := by
  obtain ⟨site, found, streaming, silent⟩ := stray
  obtain ⟨there, channels⟩ := endpoint_of_site? found
  obtain ⟨e, was, streams, registered⟩ := endpoints _ there
  refine ⟨_, site?_of_endpoint was, streams streaming, fun key member running => ?_⟩
  rw [runs_site (site?_of_endpoint was)] at running
  exact silent key (registered ▸ member) ((runs_site found).mpr (runs key running))

theorem stray_of_same (stray : t.Stray k) (endpoints : t.endpoints = s.endpoints)
    (runs : ∀ key, s.Runs key → t.Runs key) : s.Stray k :=
  stray_of_alike stray (fun f there => ⟨f, endpoints ▸ there, id, rfl⟩) runs

theorem stray_actOn (exclusive : s.Exclusive) {act : Site → Site}
    (apart : ∀ (site : Site) (key : Nat), key ∉ site.endpoint.registered →
      (act site).channels[key]? = site.channels[key]?)
    (stray : (s.actOn l act).Stray k) :
    s.Stray k ∨ l = k ∧ ∃ site, s.site? k = some site ∧ (act site).Stray := by
  cases found : s.site? l with
  | none =>
    rw [actOn_of_none found] at stray
    exact .inl stray
  | some site =>
    obtain ⟨there, channels⟩ := endpoint_of_site? found
    obtain ⟨after, found', streaming, silent⟩ := stray
    rw [actOn_of_site found] at found'
    obtain ⟨e, at', rfl⟩ := Option.map_eq_some_iff.mp found'
    rw [endpoints_putSite] at at'
    split at at'
    next same =>
      subst same
      obtain ⟨-, -, rfl⟩ := Option.map_eq_some_iff.mp at'
      exact .inr ⟨rfl, site, found, streaming, silent⟩
    next different =>
      refine .inl ⟨_, site?_of_endpoint at', streaming, fun key member running => ?_⟩
      have outside : key ∉ site.endpoint.registered := fun inside =>
        different (exclusive key l k ⟨_, there, inside⟩ ⟨e, at', member⟩)
      refine silent key member ?_
      obtain ⟨c, present, runs⟩ := running
      refine ⟨c, ?_, runs⟩
      change (act site).channels[key]? = some c
      rw [apart site key outside, channels]
      exact present

theorem stray_setReferences {count : UInt64} (stray : (s.setReferences l count).Stray k) :
    s.Stray k := by
  refine stray_of_alike stray (fun f there => ?_) fun _ => id
  rw [setReferences, Array.getElem?_modify] at there
  split at there
  · obtain ⟨e, was, rfl⟩ := Option.map_eq_some_iff.mp there
    exact ⟨e, was, id, rfl⟩
  · exact ⟨f, there, id, rfl⟩

theorem stray_unreference (exclusive : s.Exclusive) (stray : (s.unreference l).Stray k) :
    s.Stray k := by
  obtain ⟨count, eq | eq⟩ := s.unreference_cases l
  · rw [eq] at stray
    exact stray_setReferences stray
  · rw [eq, retire_eq] at stray
    have apart (site : Site) (key : Nat) (outside : key ∉ site.endpoint.registered) :
        (site.closeStream.2.announce "released and closed").channels[key]? =
          site.channels[key]? := by
      rw [Site.channels_announce]
      exact site.serves_closeStream.apart key outside
    have unlisted : ((s.setReferences l count).unlist l).Exclusive :=
      exclusive_setReferences exclusive l count
    rcases stray_actOn unlisted apart stray with before | ⟨-, site, -, streaming, -⟩
    · exact stray_setReferences before
    · rw [Site.endpoint_announce, site.streaming_closeStream] at streaming
      cases streaming

theorem stray_push (stray : t.Stray k) {e : Endpoint} (rest : e.streaming = false)
    (endpoints : t.endpoints = s.endpoints.push e) (runs : ∀ key, s.Runs key → t.Runs key) :
    s.Stray k := by
  by_cases new : k = s.endpoints.size
  · obtain ⟨site, found, streaming, -⟩ := stray
    have there := (endpoint_of_site? found).1
    rw [endpoints, new, Array.getElem?_push_size] at there
    cases there
    rw [rest] at streaming
    cases streaming
  · refine stray_of_alike stray (fun f there => ⟨f, ?_, id, rfl⟩) runs
    rwa [endpoints, Array.getElem?_push, if_neg new] at there

theorem stray_acquire {config : StreamConfig} {plan : Plan}
    (stray : (s.acquired config plan).Stray k) : s.Stray k := by
  obtain ⟨answer, acquired⟩ := s.acquired_cases config plan
  generalize s.acquired config plan = t at acquired stray
  cases acquired with
  | shared l e =>
    have counted : (s.setReferences l (e.references + 1)).Stray k :=
      stray_of_same stray rfl fun _ => id
    exact stray_setReferences counted
  | panicked | refused => exact stray_of_same stray rfl fun _ => id
  | fresh site _ opening =>
    have rests := Site.rests_opened
      ⟨{ config, options := s.options, device := s.newDevice plan }, s.channels, s.log⟩
    rw [Site.opened_of_openStream? opening] at rests
    exact stray_push (e := { site.endpoint with references := 1 }) stray (rests rfl).1 rfl
      fun _ => id

theorem strands_of_streaming {site : Site} (found : s.site? k = some site)
    (streaming : site.endpoint.streaming = true)
    (cause : op.Withdraws ∨ site.endpoint.Panicked ∧ ∃ id, op = .start k id ∨ op = .toggle id) :
    s.Stray k ∨ s.Strands k op := by
  by_cases silent : site.Silent
  · exact .inl ⟨site, found, streaming, silent⟩
  · exact .inr ⟨site, found, streaming, silent, cause⟩

theorem strands_of_withdraws (stray : t.Stray k) (withdraws : op.Withdraws)
    (streaming : ∀ f, t.endpoints[k]? = some f → ∃ e : Endpoint, s.endpoints[k]? = some e ∧
      e.streaming = f.streaming) : s.Stray k ∨ s.Strands k op := by
  obtain ⟨site, found, streams, -⟩ := stray
  obtain ⟨e, was, same⟩ := streaming _ (endpoint_of_site? found).1
  exact strands_of_streaming (site?_of_endpoint was) (same.trans streams) (.inl withdraws)

theorem stray_perform (served : s.Served) (exclusive : s.Exclusive)
    (stray : (s.perform op).Stray k) : s.Stray k ∨ s.Strands k op := by
  have performed := s.performed_perform op
  generalize s.perform op = t at performed stray
  cases performed with
  | acquire config plan => exact .inl (stray_acquire stray)
  | release handle l _ =>
    have left : (s.letGo handle).Exclusive := exclusive
    have before : (s.letGo handle).Stray k := stray_unreference left stray
    exact .inl (stray_of_same before rfl fun _ => id)
  | addEndpoint config options plan => exact .inl (stray_push stray rfl rfl fun _ => id)
  | openStream l =>
    rcases stray_actOn exclusive (fun site => site.serves_opened.apart) stray with
      before | ⟨rfl, site, found, after⟩
    · exact .inl before
    · exact .inl ⟨site, found, Site.stray_opened after⟩
  | start op l id asks =>
    rcases stray_actOn exclusive (fun site => (site.serves_start id).apart) stray with
      before | ⟨rfl, site, found, after⟩
    · exact .inl before
    · rcases Site.stray_start (served.served l site found) after with before | panicked
      · exact .inl ⟨site, found, before⟩
      · obtain ⟨line, opened, loop⟩ := panicked
        refine strands_of_streaming found ?_ (.inr ⟨⟨line, opened, loop⟩, id, asks⟩)
        rw [Endpoint.streaming_of_opened opened, loop, Loop.streaming]
  | disconnectAll l =>
    refine strands_of_withdraws stray trivial fun f there => ?_
    rw [endpoints_actOn] at there
    split at there
    · obtain ⟨site, found, rfl⟩ := Option.map_eq_some_iff.mp there
      exact ⟨_, (endpoint_of_site? found).1, rfl⟩
    · exact ⟨f, there, rfl⟩
  | work op l act work =>
    rcases stray_actOn exclusive (fun _ _ => work.apart) stray with
      before | ⟨rfl, site, found, after⟩
    · exact .inl before
    · exact .inl ⟨site, found, work.stray after⟩
  | aside op t endpoints _ _ runs =>
    rcases runs with withdraws | runs
    · exact strands_of_withdraws stray withdraws fun f there => ⟨f, endpoints ▸ there, rfl⟩
    · exact .inl (stray_of_same stray endpoints runs)

theorem stray_origin {options : Options} {ops : List Operation}
    (exclusive : ∀ before, before <+: ops → (run { options } before).Exclusive)
    (stray : (run { options } ops).Stray k) :
    ∃ before last after, ops = before ++ last :: after ∧ (run { options } before).Strands k last ∧
      ∀ since, since <+: after → (run { options } (before ++ last :: since)).Stray k := by
  refine origin_of_run (·.Stray k) (·.Strands k) ?_ (fun before op front after => ?_) stray
  · rintro ⟨site, found, -⟩
    simp [site?] at found
  · rw [run_append] at after
    have earlier := (List.prefix_append before [op]).trans front
    exact stray_perform (served_run options before fun first inside =>
      exclusive first (inside.trans earlier)) (exclusive before earlier) after

end Stray

section Rests

theorem wearing_rests : Wearing Endpoint.Rests where
  refl := .refl
  trans := .trans
  counted _ _ quiet := ⟨quiet, rfl⟩
  worked site _ work := work.rests site

theorem rests_perform (quiet : ¬ s.Starts k op) : Carries Endpoint.Rests s (s.perform op) k := by
  refine Carries.perform wearing_rests (fun _ site _ => site.rests_opened) ?_
  intro site id starts
  exact Site.rests_start fun answer => quiet (starts answer)

theorem rests_run {later : List Operation}
    (quiet : ∀ before next, before ++ [next] <+: later → ¬ (s.run before).Starts k next) :
    Carries Endpoint.Rests s (s.run later) k := by
  induction later generalizing s with
  | nil => exact Carries.of_endpoints wearing_rests rfl
  | cons op later ih =>
    have first : ¬ s.Starts k op := quiet [] op (by simp)
    refine Carries.trans wearing_rests (rests_perform first) (ih fun before next front => ?_)
    exact quiet (op :: before) next (List.cons_prefix_cons.mpr ⟨rfl, front⟩)

end Rests

section Stops

def Stops (op : Operation) (k : Nat) (id : StreamId) : Prop :=
  op = .stop k id ∨ op = .unregister k id

theorem not_strands_of_stops {id : StreamId} (stops : Stops op k id) : ¬ s.Strands l op := by
  rintro ⟨-, -, -, -, withdraws | ⟨-, other, asks⟩⟩
  · rcases stops with rfl | rfl <;> exact withdraws
  · rcases stops with rfl | rfl <;> rcases asks with asks | asks <;> cases asks

theorem streaming_of_stops {id : StreamId} {e : Endpoint} (stops : Stops op k id)
    (there : (s.perform op).endpoints[k]? = some e) (stray : s.Stray k) : e.streaming = true := by
  obtain ⟨site, found, alone⟩ := stray
  rcases stops with rfl | rfl
  · rw [perform_stop, endpoints_actOn, if_pos rfl, found] at there
    cases there
    exact Site.streaming_stop_of_stray alone
  · rw [perform_unregister, endpoints_actOn, if_pos rfl, found] at there
    cases there
    exact Site.streaming_unregister_of_stray alone

theorem rests_unless_stray (options : Options) (ops : List Operation)
    (exclusive : ∀ before, before <+: ops → (run { options } before).Exclusive)
    (k : Nat) (id : StreamId) (op : Operation) (stops : Stops op k id) :
    let s := run { options } ops
    let t := s.perform op
    ∀ e, t.endpoints[k]? = some e → (∀ key ∈ e.registered, ¬ t.Runs key) →
      (e.streaming = true ↔ s.Stray k) ∧
      (s.Stray k → ∃ before last after, ops = before ++ last :: after ∧
        (run { options } before).Strands k last ∧
        ∀ since, since <+: after → (run { options } (before ++ last :: since)).Stray k) ∧
      (e.streaming = false → ∀ later,
        (∀ before next, before ++ [next] <+: later → ¬ (t.run before).Starts k next) →
          ∃ f, (t.run later).endpoints[k]? = some f ∧ f.streaming = false ∧
            f.handed = e.handed) := by
  intro s t e there silent
  have served : s.Served := served_run options ops exclusive
  refine ⟨⟨fun streaming => ?_, streaming_of_stops stops there⟩, stray_origin exclusive, ?_⟩
  · have found := site?_of_endpoint there
    have stray : t.Stray k := by
      refine ⟨_, found, streaming, fun key member running => silent key member ?_⟩
      exact (runs_site found).mp running
    exact (stray_perform served (exclusive ops List.prefix_rfl) stray).resolve_right
      (not_strands_of_stops stops)
  · intro quiet later unstarted
    obtain ⟨f, after, rests⟩ := rests_run unstarted e there
    exact ⟨f, after, rests quiet⟩

theorem rests_unless_stray_at_one_channel :
    let s := run { options := {} } [.acquire {} {}, .createChannel 0, .register 0 0, .start 0 ⟨1⟩]
    let t := s.perform (.stop 0 ⟨1⟩)
    (∀ e, t.endpoints[0]? = some e → ∀ key ∈ e.registered, ¬ t.Runs key) ∧
      ∃ e f, t.endpoints[0]? = some e ∧ (t.run [.grant 0 1]).endpoints[0]? = some f ∧
        f.streaming = false ∧ f.handed = e.handed := by
  intro s t
  have stopped : t.channels.toList.map (·.state) = [.stopped] := by decide
  have silent (key : Nat) : ¬ t.Runs key := by
    rintro ⟨c, there, running⟩
    have state : c.state ∈ t.channels.toList.map (·.state) :=
      List.mem_map_of_mem (Array.mem_toList_iff.mpr (Array.mem_of_getElem? there))
    rw [stopped, List.mem_singleton] at state
    rw [Channel.isRunning, state] at running
    cases running
  have quiet : t.endpoints[0]?.map (·.streaming) = some false := by decide
  obtain ⟨e, there, rest⟩ := Option.map_eq_some_iff.mp quiet
  have exclusive (before : List Operation)
      (front : before <+: [.acquire {} {}, .createChannel 0, .register 0 0, .start 0 ⟨1⟩]) :
      (run { options := {} } before).Exclusive := exclusive_of_prefix front (by decide)
  obtain ⟨-, -, stays⟩ := rests_unless_stray {} _ exclusive 0 ⟨1⟩ (.stop 0 ⟨1⟩) (.inl rfl) e there
    fun key _ => silent key
  obtain ⟨f, after, still, same⟩ := stays rest [.grant 0 1] fun before next front => by
    obtain ⟨rfl, rfl⟩ : before = [] ∧ next = .grant 0 1 := by
      rcases before with _ | ⟨first, before⟩
      · simpa using front
      · simp at front
    rintro (⟨id, asks, -⟩ | ⟨id, asks, -⟩) <;> cases asks
  exact ⟨fun _ _ key _ => silent key, e, f, there, after, still, same⟩

theorem stop_leaves_stray_loop :
    let s := run { options := {} }
      [.acquire {} {}, .createChannel 0, .register 0 0, .start 0 ⟨1⟩, .disconnect 0]
    let t := s.perform (.stop 0 ⟨1⟩)
    ((s.perform? (.stop 0 ⟨1⟩)).map fun r => r.1 matches .done) = some true ∧
      t.channels.toList.map (·.state) = [.disconnected] ∧
      t.endpoints.toList.map (·.streaming) = [true] ∧
      t.endpoints.toList.map (·.handed.length) = [0] ∧
      (t.perform (.grant 0 1)).endpoints.toList.map (·.handed.length) = [1] := by
  decide

end Stops

end SharedAudio.Server

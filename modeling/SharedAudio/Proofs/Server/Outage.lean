import SharedAudio.Proofs.Endpoint.Latch
import SharedAudio.Proofs.Server.Work

namespace SharedAudio.Server

variable {s t : Server} {k i : Nat} {op : Operation} {w : Write} {exit : LoopExit}

section Outage

theorem site?_actOn_self (s : Server) {site : Site} (found : s.site? k = some site)
    (act : Site → Site) : (s.actOn k act).site? k = some (act site) := by
  have inside := (Array.getElem?_eq_some_iff.mp (endpoint_of_site? found).1).1
  rw [actOn_of_site found, site?_putSite inside]

theorem endpoints_actOn_of_ne (s : Server) {l : Nat} (ne : l ≠ k) (act : Site → Site) :
    (s.actOn k act).endpoints[l]? = s.endpoints[l]? := by
  rw [endpoints_actOn, if_neg fun same => ne same.symm]

def Outage (m : Server) (k : Nat) (w : Write) (exit : LoopExit) (t : Server) : Prop :=
  ∃ site after, m.site? k = some site ∧ t.site? k = some after ∧ site.Outage w exit after ∧
    ∀ l, l ≠ k → t.endpoints[l]? = m.endpoints[l]?

theorem outage_actOn {site : Site} (found : s.site? k = some site) {act : Site → Site} {n : Nat}
    (outage : (site.grantUpTo n 0).2.Outage w exit (act site)) :
    (s.perform (.grant k n)).Outage k w exit (s.actOn k act) := by
  rw [perform_grant]
  refine ⟨_, _, site?_actOn_self s found _, site?_actOn_self s found _, outage, fun l ne => ?_⟩
  rw [endpoints_actOn_of_ne s ne, endpoints_actOn_of_ne s ne]

theorem outage_of_ends {site : Site} (found : s.site? k = some site) {act : Site → Site}
    (ends : site.Ends (act site)) (later : site.endpoint.device.writes.length ≤ i)
    (there : (act site).endpoint.device.writes[i]? = some w)
    (fails : Fails w.frames w.answer exit) :
    (s.perform (.grant k (i - site.endpoint.device.writes.length))).Outage k w exit
      (s.actOn k act) := by
  obtain ⟨now, outage⟩ := ends.outage later there fails
  refine outage_actOn found ?_
  rw [now, Nat.sub_self]
  exact outage

theorem outage_of_work {site : Site} (found : s.site? k = some site) {act : Site → Site}
    (work : Site.Work act) (later : site.endpoint.device.writes.length ≤ i)
    (there : (act site).endpoint.device.writes[i]? = some w)
    (fails : Fails w.frames w.answer exit) :
    (s.perform (.grant k (i - site.endpoint.device.writes.length))).Outage k w exit
      (s.actOn k act) := by
  cases work with
  | grant n => exact outage_actOn found (Site.outage_grantUpTo later there fails)
  | device change calls =>
    exact outage_of_ends found (.inl (Device.writes_congr (calls _))) later there fails
  | close => exact outage_of_ends found site.ends_closeStream later there fails
  | register key c =>
    refine outage_of_ends found (.inl ?_) later there fails
    rcases site.register_cases key c with eq | ⟨-, -, -, eq⟩
    · rw [eq]
    · rw [eq]
      rfl
  | unregister id => exact outage_of_ends found (site.ends_unregister id) later there fails
  | stop id => exact outage_of_ends found (site.ends_stop id) later there fails
  | setVolume id volume =>
    refine outage_of_ends found (.inl ?_) later there fails
    rw [Site.endpoint_setVolume]

theorem outage_retire {e : Endpoint} (there : s.endpoints[k]? = some e) (count : UInt64)
    {f : Endpoint} (after : ((s.setReferences k count).retire k).endpoints[k]? = some f)
    (later : e.device.writes.length ≤ i) (write : f.device.writes[i]? = some w)
    (fails : Fails w.frames w.answer exit) :
    i = e.device.writes.length ∧ s.Outage k w exit ((s.setReferences k count).retire k) := by
  let site : Site := ⟨{ e with references := count }, s.channels, s.log⟩
  have found : ((s.setReferences k count).unlist k).site? k = some site := by
    refine site?_of_endpoint ?_
    rw [unlist, setReferences, Array.getElem?_modify, if_pos rfl, there]
    rfl
  have closed := Site.endpoint_announce site.closeStream.2 "released and closed"
  have channels := Site.channels_announce site.closeStream.2 "released and closed"
  rw [retire_eq] at after ⊢
  rw [endpoints_actOn, if_pos rfl, found, Option.map_some, closed] at after
  cases after
  obtain ⟨now, outage⟩ := site.ends_closeStream.outage later write fails
  refine ⟨now, ⟨e, s.channels, s.log⟩, _, site?_of_endpoint there, site?_actOn_self _ found _, ?_,
    fun l ne => ?_⟩
  · obtain ⟨waiting, burst, written, health, lastExit, bursts, quiet, registered, apart⟩ := outage
    refine ⟨waiting, burst, ?_, ?_, ?_, ?_, ?_, fun key member c present => ?_, ?_⟩
    · rw [closed, written]
    · rw [closed, health]
    · rw [closed, lastExit]
    · rw [closed, bursts]
    · rw [closed, quiet]
    · rw [closed, channels]
      exact registered key member c present
    · rw [channels]
      exact apart
  · rw [endpoints_actOn_of_ne _ ne, unlist, setReferences, Array.getElem?_modify,
      if_neg fun same => ne same.symm]

theorem writes_setReferences {e f : Endpoint} {l : Nat} {count : UInt64}
    (there : s.endpoints[k]? = some e) (after : (s.setReferences l count).endpoints[k]? = some f) :
    f.device.writes = e.device.writes := by
  rw [setReferences, Array.getElem?_modify, there] at after
  split at after <;> cases after <;> rfl

theorem outage_unreference {e f : Endpoint} {l : Nat} (there : s.endpoints[k]? = some e)
    (after : (s.unreference l).endpoints[k]? = some f) (later : e.device.writes.length ≤ i)
    (write : f.device.writes[i]? = some w) (fails : Fails w.frames w.answer exit) :
    i = e.device.writes.length ∧ s.Outage k w exit (s.unreference l) := by
  have written : f.device.writes ≠ e.device.writes := by
    intro same
    rw [same, List.getElem?_eq_none later] at write
    cases write
  obtain ⟨count, eq | eq⟩ := s.unreference_cases l
  · rw [eq] at after
    exact absurd (writes_setReferences there after) written
  · rw [eq] at after ⊢
    by_cases same : l = k
    · subst same
      exact outage_retire there count after later write fails
    · rw [retire_eq, endpoints_actOn, if_neg same] at after
      exact absurd (writes_setReferences there after) written

theorem writes_acquire (config : StreamConfig) (plan : Plan) {e f : Endpoint}
    (there : s.endpoints[k]? = some e) (after : (s.acquired config plan).endpoints[k]? = some f) :
    f.device.writes = e.device.writes := by
  have inside := (Array.getElem?_eq_some_iff.mp there).1
  obtain ⟨answer, acquired⟩ := s.acquired_cases config plan
  generalize s.acquired config plan = t at acquired after
  cases acquired with
  | shared l =>
    rw [Array.getElem?_modify, there] at after
    split at after <;> cases after <;> rfl
  | panicked | refused =>
    rw [there] at after
    cases after
    rfl
  | fresh =>
    rw [Array.getElem?_push_lt inside, ← Array.getElem?_eq_getElem inside, there] at after
    cases after
    rfl

theorem outage_perform {e f : Endpoint} (there : s.endpoints[k]? = some e)
    (after : (s.perform op).endpoints[k]? = some f) (later : e.device.writes.length ≤ i)
    (write : f.device.writes[i]? = some w) (fails : Fails w.frames w.answer exit) :
    (s.perform (.grant k (i - e.device.writes.length))).Outage k w exit (s.perform op) := by
  have written : f.device.writes ≠ e.device.writes := by
    intro same
    rw [same, List.getElem?_eq_none later] at write
    cases write
  have found := site?_of_endpoint there
  have inside := (Array.getElem?_eq_some_iff.mp there).1
  have grantNone : s.perform (.grant k 0) = s := by
    rw [perform_grant]
    exact s.actOn_self k
  -- Of the site that an operation works on, only the one at `k` can have been written to.
  have elsewhere {u : Server} {l : Nat} {act : Site → Site} (before : u.endpoints[k]? = some e)
      (acted : (u.actOn l act).endpoints[k]? = some f) : l = k := by
    refine Decidable.byContradiction fun ne => written ?_
    rw [endpoints_actOn_of_ne u (fun same => ne same.symm), before] at acted
    cases acted
    rfl
  have performed := s.performed_perform op
  generalize s.perform op = t at performed after ⊢
  cases performed with
  | acquire config plan => exact absurd (writes_acquire config plan there after) written
  | release handle l live =>
    have letGo : (s.letGo handle).endpoints[k]? = some e := there
    obtain ⟨now, outage⟩ := outage_unreference letGo after later write fails
    rw [now, Nat.sub_self, grantNone]
    exact outage
  | addEndpoint config options plan =>
    refine absurd ?_ written
    rw [addEndpoint, Array.getElem?_push_lt inside, ← Array.getElem?_eq_getElem inside, there]
      at after
    cases after
    rfl
  | openStream l =>
    obtain rfl := elsewhere there after
    rw [endpoints_actOn, if_pos rfl, found] at after
    cases after
    exact absurd (Site.writes_opened _) written
  | start op l id asks starts =>
    obtain rfl := elsewhere there after
    rw [endpoints_actOn, if_pos rfl, found] at after
    cases after
    exact absurd (congrArg Device.writes (Site.device_start _ id)) written
  | disconnectAll l =>
    obtain rfl := elsewhere there after
    rw [endpoints_actOn, if_pos rfl, found] at after
    cases after
    exact absurd rfl written
  | work op l act work =>
    obtain rfl := elsewhere there after
    rw [endpoints_actOn, if_pos rfl, found] at after
    cases after
    exact outage_of_work found work later write fails
  | aside op t endpoints =>
    rw [endpoints, there] at after
    cases after
    exact absurd rfl written

end Outage

section Latch

def Opens (s : Server) (k : Nat) (op : Operation) : Prop :=
  op = .openStream k ∧ (s.perform? op).map (·.1) = some .done

theorem map_reply_openStream {site : Site} (found : s.site? k = some site) :
    (s.perform? (.openStream k)).map (·.1) = (site.openStream?.map (·.1)).map Reply.ofUnit := by
  rw [perform?, trySite?, found, Option.bind_some]
  cases site.openStream? <;> rfl

theorem wearing_latches : Wearing Endpoint.Latches where
  refl := .refl
  trans := .trans
  counted e _ down := by
    obtain ⟨quiet, health, lastExit, writes⟩ := Endpoint.Latches.refl e down
    exact ⟨quiet, health, lastExit, writes⟩
  worked site _ work := work.latches site

theorem latches_perform (unopened : ¬ s.Opens k op) :
    Carries Endpoint.Latches s (s.perform op) k := by
  refine Carries.perform wearing_latches ?_ fun site id _ => site.latches_start id
  rintro rfl site found
  refine Site.latches_opened fun answer => unopened ⟨rfl, ?_⟩
  rw [map_reply_openStream found, answer]
  rfl

theorem latches_run {later : List Operation}
    (unopened : ∀ before next, before ++ [next] <+: later → ¬ (s.run before).Opens k next) :
    Carries Endpoint.Latches s (s.run later) k := by
  induction later generalizing s with
  | nil => exact Carries.of_endpoints wearing_latches rfl
  | cons op later ih =>
    have first : ¬ s.Opens k op := unopened [] op (by simp)
    refine Carries.trans wearing_latches (latches_perform first) (ih fun before next front => ?_)
    exact unopened (op :: before) next (List.cons_prefix_cons.mpr ⟨rfl, front⟩)

theorem start_refused {site : Site} (found : s.site? k = some site) {error : EndpointError}
    (ailment : site.endpoint.ailment? = some error) (id : StreamId) :
    (s.perform? (.start k id)).map (·.1) =
        some (.failed (if site.endpoint.isOpen = true then error else .notOpen)) ∧
      s.perform (.start k id) = s := by
  have refused := Site.start?_of_ill ailment id
  constructor
  · rw [map_reply_start found, refused]
    rfl
  · have same := s.actOn_self k
    rw [actOn_of_site found] at same
    rw [perform_start, actOn_of_site found, Site.started_of_start? refused]
    exact same

end Latch

theorem failure_is_contained (s : Server) (exclusive : s.Exclusive) (op : Operation) (k i : Nat)
    (w : Write) (exit : LoopExit) :
    let t := s.perform op
    ∀ e f, s.endpoints[k]? = some e → t.endpoints[k]? = some f →
      e.device.writes.length ≤ i → f.device.writes[i]? = some w →
      Fails w.frames w.answer exit →
      let m := s.perform (.grant k (i - e.device.writes.length))
      (∃ site after, m.site? k = some site ∧ t.site? k = some after ∧ site.Outage w exit after) ∧
      (∀ l other, l ≠ k → m.endpoints[l]? = some other →
        t.endpoints[l]? = some other ∧
          ∀ key ∈ other.registered, t.channels[key]? = m.channels[key]?) ∧
      ∀ later, (∀ before next, before ++ [next] <+: later → ¬ (t.run before).Opens k next) →
        let u := t.run later
        ∃ g, u.endpoints[k]? = some g ∧ g.streaming = false ∧ g.health = exit.health ∧
          g.lastExit = some exit ∧ g.device.writes = f.device.writes ∧
          ∀ id, (u.perform? (.start k id)).map (·.1) =
              some (.failed (if g.isOpen = true then exit.error else .notOpen)) ∧
            u.perform (.start k id) = u := by
  intro t e f there after later write fails m
  obtain ⟨site, last, found, found', outage, others⟩ :=
    outage_perform there after later write fails
  refine ⟨⟨site, last, found, found', outage⟩, fun l other ne at' => ⟨?_, fun key member => ?_⟩, ?_⟩
  · exact (others l ne).trans at'
  · have granted : m = s.actOn k fun site => (site.grantUpTo _ 0).2 := perform_grant ..
    have before : s.endpoints[l]? = some other := by
      rw [← at', granted, endpoints_actOn_of_ne s ne]
    have apart : key ∉ site.endpoint.registered := by
      intro inside
      have found' := found
      rw [show s.perform (.grant k (i - e.device.writes.length)) = m from rfl, granted,
        site?_actOn_self s (site?_of_endpoint there)] at found'
      cases found'
      have kept := Site.eases_grantUpTo ⟨e, s.channels, s.log⟩ (i - e.device.writes.length) 0
      rw [kept.registered] at inside
      exact ne (exclusive key l k ⟨other, before, member⟩ ⟨e, there, inside⟩)
    have same := outage.apart key apart
    rwa [(endpoint_of_site? found').2, (endpoint_of_site? found).2] at same
  · intro following unopened u
    obtain ⟨at', -⟩ := endpoint_of_site? found'
    rw [show (s.perform op).endpoints[k]? = some f from after] at at'
    cases at'
    have down : last.endpoint.Down := ⟨outage.quiet, outage.health ▸ fails.ill⟩
    obtain ⟨g, still, latches⟩ := latches_run unopened last.endpoint after
    obtain ⟨rest, health, lastExit, writes⟩ := latches down
    refine ⟨g, still, rest, health.trans outage.health, lastExit.trans outage.lastExit, writes,
      fun id => ?_⟩
    have ailment := Endpoint.ailment?_of_exit fails.ill (health.trans outage.health)
      (lastExit.trans outage.lastExit)
    exact start_refused (site?_of_endpoint still) ailment id

theorem failure_is_contained_in_stop :
    let s := run { options := {} } [.acquire {} {}, .createChannel 0, .createChannel 0,
      .register 0 0, .register 0 1, .start 0 ⟨1⟩, .extendScript 0 [.short 3]]
    let t := s.perform (.stop 0 ⟨1⟩)
    s.endpoints.toList.map (·.device.writes.length) = [0] ∧
      t.endpoints.toList.map (·.device.writes.length) = [1] ∧
      (∃ c d, s.channels[1]? = some c ∧ t.channels[1]? = some d ∧
        c.Struck (.faulted "short write 3/4 frames") d) ∧
      (t.perform? (.start 0 ⟨2⟩)).map (·.1) =
        some (.failed (.streamFault "short write 3/4 frames")) := by
  intro s t
  have before : s.endpoints[0]?.map (fun e => (e.device.writes.length, e.registered)) =
    some (0, [0, 1]) := by decide
  have after : t.endpoints[0]?.map (fun e => (e.isOpen, e.registered,
    e.device.writes.map fun w => (w.frames, w.answer))) =
      some (true, [0, 1], [(4, .accepted 3)]) := by decide
  obtain ⟨e, there, facts⟩ := Option.map_eq_some_iff.mp before
  obtain ⟨f, there', facts'⟩ := Option.map_eq_some_iff.mp after
  simp only [Prod.mk.injEq] at facts facts'
  obtain ⟨none, registered⟩ := facts
  obtain ⟨isOpen, registered', writes⟩ := facts'
  obtain ⟨w, only, answer⟩ := List.map_eq_singleton_iff.mp writes
  simp only [Prod.mk.injEq] at answer
  have fails : Fails w.frames w.answer (.shortWrite 3 4) := by
    rw [answer.1, answer.2]
    exact .short 3 (by decide)
  have exclusive : s.Exclusive := exclusive_of_prefix List.prefix_rfl (by decide)
  obtain ⟨⟨site, last, found, found', outage⟩, -, latched⟩ :=
    failure_is_contained s exclusive (.stop 0 ⟨1⟩) 0 0 w _ e f there there' (by omega)
      (by rw [only]; rfl) fails
  have granted : s.perform (.grant 0 (0 - e.device.writes.length)) = s := by
    rw [none, perform_grant]
    exact s.actOn_self 0
  rw [granted, site?_of_endpoint there] at found
  rw [show s.perform (.stop 0 ⟨1⟩) = t from rfl, site?_of_endpoint there'] at found'
  cases found
  cases found'
  have second : s.channels[1]?.isSome = true := by decide
  obtain ⟨c, present⟩ := Option.isSome_iff_exists.mp second
  obtain ⟨d, present', fate⟩ := outage.registered 1 (by simp [registered]) c present
  rw [if_neg (by simp [registered'])] at fate
  refine ⟨?_, ?_, ⟨c, d, present, present', fate⟩, ?_⟩
  · decide
  · decide
  · obtain ⟨g, still, -, -, -, -, refused⟩ := latched [] fun before next front => by
      simp at front
    obtain rfl := Option.some.inj (there'.symm.trans still)
    have reply := (refused ⟨2⟩).1
    rw [if_pos isOpen] at reply
    exact reply

end SharedAudio.Server

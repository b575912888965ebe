import SharedAudio.Proofs.Endpoint.Opening
import SharedAudio.Proofs.Endpoint.Shortfalls
import SharedAudio.Proofs.Mixing.Shortage
import SharedAudio.Proofs.Server.Clipping

namespace SharedAudio

structure Burst where
  endpoint : Nat
  short : List Nat
  grown : Nat → UInt64

def shorts (bursts : List Burst) : List Nat := bursts.flatMap Burst.short

namespace Server

def underflowsAt (s : Server) (k : Nat) : UInt64 := (s.endpoints[k]?.map (·.underflows)).getD 0

def underflowsOf (s : Server) (key : Nat) : UInt64 := (s.channels[key]?.map (·.underflows)).getD 0

def isOpenAt (s : Server) (k : Nat) : Bool := (s.endpoints[k]?.map Endpoint.isOpen).getD false

def mixed (before after : Server) (k : Nat) (e : Endpoint) (line : Line) : Burst where
  endpoint := k
  short := shortOf before.channels line.params.burst (runningOf after.channels e.registered)
  grown key := after.underflowsOf key - before.underflowsOf key

end Server

structure Ledger where
  server : Server
  bursts : List Burst := []
  opened : Nat → Nat := fun _ => 0

namespace Ledger

def step (x : Ledger) (op : Operation) : Ledger :=
  let after := x.server.perform op
  match x.server.mixing? after with
  | some (k, e, line) =>
    { x with server := after, bursts := x.bursts ++ [x.server.mixed after k e line] }
  | none =>
    { x with
      server := after
      opened := fun k =>
        if after.isOpenAt k && !x.server.isOpenAt k then x.bursts.length else x.opened k }

def run (options : Options) (ops : List Operation) : Ledger :=
  ops.foldl step { server := { options } }

def since (x : Ledger) (k : Nat) : List Burst :=
  (x.bursts.drop (x.opened k)).filter (·.endpoint == k)

def caused (x : Ledger) (k key : Nat) : UInt64 := ((x.since k).map (·.grown key)).sum

theorem server_step (x : Ledger) (op : Operation) : (x.step op).server = x.server.perform op := by
  rw [step]
  split <;> rfl

theorem run_concat (options : Options) (ops : List Operation) (op : Operation) :
    run options (ops ++ [op]) = (run options ops).step op := List.foldl_append

theorem server_run (options : Options) (ops : List Operation) :
    (run options ops).server = Server.run { options } ops := by
  induction ops using List.reverseRecOn with
  | nil => rfl
  | append_singleton ops op ih =>
    rw [run_concat, server_step, ih, Server.run_append]
    rfl

end Ledger

theorem Site.Deed.retains {op : Operation} {k : Nat} {act : Site → Site} (h : Site.Deed op k act)
    (stays : op ≠ .openStream k) (site : Site) : site.Retains (act site) := by
  cases h with
  | setPlan | extendScript => exact ⟨rfl, fun _ => rfl, fun opened => opened⟩
  | openStream => exact absurd rfl stays
  | closeStream => exact site.retains_closeStream
  | unregister k id => exact site.retains_unregister id
  | stop k id | toggle k id => exact site.retains_stop id
  | setVolume k id volume => exact site.retains_setVolume id volume
  | setLevel k id level => exact site.retains_setVolume id _
  | disconnectAll => exact site.retains_enterAll .disconnected

theorem Channel.Deed.underflows {op : Operation} {key : Nat} {act : Channel → Channel}
    (h : Channel.Deed op key act) (c : Channel) : (act c).underflows = c.underflows :=
  h.keeps (fun c e => c.underflows_enter e) (fun _ _ => rfl)
    (fun _ _ => rfl) (fun _ _ _ => rfl) c

namespace Server

variable {s t u : Server} {k key : Nat} {site : Site}

structure Retains (s t : Server) : Prop where
  total : ∀ k, t.underflowsAt k = s.underflowsAt k
  each : ∀ key, t.underflowsOf key = s.underflowsOf key
  stays : ∀ key : Nat, t.channels[key]? = none → s.channels[key]? = none
  opens : ∀ k, t.isOpenAt k = true → s.isOpenAt k = true ∨ s.underflowsAt k = 0

structure Resumes (s t : Server) : Prop where
  total : ∀ k, t.underflowsAt k =
    if t.isOpenAt k && !s.isOpenAt k then 0 else s.underflowsAt k
  each : ∀ key, t.underflowsOf key = s.underflowsOf key
  stays : ∀ key : Nat, t.channels[key]? = none → s.channels[key]? = none

namespace Retains

theorem resumes (h : s.Retains t) : s.Resumes t where
  total k := by
    rw [h.total]
    split
    next opens =>
      simp only [Bool.and_eq_true, Bool.not_eq_true'] at opens
      rcases h.opens k opens.1 with before | none
      · rw [before] at opens
        cases opens.2
      · exact none
    next => rfl
  each := h.each
  stays := h.stays

theorem trans (h : s.Retains t) (g : t.Retains u) : s.Retains u where
  total k := (g.total k).trans (h.total k)
  each key := (g.each key).trans (h.each key)
  stays key absent := h.stays key (g.stays key absent)
  opens k opened := by
    rcases g.opens k opened with before | none
    · exact h.opens k before
    · exact .inr ((h.total k).symm.trans none)

theorem of_same (endpoints : t.endpoints = s.endpoints) (channels : t.channels = s.channels) :
    s.Retains t where
  total k := by rw [underflowsAt, endpoints, underflowsAt]
  each key := by rw [underflowsOf, channels, underflowsOf]
  stays key absent := channels ▸ absent
  opens k opened := .inl (by rwa [isOpenAt, endpoints] at opened)

theorem refl (s : Server) : s.Retains s := of_same rfl rfl

theorem putSite (found : s.site? k = some site) {after : Site} (retains : site.Retains after) :
    s.Retains (s.putSite k after) := by
  obtain ⟨there, channels⟩ := endpoint_of_site? found
  have each (key : Nat) : (s.putSite k after).channels[key]?.map (·.underflows) =
      s.channels[key]?.map (·.underflows) := by
    rw [← channels]
    exact retains.each key
  refine ⟨fun l => ?_, fun key => ?_, fun key absent => ?_, fun l opened => ?_⟩
  · rw [underflowsAt, endpoints_putSite, underflowsAt]
    split
    next same =>
      subst same
      rw [there]
      exact retains.total
    next => rfl
  · rw [underflowsOf, each, underflowsOf]
  · rw [← Option.map_eq_none_iff (f := (·.underflows)), ← each, absent]
    rfl
  · rw [isOpenAt, endpoints_putSite] at opened
    split at opened
    next same =>
      subst same
      rw [there] at opened
      rw [isOpenAt, there]
      exact .inl (retains.isOpen opened)
    next => exact .inl opened

theorem actOn (k : Nat) {act : Site → Site} (retains : ∀ site : Site, site.Retains (act site)) :
    s.Retains (s.actOn k act) := by
  cases found : s.site? k with
  | none =>
    rw [actOn_of_none found]
    exact refl s
  | some site =>
    rw [actOn_of_site found]
    exact putSite found (retains site)

theorem actOnChannel (key : Nat) {act : Channel → Channel}
    (kept : ∀ c, (act c).underflows = c.underflows) : s.Retains (s.actOnChannel key act) := by
  have each := s.map_actOnChannel (f := (·.underflows)) key kept
  refine ⟨fun k => ?_, fun other => ?_, fun other absent => ?_, fun k opened => .inl ?_⟩
  · rw [underflowsAt, endpoints_actOnChannel, underflowsAt]
  · rw [underflowsOf, each, underflowsOf]
  · rw [← Option.map_eq_none_iff (f := (·.underflows)), ← each, absent]
    rfl
  · rwa [isOpenAt, endpoints_actOnChannel] at opened

theorem addChannel (s : Server) (id : StreamId) (ring : Ring) :
    s.Retains (s.addChannel id ring).2 := by
  refine ⟨fun _ => rfl, fun key => ?_, fun key absent => ?_, fun _ opened => .inl opened⟩
  · rw [underflowsOf, Server.addChannel, Array.getElem?_push, underflowsOf]
    split
    next last => rw [last, Array.getElem?_eq_none (Nat.le_refl _)]; rfl
    next => rfl
  · rw [Server.addChannel, Array.getElem?_push] at absent
    split at absent
    · cases absent
    · exact absent

theorem push {f : Endpoint} (endpoints : t.endpoints = s.endpoints.push f)
    (channels : t.channels = s.channels) (none : f.underflows = 0) : s.Retains t := by
  refine ⟨fun k => ?_, fun key => ?_, fun key absent => channels ▸ absent, fun k opened => ?_⟩
  · rw [underflowsAt, endpoints, Array.getElem?_push, underflowsAt]
    split
    next last =>
      rw [last, Array.getElem?_eq_none (Nat.le_refl _)]
      exact none
    next => rfl
  · rw [underflowsOf, channels, underflowsOf]
  · rw [isOpenAt, endpoints, Array.getElem?_push] at opened
    split at opened
    next last =>
      rw [underflowsAt, last, Array.getElem?_eq_none (Nat.le_refl _)]
      exact .inr rfl
    next => exact .inl opened

theorem setReferences (s : Server) (k : Nat) (count : UInt64) :
    s.Retains (s.setReferences k count) := by
  have same (l : Nat) {α : Type} (view : Endpoint → α)
      (kept : ∀ e : Endpoint, view { e with references := count } = view e) :
      (s.setReferences k count).endpoints[l]?.map view = s.endpoints[l]?.map view := by
    rw [Server.setReferences, Array.getElem?_modify]
    split
    · rw [Option.map_map]
      exact congrArg (Option.map · _) (funext kept)
    · rfl
  refine ⟨fun l => ?_, fun _ => rfl, fun _ absent => absent, fun l opened => .inl ?_⟩
  · rw [underflowsAt, same l (·.underflows) fun _ => rfl, underflowsAt]
  · rwa [isOpenAt, same l Endpoint.isOpen fun _ => rfl] at opened

theorem unreference (s : Server) (k : Nat) : s.Retains (s.unreference k) := by
  obtain ⟨count, eq | eq⟩ := s.unreference_cases k
  · rw [eq]
    exact setReferences s k count
  · have closes (site : Site) :
        site.Retains (site.closeStream.2.announce "released and closed") :=
      site.retains_closeStream.announce _
    have unlisted : s.Retains ((s.setReferences k count).unlist k) :=
      (setReferences s k count).trans (of_same rfl rfl)
    rw [eq, retire_eq]
    exact unlisted.trans (actOn k closes)

theorem acquire (s : Server) (config : StreamConfig) (plan : Plan) :
    s.Retains (s.acquired config plan) := by
  obtain ⟨answer, acquired⟩ := s.acquired_cases config plan
  generalize s.acquired config plan = t at acquired ⊢
  cases acquired with
  | shared l e => exact (setReferences s l (e.references + 1)).trans (of_same rfl rfl)
  | panicked => exact .refl s
  | refused => exact of_same rfl rfl
  | fresh site _ opening =>
    refine push (f := { site.endpoint with references := 1 }) rfl rfl ?_
    cases Site.opening_of_openStream? opening with
    | opened _ _ _ _ _ _ _ _ _ endpoint => rw [endpoint]

end Retains

theorem resumes_openStream (s : Server) (k : Nat) :
    s.Resumes (s.actOn k fun site => site.opened) := by
  cases found : s.site? k with
  | none =>
    rw [actOn_of_none found]
    exact (Retains.refl s).resumes
  | some site =>
    rw [actOn_of_site found]
    rcases site.opening_opened with same | ⟨answer, opening⟩
    · rw [same]
      exact (Retains.putSite found (.refl site)).resumes
    generalize site.opened = after at opening ⊢
    cases opening with
    | barred => exact (Retains.putSite found (.refl site)).resumes
    | refused | rejected =>
      refine (Retains.putSite found ?_).resumes
      exact ⟨rfl, fun _ => rfl, fun opened => opened⟩
    | opened params _ _ phase _ _ _ _ channels endpoint =>
      obtain ⟨there, same⟩ := endpoint_of_site? found
      have all : (s.putSite k after).channels = s.channels := channels.trans same
      refine ⟨fun l => ?_, fun key => ?_, fun key absent => all ▸ absent⟩
      · rw [underflowsAt, isOpenAt, isOpenAt, endpoints_putSite, underflowsAt]
        split
        next is =>
          subst is
          have shut : site.endpoint.isOpen = false := by
            rw [Endpoint.isOpen, Endpoint.line?, phase]
            rfl
          rw [there, endpoint]
          simp only [Option.map_some, Option.getD_some, shut]
          rfl
        next => simp
      · rw [underflowsOf, all, underflowsOf]

theorem actOn_resumes_or_mixes (k : Nat) {act : Site → Site}
    (either : ∀ site : Site, site.Retains (act site) ∨ ∃ line mixer ready,
      site.Mixes line mixer ready ∧ act site = ready.continueLoop mixer) :
    s.Resumes (s.actOn k act) ∨ s.MixesTo (s.actOn k act) :=
  actOn_or_mixes k (Retains.refl s).resumes
    (fun _ _ found retains => (Retains.putSite found retains).resumes) either

theorem perform_resumes_or_mixes (s : Server) {op : Operation} (single : op.units = [op]) :
    s.Resumes (s.perform op) ∨ s.MixesTo (s.perform op) := by
  have deed := s.deed_perform op
  generalize s.perform op = t at deed ⊢
  cases deed with
  | still => exact .inl (Retains.refl s).resumes
  | acquire config plan => exact .inl (Retains.acquire s config plan).resumes
  | release handle k =>
    have left : s.Retains (s.letGo handle) := .of_same rfl rfl
    exact .inl (left.trans (.unreference _ k)).resumes
  | addEndpoint config options plan =>
    have pushed : s.Retains (s.addEndpoint config options plan).2 := .push rfl rfl rfl
    exact .inl pushed.resumes
  | grant k n =>
    rw [Operation.eq_one_of_units single]
    refine actOn_resumes_or_mixes k fun site => ?_
    rcases site.grantUpTo_one_cases with eq | granted
    · rw [eq]
      exact .inl (.refl site)
    · exact granted.retains_or_mixes
  | createChannel k capacity channels =>
    refine .inl (Retains.trans
      (Retains.addChannel s ⟨s.nextStream⟩ (.heap capacity channels)) ?_).resumes
    exact .of_same rfl rfl
  | addChannel id ring => exact .inl (Retains.addChannel s id ring).resumes
  | register k key c => exact .inl (Retains.actOn k fun site => site.retains_register key c).resumes
  | start op k id => exact actOn_resumes_or_mixes k fun site => site.start_retains_or_mixes id
  | site op k act deed =>
    by_cases opens : op = .openStream k
    · subst opens
      cases deed
      exact .inl (s.resumes_openStream k)
    · exact .inl (Retains.actOn k (deed.retains opens)).resumes
  | channel op key act deed => exact .inl (Retains.actOnChannel key deed.underflows).resumes
  | drainLog =>
    have drained : s.Retains { s with log := s.log.drain.2 } := .of_same rfl rfl
    exact .inl drained.resumes

end Server

end SharedAudio

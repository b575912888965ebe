import Mathlib.Data.List.Induction
import SharedAudio.Proofs.Endpoint.Work
import SharedAudio.Proofs.Server.Service

namespace SharedAudio

namespace Operation

def Withdraws : Operation → Prop
  | .disconnect _ | .fault .. | .disconnectAll _ => True
  | _ => False

end Operation

namespace Server

variable {s t : Server} {k l : Nat}

theorem endpoints_actOn (s : Server) (k l : Nat) (act : Site → Site) :
    (s.actOn k act).endpoints[l]? =
      if k = l then (s.site? l).map fun site => (act site).endpoint else s.endpoints[l]? := by
  cases found : s.site? k with
  | none =>
    rw [actOn_of_none found]
    split
    next same =>
      rw [← same, found, Option.map_eq_none_iff.mp found]
      rfl
    next => rfl
  | some site =>
    rw [actOn_of_site found, endpoints_putSite]
    split
    next same =>
      rw [← same, found, (endpoint_of_site? found).1]
      rfl
    next => rfl

section Unchanged

variable (s : Server) (k : Nat) (act : Site → Site)

@[simp] theorem held_actOn : (s.actOn k act).held = s.held := by
  cases found : s.site? k <;> simp [actOn, found, putSite]

@[simp] theorem handles_actOn : (s.actOn k act).handles = s.handles := by
  cases found : s.site? k <;> simp [actOn, found, putSite]

@[simp] theorem refused_actOn : (s.actOn k act).refused = s.refused := by
  cases found : s.site? k <;> simp [actOn, found, putSite]

@[simp] theorem size_endpoints_actOn :
    (s.actOn k act).endpoints.size = s.endpoints.size := by
  cases found : s.site? k <;> simp [actOn, found]

end Unchanged

def unlist (s : Server) (k : Nat) : Server := { s with held := s.held.filter (· != k) }

theorem retire_eq (s : Server) (k : Nat) : s.retire k =
    (s.unlist k).actOn k fun site => site.closeStream.2.announce "released and closed" := rfl

inductive Performed (s : Server) : Operation → Server → Prop
  | acquire (config : StreamConfig) (plan : Plan) :
      Performed s (.acquire config plan) (s.acquired config plan)
  | release (handle k : Nat) (live : s.handles[handle]? = some (some k)) :
      Performed s (.release handle) ((s.letGo handle).unreference k)
  | addEndpoint (config : StreamConfig) (options : Options) (plan : Plan) :
      Performed s (.addEndpoint config options plan) (s.addEndpoint config options plan).2
  | openStream (k : Nat) : Performed s (.openStream k) (s.actOn k fun site => site.opened)
  | start (op : Operation) (k : Nat) (id : StreamId) (asks : op = .start k id ∨ op = .toggle id)
      (starts : ∀ site, s.site? k = some site →
        (site.start? id).map (·.1) = some (.ok ()) → s.Starts k op) :
      Performed s op (s.actOn k fun site => (site.started id))
  | disconnectAll (k : Nat) : Performed s (.disconnectAll k) (s.actOn k Site.disconnectAll)
  | work (op : Operation) (k : Nat) (act : Site → Site) (work : Site.Work act) :
      Performed s op (s.actOn k act)
  | aside (op : Operation) (t : Server) (endpoints : t.endpoints = s.endpoints)
      (held : t.held = s.held) (handles : t.handles = s.handles)
      (runs : op.Withdraws ∨ ∀ key, s.Runs key → t.Runs key) (refused : t.refused = s.refused) :
      Performed s op t

theorem performed_self (s : Server) (op : Operation) : s.Performed op s :=
  .aside op s rfl rfl rfl (.inr fun _ => id) rfl

theorem performed_actOnChannel (s : Server) {op : Operation} (key : Nat) {act : Channel → Channel}
    (runs : op.Withdraws ∨ ∀ c, (act c).state = c.state) :
    s.Performed op (s.actOnChannel key act) := by
  rw [actOnChannel_eq]
  refine .aside op _ rfl rfl rfl (runs.imp_right ?_) rfl
  rintro same other ⟨before, there, running⟩
  have kept := s.map_actOnChannel key same other
  rw [there] at kept
  obtain ⟨after, there', state⟩ := Option.map_eq_some_iff.mp kept
  exact ⟨after, there', by rwa [Channel.isRunning, state]⟩

theorem runs_addChannel (s : Server) (id : StreamId) (ring : Ring) {key : Nat} (runs : s.Runs key) :
    (s.addChannel id ring).2.Runs key := by
  obtain ⟨c, there, running⟩ := runs
  obtain ⟨inside, eq⟩ := Array.getElem?_eq_some_iff.mp there
  exact ⟨c, by rw [addChannel, Array.getElem?_push_lt inside, eq], running⟩

theorem performed_site {op : Operation} {act : Site → Site} (deed : Site.Deed op k act) :
    s.Performed op (s.actOn k act) := by
  cases deed with
  | setPlan k plan => exact .work _ k _ (.device ({ · with plan }) fun _ => rfl)
  | extendScript k outcomes =>
    exact .work _ k _ (.device (fun d => { d with script := d.script ++ outcomes }) fun _ => rfl)
  | openStream k => exact .openStream k
  | closeStream k => exact .work _ k _ .close
  | unregister k id => exact .work _ k _ (.unregister id)
  | stop k id | toggle k id => exact .work _ k _ (.stop id)
  | setVolume k id volume => exact .work _ k _ (.setVolume id volume)
  | setLevel k id level => exact .work _ k _ (.setVolume id _)
  | disconnectAll k => exact .disconnectAll k

theorem performed_channel {op : Operation} {key : Nat} {act : Channel → Channel}
    (deed : Channel.Deed op key act) : s.Performed op (s.actOnChannel key act) := by
  apply s.performed_actOnChannel key
  cases deed with
  | write | pop | setGain | drainEvents => exact .inr fun _ => rfl
  | retarget key threshold =>
    refine .inr fun c => ?_
    simp only [Channel.retarget?]
    cases c.ring.retarget? threshold <;> rfl
  | disconnect | fault => exact .inl trivial

theorem performed_perform (s : Server) (op : Operation) : s.Performed op (s.perform op) := by
  have deed := s.deed_perform op
  generalize s.perform op = t at deed ⊢
  cases deed with
  | still => exact s.performed_self op
  | acquire config plan => exact .acquire config plan
  | release handle k live => exact .release handle k live
  | addEndpoint config options plan => exact .addEndpoint config options plan
  | grant k n => exact .work _ k _ (.grant n)
  | createChannel | addChannel =>
    exact .aside _ _ rfl rfl rfl (.inr fun _ => s.runs_addChannel _ _) rfl
  | register k key c => exact .work _ k _ (.register key c)
  | start op k id asks starts => exact .start op k id asks starts
  | site op k act deed => exact performed_site deed
  | channel op key act deed => exact performed_channel deed
  | drainLog => exact .aside _ _ rfl rfl rfl (.inr fun _ on => on) rfl

theorem unreference_eq {e : Endpoint} (there : s.endpoints[k]? = some e) : s.unreference k =
    if e.references ≤ 1 then (s.setReferences k 0).retire k
    else s.setReferences k (e.references - 1) := by
  rw [unreference, references_of_endpoint there]
  by_cases zero : e.references = 0
  · simp [zero]
  by_cases one : e.references = 1
  · simp [one]
  · have left : ¬ e.references - 1 = 0 := fun last =>
      one (by rw [← UInt64.sub_add_cancel e.references 1, last, UInt64.zero_add])
    have more : ¬ e.references ≤ 1 := by
      rw [UInt64.le_iff_toNat_le, show (1 : UInt64).toNat = 1 from rfl]
      have nonzero : e.references.toNat ≠ 0 := fun same => zero (UInt64.toNat_inj.mp same)
      have different : e.references.toNat ≠ 1 := fun same => one (UInt64.toNat_inj.mp same)
      omega
    simp only [if_neg zero, if_neg left, if_neg more]

section Size

theorem size_endpoints_setReferences (s : Server) (k : Nat) (count : UInt64) :
    (s.setReferences k count).endpoints.size = s.endpoints.size := by simp [setReferences]

theorem size_endpoints_unreference (s : Server) (k : Nat) :
    (s.unreference k).endpoints.size = s.endpoints.size := by
  obtain ⟨count, eq | eq⟩ := s.unreference_cases k
  · rw [eq, size_endpoints_setReferences]
  · rw [eq, retire_eq, size_endpoints_actOn]
    exact size_endpoints_setReferences s k count

theorem size_endpoints_acquire (s : Server) (config : StreamConfig) (plan : Plan) :
    s.endpoints.size ≤ (s.acquired config plan).endpoints.size := by
  obtain ⟨answer, acquired⟩ := s.acquired_cases config plan
  generalize s.acquired config plan = t at acquired ⊢
  cases acquired <;> simp

theorem size_endpoints_perform (s : Server) (op : Operation) :
    s.endpoints.size ≤ (s.perform op).endpoints.size := by
  have performed := s.performed_perform op
  generalize s.perform op = t at performed ⊢
  cases performed with
  | acquire config plan => exact s.size_endpoints_acquire config plan
  | release handle k _ => exact Nat.le_of_eq (size_endpoints_unreference (s.letGo handle) k).symm
  | addEndpoint config options plan => simp [addEndpoint]
  | openStream | start | disconnectAll | work => exact Nat.le_of_eq (size_endpoints_actOn ..).symm
  | aside op t endpoints => exact Nat.le_of_eq (congrArg Array.size endpoints).symm

theorem size_endpoints_run (s : Server) (ops : List Operation) :
    s.endpoints.size ≤ (s.run ops).endpoints.size := by
  induction ops generalizing s with
  | nil => exact Nat.le_refl _
  | cons op ops ih => exact Nat.le_trans (s.size_endpoints_perform op) (ih _)

theorem exclusive_of_prefix {ops before : List Operation} (front : before <+: ops)
    (single : (s.run ops).endpoints.size ≤ 1) : (s.run before).Exclusive := by
  obtain ⟨after, rfl⟩ := front
  rw [run_append] at single
  exact exclusive_of_size_le_one (Nat.le_trans (size_endpoints_run _ after) single)

end Size

section Carries

structure Wearing (R : Endpoint → Endpoint → Prop) : Prop where
  refl : ∀ e, R e e
  trans : ∀ {e f g}, R e f → R f g → R e g
  counted : ∀ (e : Endpoint) (references : UInt64), R e { e with references }
  worked : ∀ (site : Site) (act : Site → Site), Site.Work act → R site.endpoint (act site).endpoint

def Carries (R : Endpoint → Endpoint → Prop) (s t : Server) (k : Nat) : Prop :=
  ∀ e, s.endpoints[k]? = some e → ∃ f, t.endpoints[k]? = some f ∧ R e f

namespace Carries

variable {u : Server} {R : Endpoint → Endpoint → Prop} (wearing : Wearing R)
include wearing

theorem of_endpoints (same : t.endpoints = s.endpoints) : Carries R s t k :=
  fun e there => ⟨e, same ▸ there, wearing.refl e⟩

theorem trans (h : Carries R s t k) (g : Carries R t u k) : Carries R s u k := by
  intro e there
  obtain ⟨f, middle, first⟩ := h e there
  obtain ⟨f', last, second⟩ := g f middle
  exact ⟨f', last, wearing.trans first second⟩

theorem push {f : Endpoint} (endpoints : t.endpoints = s.endpoints.push f) : Carries R s t k := by
  intro e there
  obtain ⟨inside, eq⟩ := Array.getElem?_eq_some_iff.mp there
  exact ⟨e, by rw [endpoints, Array.getElem?_push_lt inside, eq], wearing.refl e⟩

theorem actOn {act : Site → Site}
    (acts : ∀ site, s.site? k = some site → l = k → R site.endpoint (act site).endpoint) :
    Carries R s (s.actOn l act) k := by
  intro e there
  rw [endpoints_actOn]
  split
  next same =>
    have found := site?_of_endpoint there
    exact ⟨_, by rw [found]; rfl, acts _ found same⟩
  next => exact ⟨e, there, wearing.refl e⟩

theorem setReferences (s : Server) (l k : Nat) (count : UInt64) :
    Carries R s (s.setReferences l count) k := by
  intro e there
  rw [Server.setReferences, Array.getElem?_modify, there]
  split
  · exact ⟨_, rfl, wearing.counted e count⟩
  · exact ⟨e, rfl, wearing.refl e⟩

theorem unreference (s : Server) (l k : Nat) : Carries R s (s.unreference l) k := by
  obtain ⟨count, eq | eq⟩ := s.unreference_cases l
  · rw [eq]
    exact setReferences wearing s l k count
  · rw [eq, retire_eq]
    have unlisted : Carries R s ((s.setReferences l count).unlist l) k :=
      setReferences wearing s l k count
    refine trans wearing unlisted (actOn wearing fun site _ _ => ?_)
    rw [Site.endpoint_announce]
    exact wearing.worked site _ .close

theorem acquire (s : Server) (config : StreamConfig) (plan : Plan) (k : Nat) :
    Carries R s (s.acquired config plan) k := by
  obtain ⟨answer, acquired⟩ := s.acquired_cases config plan
  generalize s.acquired config plan = t at acquired
  cases acquired with
  | shared l e =>
    exact trans wearing (setReferences wearing s l k (e.references + 1)) (of_endpoints wearing rfl)
  | panicked | refused => exact of_endpoints wearing rfl
  | fresh => exact push wearing rfl

theorem perform {op : Operation}
    (opened : op = .openStream k → ∀ site : Site, s.site? k = some site →
      R site.endpoint site.opened.endpoint)
    (started : ∀ (site : Site) (id : StreamId),
      ((site.start? id).map (·.1) = some (.ok ()) → s.Starts k op) →
      R site.endpoint (site.started id).endpoint) : Carries R s (s.perform op) k := by
  have performed := s.performed_perform op
  generalize s.perform op = t at performed
  cases performed with
  | acquire config plan => exact acquire wearing s config plan k
  | release handle l _ =>
    have left : Carries R s (s.letGo handle) k := of_endpoints wearing rfl
    exact trans wearing left (unreference wearing _ l k)
  | addEndpoint config options plan => exact push wearing rfl
  | openStream l =>
    exact actOn wearing fun site found same => opened (by rw [same]) site (same ▸ found)
  | start op l id _ starts =>
    refine actOn wearing fun site found same => started site id ?_
    subst same
    exact starts site found
  | disconnectAll l => exact actOn wearing fun site _ _ => wearing.refl site.endpoint
  | work op l act work => exact actOn wearing fun site _ _ => wearing.worked site act work
  | aside op t endpoints => exact of_endpoints wearing endpoints

end Carries

end Carries

structure Lasting (P : Endpoint → Prop) : Prop where
  fresh : ∀ config options device, P { config, options, device }
  counted : ∀ (e : Endpoint) (references : UInt64), P e → P { e with references }
  opened : ∀ site : Site, P site.endpoint → P site.opened.endpoint
  started : ∀ (site : Site) (id : StreamId), P site.endpoint → P (site.started id).endpoint
  worked : ∀ (site : Site) (act : Site → Site), Site.Work act → P site.endpoint →
    P (act site).endpoint

def Everywhere (s : Server) (P : Endpoint → Prop) : Prop :=
  ∀ (k : Nat) (e : Endpoint), s.endpoints[k]? = some e → P e

def At (s : Server) (k : Nat) (P : Endpoint → Prop) : Prop :=
  ∀ e : Endpoint, s.endpoints[k]? = some e → P e

structure Abiding (P : Endpoint → Prop) : Prop where
  fresh : ∀ config options device, P { config, options, device }
  counted : ∀ (e : Endpoint) (references : UInt64), P e → P { e with references }
  opened : ∀ site : Site, P site.endpoint → P site.opened.endpoint
  worked : ∀ (site : Site) (act : Site → Site), Site.Work act → P site.endpoint →
    P (act site).endpoint

structure Native (P : Endpoint → Prop) : Prop where
  fresh : ∀ config options device, device.calls = #[] → P { config, options, device }
  counted : ∀ (e : Endpoint) (references : UInt64), P e → P { e with references }
  opened : ∀ site : Site, P site.endpoint → P site.opened.endpoint
  worked : ∀ (site : Site) (act : Site → Site), Site.Work act → P site.endpoint →
    P (act site).endpoint

section At

variable {P : Endpoint → Prop}

theorem at_of_endpoints (h : s.At k P) (same : t.endpoints = s.endpoints) : t.At k P :=
  fun e there => h e (same ▸ there)

theorem at_actOn (h : s.At k P) (l : Nat) {act : Site → Site}
    (step : ∀ site : Site, s.site? k = some site → l = k → P site.endpoint →
      P (act site).endpoint) : (s.actOn l act).At k P := by
  intro e there
  rw [endpoints_actOn] at there
  split at there
  next same =>
    obtain ⟨site, found, rfl⟩ := Option.map_eq_some_iff.mp there
    exact step site found same (h _ (endpoint_of_site? found).1)
  next => exact h e there

theorem at_push (h : s.At k P) {e : Endpoint} (new : P e)
    (endpoints : t.endpoints = s.endpoints.push e) : t.At k P := by
  intro f there
  rw [endpoints, Array.getElem?_push] at there
  split at there
  · cases there
    exact new
  · exact h f there

theorem at_modify (h : s.At k P) {l : Nat} {change : Endpoint → Endpoint}
    (step : ∀ e, P e → P (change e)) (endpoints : t.endpoints = s.endpoints.modify l change) :
    t.At k P := by
  intro f there
  rw [endpoints, Array.getElem?_modify] at there
  split at there
  · obtain ⟨e, was, rfl⟩ := Option.map_eq_some_iff.mp there
    exact step e (h e was)
  · exact h f there

namespace Native

theorem unreference (native : Native P) (h : s.At k P) (l : Nat) : (s.unreference l).At k P := by
  have counted (count : UInt64) : (s.setReferences l count).At k P :=
    at_modify h (native.counted · count) rfl
  obtain ⟨count, eq | eq⟩ := s.unreference_cases l
  · rw [eq]
    exact counted count
  · rw [eq, retire_eq]
    have unlisted : ((s.setReferences l count).unlist l).At k P := counted count
    refine at_actOn unlisted l fun site _ _ before => ?_
    rw [Site.endpoint_announce]
    exact native.worked site _ .close before

theorem acquire (native : Native P) (h : s.At k P) (config : StreamConfig) (plan : Plan) :
    (s.acquired config plan).At k P := by
  obtain ⟨answer, acquired⟩ := s.acquired_cases config plan
  generalize s.acquired config plan = t at acquired ⊢
  cases acquired with
  | shared l e => exact at_modify h (native.counted · _) rfl
  | panicked | refused => exact at_of_endpoints h rfl
  | fresh site _ opening =>
    have opened := native.opened ⟨_, s.channels, s.log⟩
      (native.fresh config s.options (s.newDevice plan) rfl)
    rw [Site.opened_of_openStream? opening] at opened
    exact at_push h (native.counted _ 1 opened) rfl

theorem perform (native : Native P) (h : s.At k P) (op : Operation)
    (started : ∀ (site : Site) (id : StreamId), s.site? k = some site →
      op = .start k id ∨ op = .toggle id → P site.endpoint → P (site.started id).endpoint) :
    (s.perform op).At k P := by
  have performed := s.performed_perform op
  generalize s.perform op = t at performed
  cases performed with
  | acquire config plan => exact native.acquire h config plan
  | release handle l _ =>
    have left : (s.letGo handle).At k P := h
    exact native.unreference left l
  | addEndpoint config options plan => exact at_push h (native.fresh _ _ _ rfl) rfl
  | openStream l => exact at_actOn h l fun site _ _ => native.opened site
  | start op l id asks =>
    refine at_actOn h l fun site found same => ?_
    subst same
    exact started site id found asks
  | disconnectAll l => exact at_actOn h l fun _ _ _ => id
  | work op l act work => exact at_actOn h l fun site _ _ => native.worked site act work
  | aside op t endpoints => exact at_of_endpoints h endpoints

end Native

namespace Abiding

theorem native (abiding : Abiding P) : Native P :=
  ⟨fun config options device _ => abiding.fresh config options device, abiding.counted,
    abiding.opened, abiding.worked⟩

theorem perform (abiding : Abiding P) (h : s.At k P) (op : Operation)
    (started : ∀ (site : Site) (id : StreamId), s.site? k = some site →
      op = .start k id ∨ op = .toggle id → P site.endpoint → P (site.started id).endpoint) :
    (s.perform op).At k P := abiding.native.perform h op started

end Abiding

namespace Lasting

theorem abiding (lasting : Lasting P) : Abiding P :=
  ⟨lasting.fresh, lasting.counted, lasting.opened, lasting.worked⟩

theorem acquire (lasting : Lasting P) (h : s.Everywhere P) (config : StreamConfig) (plan : Plan) :
    (s.acquired config plan).Everywhere P :=
  fun k => lasting.abiding.native.acquire (h k) config plan

theorem perform (lasting : Lasting P) (h : s.Everywhere P) (op : Operation) :
    (s.perform op).Everywhere P :=
  fun k => lasting.abiding.perform (h k) op fun site id _ _ => lasting.started site id

theorem run (lasting : Lasting P) (options : Options) (ops : List Operation) :
    (run { options } ops).Everywhere P := by
  induction ops using List.reverseRecOn with
  | nil =>
    intro k e there
    simp at there
  | append_singleton ops op ih =>
    rw [run_append]
    exact lasting.perform ih op

end Lasting

end At

theorem origin_of_run (Holds : Server → Prop) (Begins : Server → Operation → Prop)
    {options : Options} {ops : List Operation} (initial : ¬ Holds { options })
    (step : ∀ before op, before ++ [op] <+: ops → Holds (run { options } (before ++ [op])) →
      Holds (run { options } before) ∨ Begins (run { options } before) op)
    (holds : Holds (run { options } ops)) :
    ∃ before last after, ops = before ++ last :: after ∧ Begins (run { options } before) last ∧
      ∀ since, since <+: after → Holds (run { options } (before ++ last :: since)) := by
  -- The induction is from the last operation on: either it held before, or this is the step.
  induction ops using List.reverseRecOn with
  | nil => exact absurd holds initial
  | append_singleton ops op ih =>
    rcases step ops op List.prefix_rfl holds with already | begins
    · obtain ⟨before, last, after, rfl, begins, since⟩ := ih
        (fun before op front => step before op (front.trans (List.prefix_append ..))) already
      refine ⟨before, last, after ++ [op], by simp, begins, fun rest front => ?_⟩
      rcases List.prefix_concat_iff.mp front with rfl | front
      · simpa using holds
      · exact since rest front
    · refine ⟨ops, op, [], rfl, begins, fun since front => ?_⟩
      rw [List.prefix_nil.mp front]
      exact holds

theorem lasting_sound : Lasting Endpoint.Sound where
  fresh _ _ _ := ⟨fun _ => rfl, fun running => by cases running⟩
  counted _ _ sound := sound.congr rfl rfl rfl
  opened site := site.serves_opened.sound
  started site id := (site.serves_start id).sound
  worked _ _ work := work.sound

end Server

end SharedAudio

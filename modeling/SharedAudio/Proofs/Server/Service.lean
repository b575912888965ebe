import Mathlib.Data.List.Induction
import SharedAudio.Proofs.Endpoint.Service
import SharedAudio.Proofs.Server.Deed

namespace SharedAudio

theorem Site.Deed.serves {op : Operation} {k : Nat} {act : Site → Site} (h : Site.Deed op k act)
    (site : Site) : site.Serves (act site) := by
  cases h with
  | setPlan | extendScript =>
    exact .of_same ⟨rfl, rfl, rfl, rfl, fun _ _ => rfl, fun _ on => on⟩ rfl rfl
  | openStream => exact site.serves_opened
  | closeStream => exact site.serves_closeStream
  | unregister k id => exact site.serves_unregister id
  | stop k id | toggle k id => exact site.serves_stop id
  | setVolume k id volume => exact site.serves_setVolume id volume
  | setLevel k id level => exact site.serves_setVolume id _
  | disconnectAll => exact site.serves_disconnectAll

theorem Channel.Deed.isRunning {op : Operation} {key : Nat} {act : Channel → Channel}
    (h : Channel.Deed op key act) {c : Channel} (running : (act c).isRunning = true) :
    c.isRunning = true := by
  cases h with
  | write | pop | setGain | drainEvents => exact running
  | retarget key threshold =>
    simp only [retarget?] at running
    cases moved : c.ring.retarget? threshold <;> rw [moved] at running <;> exact running
  | disconnect | fault => exact isRunning_enter (by simp) running

namespace Server

def Runs (s : Server) (key : Nat) : Prop := ∃ c, s.channels[key]? = some c ∧ c.isRunning = true

def Registers (s : Server) (k key : Nat) : Prop :=
  ∃ e, s.endpoints[k]? = some e ∧ key ∈ e.registered

def Exclusive (s : Server) : Prop := ∀ key k l, s.Registers k key → s.Registers l key → k = l

structure Served (s : Server) : Prop where
  sound : ∀ (k : Nat) (e : Endpoint), s.endpoints[k]? = some e → e.Sound
  served : ∀ k (site : Site), s.site? k = some site → site.Served
  registered : ∀ key, s.Runs key → ∃ k, s.Registers k key

variable {s t : Server} {k key : Nat} {site : Site}

theorem endpoint_of_site? (h : s.site? k = some site) :
    s.endpoints[k]? = some site.endpoint ∧ site.channels = s.channels := by
  obtain ⟨e, found, rfl⟩ := Option.map_eq_some_iff.mp h
  exact ⟨found, rfl⟩

theorem site?_of_endpoint {e : Endpoint} (h : s.endpoints[k]? = some e) :
    s.site? k = some ⟨e, s.channels, s.log⟩ := by
  rw [site?, h]
  rfl

theorem endpoints_putSite (s : Server) (k l : Nat) (site : Site) :
    (s.putSite k site).endpoints[l]? =
      if k = l then s.endpoints[l]?.map fun _ => site.endpoint else s.endpoints[l]? := by
  simp only [putSite, Array.getElem?_setIfInBounds]
  split
  next same =>
    subst same
    by_cases inside : k < s.endpoints.size <;> simp [inside]
  next => rfl

theorem runs_site (h : s.site? k = some site) : site.Runs key ↔ s.Runs key := by
  rw [Site.Runs, Runs, (endpoint_of_site? h).2]

theorem served_putSite (h : s.Served) (exclusive : s.Exclusive) (found : s.site? k = some site)
    {after : Site} (step : site.Serves after) : (s.putSite k after).Served := by
  obtain ⟨present, channels⟩ := endpoint_of_site? found
  have sound := h.sound k _ present
  have served := h.served k _ found
  have apart (key : Nat) (outside : key ∉ site.endpoint.registered) :
      after.channels[key]? = s.channels[key]? := by
    rw [step.apart key outside, channels]
  refine ⟨?_, ?_, ?_⟩
  · intro l e there
    rw [endpoints_putSite] at there
    split at there
    · obtain ⟨-, -, rfl⟩ := Option.map_eq_some_iff.mp there
      exact step.sound sound
    · exact h.sound l e there
  · intro l other there key member running
    obtain ⟨e, at', rfl⟩ := Option.map_eq_some_iff.mp there
    rw [endpoints_putSite] at at'
    split at at'
    next same =>
      obtain ⟨-, -, rfl⟩ := Option.map_eq_some_iff.mp at'
      exact step.served sound served key member running
    next different =>
      have outside : key ∉ site.endpoint.registered := fun inside =>
        different (exclusive key k l ⟨_, present, inside⟩ ⟨e, at', member⟩)
      obtain ⟨c, present', runs⟩ := running
      rw [show (s.putSite k after).channels = after.channels from rfl, apart key outside]
        at present'
      exact h.served l ⟨e, s.channels, s.log⟩ (site?_of_endpoint at') key member ⟨c, present', runs⟩
  · intro key running
    by_cases inside : key ∈ site.endpoint.registered
    · refine ⟨k, after.endpoint, ?_, step.kept key inside running⟩
      rw [endpoints_putSite, if_pos rfl, present]
      rfl
    · obtain ⟨c, there, runs⟩ := running
      rw [show (s.putSite k after).channels = after.channels from rfl, apart key inside] at there
      obtain ⟨l, e, at', member⟩ := h.registered key ⟨c, there, runs⟩
      refine ⟨l, e, ?_, member⟩
      rw [endpoints_putSite, if_neg, at']
      rintro rfl
      rw [present] at at'
      cases at'
      exact inside member

theorem served_actOn (h : s.Served) (exclusive : s.Exclusive) (k : Nat) {act : Site → Site}
    (step : ∀ site : Site, site.Serves (act site)) : (s.actOn k act).Served := by
  cases found : s.site? k with
  | none => rwa [actOn_of_none found]
  | some site =>
    rw [actOn_of_site found]
    exact served_putSite h exclusive found (step site)

theorem served_of_alike (h : s.Served)
    (endpoints : ∀ (k : Nat) (e : Endpoint), t.endpoints[k]? = some e →
      (∃ before : Endpoint, s.endpoints[k]? = some before ∧ e.registered = before.registered ∧
        e.phase = before.phase ∧ e.health = before.health) ∨ e.registered = [] ∧ e.Sound)
    (kept : ∀ k key, s.Registers k key → t.Registers k key)
    (fewer : ∀ key, t.Runs key → s.Runs key) : t.Served := by
  refine ⟨?_, ?_, ?_⟩
  · intro k e found
    rcases endpoints k e found with ⟨before, was, registered, phase, health⟩ | ⟨-, sound⟩
    · exact (h.sound k before was).congr registered phase health
    · exact sound
  · intro k site there key member running
    obtain ⟨e, found, rfl⟩ := Option.map_eq_some_iff.mp there
    rcases endpoints k e found with ⟨before, was, registered, phase, -⟩ | ⟨nobody, -⟩
    · rw [Endpoint.runs_congr phase]
      exact h.served k _ (site?_of_endpoint was) key (registered ▸ member) (fewer key running)
    · rw [nobody] at member
      cases member
  · intro key running
    obtain ⟨k, registers⟩ := h.registered key (fewer key running)
    exact ⟨k, kept k key registers⟩

theorem served_of_same (h : s.Served) (endpoints : t.endpoints = s.endpoints)
    (channels : t.channels = s.channels) : t.Served := by
  refine served_of_alike h (fun k e there => .inl ⟨e, endpoints ▸ there, rfl, rfl, rfl⟩) ?_ ?_
  · intro k key registers
    rwa [Registers, endpoints]
  · intro key runs
    rwa [Runs, channels] at runs

theorem served_actOnChannel (h : s.Served) (key : Nat) {act : Channel → Channel}
    (stays : ∀ c, (act c).isRunning = true → c.isRunning = true) :
    (s.actOnChannel key act).Served := by
  have endpoints := s.endpoints_actOnChannel key act
  refine served_of_alike h (fun k e there => .inl ⟨e, endpoints ▸ there, rfl, rfl, rfl⟩)
    (fun _ _ registers => by rwa [Registers, endpoints]) ?_
  rintro other ⟨changed, there, running⟩
  rw [getElem?_actOnChannel] at there
  split at there
  · obtain ⟨c, found, rfl⟩ := Option.map_eq_some_iff.mp there
    exact ⟨c, found, stays c running⟩
  · exact ⟨changed, there, running⟩

theorem served_addChannel (h : s.Served) (id : StreamId) (ring : Ring) :
    (s.addChannel id ring).2.Served := by
  refine served_of_alike h (fun k e there => .inl ⟨e, there, rfl, rfl, rfl⟩) (fun _ _ on => on) ?_
  rintro other ⟨c, there, running⟩
  rw [addChannel, Array.getElem?_push] at there
  split at there
  · cases there
    cases running
  · exact ⟨c, there, running⟩

theorem served_push (h : s.Served) {e : Endpoint} (nobody : e.registered = []) (sound : e.Sound)
    (endpoints : t.endpoints = s.endpoints.push e) (channels : t.channels = s.channels) :
    t.Served := by
  refine served_of_alike h ?_ ?_ ?_
  · intro k e' there
    rw [endpoints, Array.getElem?_push] at there
    split at there
    · cases there
      exact .inr ⟨nobody, sound⟩
    · exact .inl ⟨e', there, rfl, rfl, rfl⟩
  · rintro k key ⟨before, there, member⟩
    refine ⟨before, ?_, member⟩
    obtain ⟨inside, eq⟩ := Array.getElem?_eq_some_iff.mp there
    rw [endpoints, Array.getElem?_push_lt inside, eq]
  · rintro key ⟨c, there, running⟩
    exact ⟨c, channels ▸ there, running⟩

section Register

theorem registers_including (found : s.site? k = some site) {l other : Nat} :
    (s.putSite k (site.including key)).Registers l other ↔
      s.Registers l other ∨ l = k ∧ other = key := by
  obtain ⟨there, -⟩ := endpoint_of_site? found
  rw [Registers, endpoints_putSite, Registers]
  by_cases same : k = l
  · subst same
    rw [if_pos rfl, there]
    simp [Site.including]
  · have different : ¬ l = k := fun eq => same eq.symm
    simp [same, different]

theorem runs_including (found : s.site? k = some site) {other : Nat} :
    (s.putSite k (site.including key)).Runs other ↔ s.Runs other := by
  rw [Runs, Runs, ← (endpoint_of_site? found).2]
  rfl

theorem not_runs_of_fresh (h : s.Served) (found : s.site? k = some site) {c : Channel}
    (present : s.channels[key]? = some c) (fresh : c.id ∉ site.ids)
    (after : (s.putSite k (site.including key)).Exclusive) : ¬ s.Runs key := by
  intro running
  obtain ⟨there, channels⟩ := endpoint_of_site? found
  obtain ⟨l, on⟩ := h.registered key running
  have same : l = k := after key l k ((registers_including found).mpr (.inl on))
    ((registers_including found).mpr (.inr ⟨rfl, rfl⟩))
  subst same
  obtain ⟨e, at', member⟩ := on
  rw [there] at at'
  cases at'
  exact fresh (List.mem_map.mpr ⟨c, List.mem_filterMap.mpr
    ⟨key, member, by rw [channels]; exact present⟩, rfl⟩)

theorem served_including (h : s.Served) (found : s.site? k = some site)
    (opened : site.endpoint.isOpen = true) (idle : ¬ s.Runs key) :
    (s.putSite k (site.including key)).Served := by
  obtain ⟨there, -⟩ := endpoint_of_site? found
  refine ⟨?_, ?_, ?_⟩
  · intro l e at'
    rw [endpoints_putSite] at at'
    split at at'
    · obtain ⟨-, -, rfl⟩ := Option.map_eq_some_iff.mp at'
      have sound := h.sound k _ there
      exact ⟨fun closed => by simp [show site.endpoint.isOpen = false from closed] at opened,
        sound.healthy⟩
    · exact h.sound l e at'
  · intro l after at' other member running
    have before := (runs_including found).mp ((runs_site at').mp running)
    obtain ⟨e, there', rfl⟩ := Option.map_eq_some_iff.mp at'
    rw [endpoints_putSite] at there'
    split at there'
    · obtain ⟨-, -, rfl⟩ := Option.map_eq_some_iff.mp there'
      rcases List.mem_append.mp member with earlier | new
      · exact h.served k site found other earlier ((runs_site found).mpr before)
      · rw [List.mem_singleton.mp new] at before
        exact absurd before idle
    · exact h.served l ⟨e, s.channels, s.log⟩ (site?_of_endpoint there') other member before
  · intro other running
    obtain ⟨l, on⟩ := h.registered other ((runs_including found).mp running)
    exact ⟨l, (registers_including found).mpr (.inl on)⟩

theorem served_register (h : s.Served) (exclusive : s.Exclusive) {c : Channel}
    (present : s.channels[key]? = some c)
    (after : (s.actOn k fun site => (site.register key c).2).Exclusive) :
    (s.actOn k fun site => (site.register key c).2).Served := by
  cases found : s.site? k with
  | none => rwa [actOn_of_none found]
  | some site =>
    rw [actOn_of_site found] at after ⊢
    rcases site.register_cases key c with eq | ⟨opened, -, fresh, eq⟩
    · rw [eq]
      exact served_putSite h exclusive found (.refl site)
    · rw [eq] at after ⊢
      exact served_including h found opened (not_runs_of_fresh h found present fresh after)

end Register

theorem registers_setReferences (count : UInt64) {l : Nat} :
    (s.setReferences k count).Registers l key ↔ s.Registers l key := by
  simp only [Registers, setReferences, Array.getElem?_modify]
  split
  · constructor
    · rintro ⟨e, there, member⟩
      obtain ⟨before, was, rfl⟩ := Option.map_eq_some_iff.mp there
      exact ⟨before, was, member⟩
    · rintro ⟨e, there, member⟩
      exact ⟨_, Option.map_eq_some_iff.mpr ⟨e, there, rfl⟩, member⟩
  · rfl

theorem served_setReferences (h : s.Served) (k : Nat) (count : UInt64) :
    (s.setReferences k count).Served := by
  refine served_of_alike h ?_ (fun _ _ on => (registers_setReferences count).mpr on) fun _ on => on
  intro l e there
  rw [setReferences, Array.getElem?_modify] at there
  split at there
  · obtain ⟨before, was, rfl⟩ := Option.map_eq_some_iff.mp there
    exact .inl ⟨before, was, rfl, rfl, rfl⟩
  · exact .inl ⟨e, there, rfl, rfl, rfl⟩

theorem exclusive_setReferences (h : s.Exclusive) (k : Nat) (count : UInt64) :
    (s.setReferences k count).Exclusive := by
  intro key l m first second
  exact h key l m ((registers_setReferences count).mp first)
    ((registers_setReferences count).mp second)

theorem served_retire (h : s.Served) (exclusive : s.Exclusive) (k : Nat) : (s.retire k).Served := by
  have forgotten : Served { s with held := s.held.filter (· != k) } :=
    served_of_same h rfl rfl
  have closes (site : Site) : site.Serves (site.closeStream.2.announce "released and closed") :=
    site.serves_closeStream.announce _
  exact served_actOn forgotten exclusive k closes

theorem unreference_cases (s : Server) (k : Nat) : ∃ count,
    s.unreference k = s.setReferences k count ∨
      s.unreference k = (s.setReferences k count).retire k := by
  have either (count : UInt64) :
      let after := if count = 0 then (s.setReferences k count).retire k
        else s.setReferences k count
      after = s.setReferences k count ∨ after = (s.setReferences k count).retire k := by
    dsimp only
    split
    · exact .inr rfl
    · exact .inl rfl
  exact ⟨_, either _⟩

theorem served_unreference (h : s.Served) (exclusive : s.Exclusive) (k : Nat) :
    (s.unreference k).Served := by
  obtain ⟨count, eq | eq⟩ := s.unreference_cases k
  · rw [eq]
    exact served_setReferences h k count
  · rw [eq]
    exact served_retire (served_setReferences h k count)
      (exclusive_setReferences exclusive k count) k

theorem served_acquire (h : s.Served) (config : StreamConfig) (plan : Plan) :
    (s.acquired config plan).Served := by
  obtain ⟨answer, acquired⟩ := s.acquired_cases config plan
  generalize s.acquired config plan = t at acquired ⊢
  cases acquired with
  | shared k => exact served_of_same (served_setReferences h k _) rfl rfl
  | panicked => exact h
  | refused => exact served_of_same h rfl rfl
  | fresh site _ opening =>
    have fresh : Endpoint.Sound
        { config, options := s.options, device := s.newDevice plan } :=
      ⟨fun _ => rfl, fun running => by cases running⟩
    have opens := Site.serves_opened
      ⟨{ config, options := s.options, device := s.newDevice plan }, s.channels, s.log⟩
    rw [Site.opened_of_openStream? opening] at opens
    have nobody : site.endpoint.registered = [] := List.sublist_nil.mp opens.fewer
    exact served_push (e := { site.endpoint with references := 1 }) h nobody
      ((opens.sound fresh).congr rfl rfl rfl) rfl rfl

theorem served_perform (h : s.Served) (exclusive : s.Exclusive) (op : Operation)
    (after : (s.perform op).Exclusive) : (s.perform op).Served := by
  have deed := s.deed_perform op
  generalize s.perform op = t at deed after ⊢
  cases deed with
  | still => exact h
  | acquire config plan => exact served_acquire h config plan
  | release handle k =>
    have left : (s.letGo handle).Served := served_of_same h rfl rfl
    exact served_unreference left exclusive k
  | addEndpoint =>
    exact served_push h rfl ⟨fun _ => rfl, fun running => by cases running⟩ rfl rfl
  | grant k n => exact served_actOn h exclusive k fun site => site.serves_grantUpTo n 0
  | createChannel => exact served_of_same (served_addChannel h _ _) rfl rfl
  | addChannel id ring => exact served_addChannel h id ring
  | register k key c present => exact served_register h exclusive present after
  | start op k id => exact served_actOn h exclusive k fun site => site.serves_start id
  | site op k act deed => exact served_actOn h exclusive k deed.serves
  | channel op key act deed => exact served_actOnChannel h key fun _ => deed.isRunning
  | drainLog => exact served_of_same h rfl rfl

theorem served_fresh (options : Options) : Served { options } := by
  refine ⟨?_, ?_, ?_⟩
  · intro k e there
    simp at there
  · intro k site there
    simp [site?] at there
  · rintro key ⟨c, there, -⟩
    simp at there

theorem served_run (options : Options) (ops : List Operation)
    (exclusive : ∀ before, before <+: ops → (run { options } before).Exclusive) :
    (run { options } ops).Served := by
  induction ops using List.reverseRecOn with
  | nil => exact served_fresh options
  | append_singleton ops op ih =>
    have earlier := exclusive ops (List.prefix_append ops [op])
    have later := exclusive (ops ++ [op]) List.prefix_rfl
    have served := ih fun before front => exclusive before (front.trans (List.prefix_append ..))
    rw [run_append] at later ⊢
    exact served_perform served earlier op later

theorem running_is_consumed (options : Options) (ops : List Operation)
    (exclusive : ∀ before, before <+: ops → (run { options } before).Exclusive) :
    let s := run { options } ops
    (∀ (key : Nat) (c : Channel), s.channels[key]? = some c → c.state = .running →
      ∃ (k : Nat) (e : Endpoint) (line : Line), s.endpoints[k]? = some e ∧ key ∈ e.registered ∧
        e.phase = .opened line ∧ e.health = .healthy ∧ e.streaming = true ∧
        (line.loop = .panicked ∨ ∃ mixer, line.loop = .writing mixer)) ∧
    ∀ (k : Nat) (e : Endpoint), s.endpoints[k]? = some e → e.isOpen = false ∨ e.health ≠ .healthy →
      ∀ key ∈ e.registered, ∀ c, s.channels[key]? = some c → c.state ≠ .running := by
  intro s
  have served : s.Served := served_run options ops exclusive
  have runs {key : Nat} {c : Channel} (there : s.channels[key]? = some c)
      (running : c.state = .running) : s.Runs key :=
    ⟨c, there, by rw [Channel.isRunning, running]; rfl⟩
  constructor
  · intro key c there running
    obtain ⟨k, e, at', member⟩ := served.registered key (runs there running)
    have consumed := served.served k _ (site?_of_endpoint at') key member (runs there running)
    obtain ⟨line, opened, loop⟩ := Endpoint.runs_iff.mp consumed
    refine ⟨k, e, line, at', member, opened, (served.sound k e at').healthy consumed, ?_, loop.symm⟩
    rw [Endpoint.streaming, opened]
    change line.loop.streaming = true
    rcases loop with ⟨mixer, loop⟩ | loop <;> rw [loop] <;> rfl
  · rintro k e at' ill key member c there running
    have consumed := served.served k _ (site?_of_endpoint at') key member (runs there running)
    rcases ill with closed | unhealthy
    · rw [Endpoint.runs_of_closed closed] at consumed
      cases consumed
    · exact unhealthy ((served.sound k e at').healthy consumed)

theorem exclusive_of_size_le_one (h : s.endpoints.size ≤ 1) : s.Exclusive := by
  rintro key k l ⟨e, first, -⟩ ⟨e', second, -⟩
  have k0 := (Array.getElem?_eq_some_iff.mp first).1
  have l0 := (Array.getElem?_eq_some_iff.mp second).1
  omega

theorem running_is_consumed_once_started :
    let s := run { options := {} } [.acquire {} {}, .createChannel 0, .register 0 0, .start 0 ⟨1⟩]
    s.channels[0]?.map (·.state) = some .running ∧
      ∃ (k : Nat) (e : Endpoint), s.endpoints[k]? = some e ∧ 0 ∈ e.registered ∧
        e.health = .healthy ∧ e.streaming = true := by
  intro s
  have running : s.channels[0]?.map (·.state) = some .running := by decide
  have exclusive (before : List Operation)
      (front : before <+: [.acquire {} {}, .createChannel 0, .register 0 0, .start 0 ⟨1⟩]) :
      (run { options := {} } before).Exclusive := by
    apply exclusive_of_size_le_one
    simp only [List.prefix_cons_iff, List.prefix_nil] at front
    rcases front with rfl | ⟨_, rfl, rfl | ⟨_, rfl, rfl | ⟨_, rfl, rfl | ⟨_, rfl, rfl⟩⟩⟩⟩ <;> decide
  obtain ⟨c, there, state⟩ := Option.map_eq_some_iff.mp running
  obtain ⟨k, e, line, at', member, -, healthy, streaming, -⟩ :=
    (running_is_consumed {} _ exclusive).1 0 c there state
  exact ⟨running, k, e, at', member, healthy, streaming⟩

end Server

end SharedAudio

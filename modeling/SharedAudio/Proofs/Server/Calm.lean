import SharedAudio.Proofs.Endpoint.Calm
import SharedAudio.Proofs.Server.Service

namespace SharedAudio

theorem Site.Deed.calm {op : Operation} {k : Nat} {act : Site → Site} (h : Site.Deed op k act)
    (site : Site) : site.Calm (act site) := by
  cases h with
  | setPlan | extendScript => exact site.calm_device rfl
  | openStream => exact site.calm_opened
  | closeStream => exact site.calm_closeStream
  | unregister k id => exact site.calm_unregister id
  | stop k id | toggle k id => exact site.calm_stop id
  | setVolume k id volume => exact site.calm_setVolume id volume
  | setLevel k id level => exact site.calm_setVolume id _
  | disconnectAll => exact site.calm_disconnectAll

namespace Server

variable {s t u : Server} {k key : Nat} {site : Site}

def Fits (s : Server) (e : Endpoint) : Prop :=
  e.registered.Nodup ∧ ∀ key ∈ e.registered, ∃ c : Channel, s.channels[key]? = some c ∧
    c.channels = e.config.channels

def KeepsRings (s t : Server) : Prop := ∀ (key : Nat) (c : Channel), s.channels[key]? = some c →
  t.channels[key]?.map (·.ring) = some c.ring

structure Calm (s t : Server) : Prop where
  endpoints : ∀ (k : Nat) (f : Endpoint), t.endpoints[k]? = some f →
    (∃ e, s.endpoints[k]? = some e ∧ e.Calm f ∧ (s.Fits e → t.Fits f)) ∨
      s.endpoints[k]? = none ∧ f.made = [] ∧ f.Shaped ∧ t.Fits f
  present : ∀ (k : Nat), t.endpoints[k]? = none → s.endpoints[k]? = none
  channels : ∀ (key : Nat) (c : Channel), t.channels[key]? = some c →
    s.channels[key]?.map (·.ring) = some c.ring ∨ s.channels[key]? = none ∧ c.ring.counters = {}
  rings : s.KeepsRings t

theorem Fits.of_widths {e f : Endpoint} (h : s.Fits e)
    (widths : ∀ (key : Nat) (c : Channel), s.channels[key]? = some c →
      t.channels[key]?.map (·.channels) = some c.channels)
    (fewer : f.registered.Sublist e.registered) (config : f.config = e.config) : t.Fits f := by
  refine ⟨h.1.sublist fewer, fun key member => ?_⟩
  obtain ⟨c, there, width⟩ := h.2 key (fewer.subset member)
  obtain ⟨after, there', same⟩ := Option.map_eq_some_iff.mp (widths key c there)
  exact ⟨after, there', by rw [same, config]; exact width⟩

theorem Fits.of_sublist {e f : Endpoint} (h : s.Fits e) (rings : s.KeepsRings t)
    (fewer : f.registered.Sublist e.registered) (config : f.config = e.config) : t.Fits f := by
  refine h.of_widths (fun key c there => ?_) fewer config
  obtain ⟨after, there', ring⟩ := Option.map_eq_some_iff.mp (rings key c there)
  rw [there', Option.map_some, Channel.channels, ring, Channel.channels]

theorem fits_of_nobody {f : Endpoint} (nobody : f.registered = []) : s.Fits f := by
  rw [Fits, nobody]
  exact ⟨.nil, fun key member => absurd member List.not_mem_nil⟩

namespace Calm

theorem trans (h : s.Calm t) (g : t.Calm u) : s.Calm u := by
  refine ⟨?_, fun k absent => h.present k (g.present k absent), ?_, ?_⟩
  · intro k f there
    rcases g.endpoints k f there with ⟨e, middle, calm, fits⟩ | ⟨absent, fresh⟩
    · rcases h.endpoints k e middle with ⟨d, first, before, earlier⟩ | ⟨new, made, shaped, sound⟩
      · exact .inl ⟨d, first, before.trans calm, fun sound => fits (earlier sound)⟩
      · exact .inr ⟨new, calm.made.trans made, calm.shaped shaped, fits sound⟩
    · exact .inr ⟨h.present k absent, fresh⟩
  · intro key c there
    rcases g.channels key c there with kept | ⟨absent, idle⟩
    · obtain ⟨between, middle, ring⟩ := Option.map_eq_some_iff.mp kept
      rcases h.channels key between middle with before | ⟨new, idle⟩
      · exact .inl (by rw [before, ring])
      · exact .inr ⟨new, by rw [← ring]; exact idle⟩
    · refine .inr ⟨?_, idle⟩
      cases before : s.channels[key]? with
      | none => rfl
      | some first =>
        have middle := h.rings key first before
        rw [absent] at middle
        cases middle
  · intro key c there
    obtain ⟨after, middle, ring⟩ := Option.map_eq_some_iff.mp (h.rings key c there)
    rw [← ring]
    exact g.rings key after middle

theorem of_endpoints
    (endpoints : ∀ (k : Nat) (f : Endpoint), t.endpoints[k]? = some f →
      (∃ e, s.endpoints[k]? = some e ∧ e.Calm f ∧ (s.Fits e → t.Fits f)) ∨
        s.endpoints[k]? = none ∧ f.made = [] ∧ f.Shaped ∧ t.Fits f)
    (present : ∀ (k : Nat), t.endpoints[k]? = none → s.endpoints[k]? = none)
    (rings : ∀ key : Nat, t.channels[key]?.map (·.ring) = s.channels[key]?.map (·.ring)) :
    s.Calm t where
  endpoints := endpoints
  present := present
  channels key c there := .inl (by rw [← rings key, there]; rfl)
  rings key c there := by rw [rings key, there]; rfl

theorem of_channels (endpoints : t.endpoints = s.endpoints)
    (channels : ∀ (key : Nat) (c : Channel), t.channels[key]? = some c →
      s.channels[key]?.map (·.ring) = some c.ring ∨ s.channels[key]? = none ∧ c.ring.counters = {})
    (rings : s.KeepsRings t) : s.Calm t where
  endpoints _ f there :=
    .inl ⟨f, endpoints ▸ there, .refl f, fun fits => fits.of_sublist rings (.refl _) rfl⟩
  present _ absent := endpoints ▸ absent
  channels := channels
  rings := rings

theorem of_same (endpoints : t.endpoints = s.endpoints) (channels : t.channels = s.channels) :
    s.Calm t :=
  of_channels endpoints (fun key c there => .inl (by rw [← channels, there]; rfl))
    fun key c there => by rw [channels, there]; rfl

theorem refl (s : Server) : s.Calm s := of_same rfl rfl

theorem putSite (found : s.site? k = some site) {after : Site} (calm : site.Calm after)
    (fits : s.Fits site.endpoint → (s.putSite k after).Fits after.endpoint) :
    s.Calm (s.putSite k after) := by
  obtain ⟨there, channels⟩ := endpoint_of_site? found
  have rings (key : Nat) : (s.putSite k after).channels[key]?.map (·.ring) =
      s.channels[key]?.map (·.ring) := by
    rw [← channels]
    exact calm.rings key
  refine of_endpoints ?_ ?_ rings
  · intro l f at'
    rw [endpoints_putSite] at at'
    split at at'
    next same =>
      subst same
      obtain ⟨-, -, rfl⟩ := Option.map_eq_some_iff.mp at'
      exact .inl ⟨_, there, calm.endpoint, fits⟩
    next =>
      refine .inl ⟨f, at', .refl f, fun fits => fits.of_sublist ?_ (.refl _) rfl⟩
      intro key c present
      rw [rings key, present]
      rfl
  · intro l absent
    rw [endpoints_putSite] at absent
    split at absent
    · exact Option.map_eq_none_iff.mp absent
    · exact absent

theorem putSite_of_sublist (found : s.site? k = some site) {after : Site}
    (calm : site.Calm after)
    (fewer : after.endpoint.registered.Sublist site.endpoint.registered) :
    s.Calm (s.putSite k after) := by
  refine putSite found calm fun fits => fits.of_sublist ?_ fewer calm.endpoint.config
  intro key c present
  rw [← (endpoint_of_site? found).2] at present
  have ring := calm.rings key
  rw [present] at ring
  exact ring

theorem actOn (k : Nat) {act : Site → Site} (calm : ∀ site : Site, site.Calm (act site))
    (serves : ∀ site : Site, site.Serves (act site)) : s.Calm (s.actOn k act) := by
  cases found : s.site? k with
  | none =>
    rw [actOn_of_none found]
    exact refl s
  | some site =>
    rw [actOn_of_site found]
    exact putSite_of_sublist found (calm site) (serves site).fewer

theorem actOnChannel (key : Nat) {act : Channel → Channel} (keeps : ∀ c, (act c).ring = c.ring) :
    s.Calm (s.actOnChannel key act) := by
  have rings := s.map_actOnChannel (f := (·.ring)) key keeps
  refine of_endpoints ?_ (by simp) rings
  intro k f there
  rw [endpoints_actOnChannel] at there
  refine .inl ⟨f, there, .refl f, fun fits => fits.of_sublist ?_ (.refl _) rfl⟩
  intro other before present
  rw [rings other, present]
  rfl

theorem register {c : Channel} (present : s.channels[key]? = some c) :
    s.Calm (s.actOn k fun site => (site.register key c).2) := by
  cases found : s.site? k with
  | none =>
    rw [actOn_of_none found]
    exact refl s
  | some site =>
    rw [actOn_of_site found]
    rcases site.register_cases key c with eq | ⟨-, width, fresh, eq⟩
    · rw [eq]
      exact putSite_of_sublist found (.refl site) (.refl _)
    · refine putSite found (site.calm_register key c) ?_
      rw [eq]
      rintro ⟨once, widths⟩
      have channels := (endpoint_of_site? found).2
      refine ⟨?_, ?_⟩
      · have outside : key ∉ site.endpoint.registered := by
          intro member
          have there : site.channels[key]? = some c := by rw [channels, present]
          exact fresh (List.mem_map.mpr ⟨c, List.mem_filterMap.mpr ⟨key, member, there⟩, rfl⟩)
        exact List.nodup_append.mpr ⟨once, List.pairwise_singleton _ key, by
          rintro other member last same rfl
          exact outside (List.mem_singleton.mp same ▸ member)⟩
      · intro other member
        change ∃ c, site.channels[other]? = some c ∧ c.channels = site.endpoint.config.channels
        rw [channels]
        rcases List.mem_append.mp member with earlier | new
        · exact widths other earlier
        · rw [List.mem_singleton.mp new]
          exact ⟨c, present, width⟩

theorem addChannel (id : StreamId) {ring : Ring} (idle : ring.counters = {}) :
    s.Calm (s.addChannel id ring).2 := by
  refine of_channels rfl ?_ ?_
  · intro key c there
    rw [Server.addChannel, Array.getElem?_push] at there
    split at there
    next last =>
      cases there
      exact .inr ⟨Array.getElem?_eq_none (by omega), idle⟩
    next => exact .inl (by rw [there]; rfl)
  · intro key c there
    obtain ⟨inside, eq⟩ := Array.getElem?_eq_some_iff.mp there
    rw [Server.addChannel, Array.getElem?_push_lt inside, eq]
    rfl

theorem push {f : Endpoint} (endpoints : t.endpoints = s.endpoints.push f)
    (channels : t.channels = s.channels) (made : f.made = []) (shaped : f.Shaped)
    (nobody : f.registered = []) : s.Calm t := by
  refine of_endpoints ?_ ?_ fun key => by rw [channels]
  · intro k g there
    rw [endpoints, Array.getElem?_push] at there
    split at there
    · cases there
      exact .inr ⟨Array.getElem?_eq_none (by omega), made, shaped, fits_of_nobody nobody⟩
    · refine .inl ⟨g, there, .refl g, fun fits => ?_⟩
      rw [Fits, channels]
      exact fits
  · intro k absent
    rw [endpoints, Array.getElem?_push] at absent
    split at absent
    · cases absent
    · exact absent

theorem setReferences (s : Server) (k : Nat) (count : UInt64) :
    s.Calm (s.setReferences k count) := by
  refine of_endpoints ?_ ?_ fun _ => rfl
  · intro l f there
    rw [Server.setReferences, Array.getElem?_modify] at there
    split at there
    · obtain ⟨e, was, rfl⟩ := Option.map_eq_some_iff.mp there
      exact .inl ⟨e, was, .of_same rfl rfl rfl rfl, fun fits => fits⟩
    · exact .inl ⟨f, there, .refl f, fun fits => fits⟩
  · intro l absent
    rw [Server.setReferences, Array.getElem?_modify] at absent
    split at absent
    · exact Option.map_eq_none_iff.mp absent
    · exact absent

theorem unreference (s : Server) (k : Nat) : s.Calm (s.unreference k) := by
  obtain ⟨count, eq | eq⟩ := s.unreference_cases k
  · rw [eq]
    exact setReferences s k count
  · have closes (site : Site) : site.Calm (site.closeStream.2.announce "released and closed") :=
      site.calm_closeStream.announce _
    have serves (site : Site) : site.Serves (site.closeStream.2.announce "released and closed") :=
      site.serves_closeStream.announce _
    have forgotten (s : Server) : s.Calm { s with held := s.held.filter (· != k) } :=
      of_same rfl rfl
    rw [eq]
    exact (setReferences s k count).trans ((forgotten _).trans (actOn k closes serves))

theorem acquire (s : Server) (config : StreamConfig) (plan : Plan) :
    s.Calm (s.acquired config plan) := by
  obtain ⟨answer, acquired⟩ := s.acquired_cases config plan
  generalize s.acquired config plan = t at acquired ⊢
  cases acquired with
  | shared k => exact (setReferences s k _).trans (of_same rfl rfl)
  | panicked => exact refl s
  | refused => exact of_same rfl rfl
  | fresh site _ opening =>
    have opens := Site.calm_opened
      ⟨{ config, options := s.options, device := s.newDevice plan }, s.channels, s.log⟩
    have serves := Site.serves_opened
      ⟨{ config, options := s.options, device := s.newDevice plan }, s.channels, s.log⟩
    rw [Site.opened_of_openStream? opening] at opens serves
    have nobody : site.endpoint.registered = [] := List.sublist_nil.mp serves.fewer
    have shaped : site.endpoint.Shaped :=
      opens.endpoint.shaped fun _ _ opened => by cases opened
    exact push (f := { site.endpoint with references := 1 }) rfl rfl opens.endpoint.made shaped
      nobody

end Calm

end Server

end SharedAudio

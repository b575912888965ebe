import Mathlib.Data.List.Basic
import SharedAudio.Proofs.Server.Session

namespace SharedAudio

namespace Endpoint

variable {e f : Endpoint}

theorem Calm.mixes_eq_false (h : e.Calm f) : e.mixes f = false := by
  cases runs : f.runs with
  | false => simp [mixes, runs]
  | true =>
    obtain ⟨before, bursts⟩ := h.quiet runs
    simp [mixes, before, bursts]

end Endpoint

namespace Site.Mixes

variable {s ready after : Site} {line : Line} {mixer : Mixer}

theorem mixes (h : s.Mixes line mixer ready) (running : after.endpoint.runs = true)
    (bursts : after.endpoint.bursts = ready.endpoint.bursts) :
    s.endpoint.mixes after.endpoint = true := by
  cases before : s.endpoint.runs with
  | false => simp [Endpoint.mixes, running, before]
  | true =>
    have counted := h.counted before
    rw [← bursts] at counted
    simp [Endpoint.mixes, running, counted]

end Site.Mixes

theorem Channel.Deed.ring {op : Operation} {key : Nat} {act : Channel → Channel}
    (h : Channel.Deed op key act) (plain : op.Plain)
    (unwritten : ∀ key samples, op ≠ .write key samples) (c : Channel) : (act c).ring = c.ring := by
  cases h with
  | write key samples => exact absurd rfl (unwritten key samples)
  | pop | retarget => exact plain.elim
  | setGain | drainEvents => rfl
  | disconnect | fault => exact c.ring_enter _

namespace Server

variable {s t : Server} {k : Nat} {site : Site}

theorem mixing?_eq_none (calm : ∀ (k : Nat) (e f : Endpoint), s.endpoints[k]? = some e →
    t.endpoints[k]? = some f → e.Calm f) : s.mixing? t = none := by
  rw [mixing?, List.findSome?_eq_none_iff]
  intro k _
  cases before : s.endpoints[k]? with
  | none => rfl
  | some e =>
    cases after : t.endpoints[k]? with
    | none => rfl
    | some f =>
      have quiet := (calm k e f before after).mixes_eq_false
      cases line : f.line? <;> simp [line, quiet]

theorem Calm.mixing?_eq_none (h : s.Calm t) : s.mixing? t = none := by
  refine Server.mixing?_eq_none fun k e f before after => ?_
  rcases h.endpoints k f after with ⟨e', there, calm, -⟩ | ⟨absent, -⟩
  · rw [before] at there
    cases there
    exact calm
  · rw [before] at absent
    cases absent

theorem mixing?_of_endpoints (same : t.endpoints = s.endpoints) : s.mixing? t = none := by
  refine mixing?_eq_none fun k e f before after => ?_
  rw [same, before] at after
  cases after
  exact .refl e

theorem mixing?_putSite (found : s.site? k = some site) {after : Site} {line : Line}
    (opened : after.endpoint.phase = .opened line)
    (mixes : site.endpoint.mixes after.endpoint = true) :
    s.mixing? (s.putSite k after) = some (k, after.endpoint, line) := by
  obtain ⟨there, -⟩ := endpoint_of_site? found
  have here : (s.putSite k after).endpoints[k]? = some after.endpoint := by
    rw [endpoints_putSite, if_pos rfl, there]
    rfl
  have inside : k ∈ List.range s.endpoints.size :=
    List.mem_range.mpr (Array.getElem?_eq_some_iff.mp there).1
  cases result : s.mixing? (s.putSite k after) with
  | none =>
    rw [mixing?, List.findSome?_eq_none_iff] at result
    have nothing := result k inside
    simp [there, here, Endpoint.line?_eq_some.mpr opened, mixes] at nothing
  | some mixed =>
    obtain ⟨l, -, eq⟩ := List.exists_of_findSome?_eq_some result
    by_cases same : k = l
    · subst same
      simp [there, here, Endpoint.line?_eq_some.mpr opened, mixes] at eq
      rw [← eq]
    · rw [endpoints_putSite, if_neg same] at eq
      cases other : s.endpoints[l]? with
      | none => simp [other] at eq
      | some e =>
        have quiet := (Endpoint.Calm.refl e).mixes_eq_false
        cases line : e.line? <;> simp [other, line, quiet] at eq

section Mix

variable {ready after : Site} {line : Line} {mixer : Mixer}

theorem mixing?_continueLoop (found : s.site? k = some site) (mixes : site.Mixes line mixer ready) :
    ∃ loop, s.mixing? (s.putSite k (ready.continueLoop mixer)) =
      some (k, (ready.continueLoop mixer).endpoint, { line with loop }) ∧
        loop.mixer? = (ready.mix mixer).1 := by
  obtain ⟨before, still⟩ := mixes.still
  obtain ⟨loop, opened, runs, has⟩ := Site.phase_continueLoop mixer still
  have running := (Endpoint.runs_of_opened opened).trans runs
  exact ⟨loop, mixing?_putSite found opened (mixes.mixes running (ready.bursts_continueLoop mixer)),
    has⟩

theorem voices_putSite (found : s.site? k = some site) (mixes : site.Mixes line mixer ready)
    (states : ∀ key : Nat, after.channels[key]?.map (·.state) =
      ready.channels[key]?.map (·.state)) :
    s.voices (s.putSite k after) ready.endpoint.registered = ready.voices := by
  have channels := (endpoint_of_site? found).2
  refine List.filterMap_congr fun key _ => ?_
  have ramp := mixes.ramps key
  have state := states key
  rw [channels] at ramp
  rw [Site.voice?, show (s.putSite k after).channels = after.channels from rfl]
  cases now : ready.channels[key]? with
  | none =>
    rw [now] at ramp
    rw [Option.map_eq_none_iff.mp ramp.symm]
    rfl
  | some c =>
    rw [now] at ramp state
    obtain ⟨before, was, same⟩ := Option.map_eq_some_iff.mp ramp.symm
    obtain ⟨later, then', still⟩ := Option.map_eq_some_iff.mp state
    have running : later.isRunning = c.isRunning := by
      rw [Channel.isRunning, Channel.isRunning, show later.state = c.state from still]
    have next : before.ramp = c.ramp := same
    rw [was, then', Option.bind_some, Option.any_some, running, next, Option.bind_some]

theorem voices_continueLoop (found : s.site? k = some site) (mixes : site.Mixes line mixer ready) :
    s.voices (s.putSite k (ready.continueLoop mixer)) ready.endpoint.registered = ready.voices := by
  refine voices_putSite found mixes fun key => ?_
  rw [Site.channels_continueLoop]
  exact ready.state_mix mixer key

theorem widths_putSite (found : s.site? k = some site) (mixes : site.Mixes line mixer ready)
    (widths : ∀ key : Nat, after.channels[key]?.map (·.channels) =
      ready.channels[key]?.map (·.channels)) (key : Nat) :
    (s.putSite k after).channels[key]?.map (·.channels) =
      s.channels[key]?.map (·.channels) := by
  have width (channels : Array Channel) : channels[key]?.map (·.channels) =
      (channels[key]?.map (·.ring)).map fun r => UInt64.ofNat r.channels := by
    rw [Option.map_map]
    rfl
  rw [← (endpoint_of_site? found).2]
  refine (widths key).trans ?_
  rw [width ready.channels, mixes.rings key, ← width]

end Mix

def MixesTo (s t : Server) : Prop := ∃ k site line mixer ready, s.site? k = some site ∧
  site.Mixes line mixer ready ∧ t = s.putSite k (ready.continueLoop mixer)

theorem actOn_or_mixes {P : Server → Prop} {R : Site → Site → Prop} (k : Nat) {act : Site → Site}
    (idle : P s) (put : ∀ site after, s.site? k = some site → R site after → P (s.putSite k after))
    (either : ∀ site : Site, R site (act site) ∨ ∃ line mixer ready,
      site.Mixes line mixer ready ∧ act site = ready.continueLoop mixer) :
    P (s.actOn k act) ∨ s.MixesTo (s.actOn k act) := by
  cases found : s.site? k with
  | none =>
    rw [actOn_of_none found]
    exact .inl idle
  | some site =>
    rw [actOn_of_site found]
    rcases either site with kept | ⟨line, mixer, ready, mixes, eq⟩
    · exact .inl (put site _ found kept)
    · rw [eq]
      exact .inr ⟨k, site, line, mixer, ready, found, mixes, rfl⟩

theorem actOn_calm_or_mixes (k : Nat) {act : Site → Site}
    (either : ∀ site : Site, site.Calm (act site) ∨ ∃ line mixer ready,
      site.Mixes line mixer ready ∧ act site = ready.continueLoop mixer)
    (serves : ∀ site : Site, site.Serves (act site)) :
    s.Calm (s.actOn k act) ∨ s.MixesTo (s.actOn k act) :=
  actOn_or_mixes (R := fun site after => site.Calm after ∧ site.Serves after) k (.refl s)
    (fun _ _ found kept => .putSite_of_sublist found kept.1 kept.2.fewer)
    fun site => (either site).imp_left fun calm => ⟨calm, serves site⟩

theorem perform_calm_or_mixes (s : Server) {op : Operation} (plain : op.Plain)
    (single : op.units = [op]) (unwritten : ∀ key samples, op ≠ .write key samples) :
    s.Calm (s.perform op) ∨ s.MixesTo (s.perform op) := by
  have deed := s.deed_perform op
  generalize s.perform op = t at deed ⊢
  cases deed with
  | still => exact .inl (.refl s)
  | acquire config plan => exact .inl (.acquire s config plan)
  | release handle k =>
    have left : s.Calm (s.letGo handle) := .of_same rfl rfl
    exact .inl (left.trans (.unreference _ k))
  | addEndpoint => exact .inl (.push rfl rfl rfl (fun _ _ opened => by cases opened) rfl)
  | grant k n =>
    rw [Operation.eq_one_of_units single]
    refine actOn_calm_or_mixes k (fun site => ?_) (·.serves_grantUpTo 1 0)
    rcases site.grantUpTo_one_cases with eq | granted
    · rw [eq]
      exact .inl (.refl site)
    · exact granted.calm_or_mixes
  | createChannel => exact .inl ((Calm.addChannel _ rfl).trans (.of_same rfl rfl))
  | addChannel id ring => exact .inl (.addChannel id plain)
  | register k key c present => exact .inl (.register present)
  | start op k id => exact actOn_calm_or_mixes k (·.start_calm_or_mixes id) (·.serves_start id)
  | site op k act deed => exact .inl (.actOn k deed.calm deed.serves)
  | channel op key act deed => exact .inl (.actOnChannel key (deed.ring plain unwritten))
  | drainLog => exact .inl (.of_same rfl rfl)

end Server

end SharedAudio

import Mathlib.Data.List.Nodup
import SharedAudio.Proofs.Endpoint.Constants
import SharedAudio.Proofs.Server.Clipping

namespace SharedAudio

structure Channel.Lasting {β : Type} (view : Channel → β) : Prop extends Constant view where
  deed : ∀ {op : Operation} {key : Nat} {act : Channel → Channel}, Channel.Deed op key act →
    ∀ c, view (act c) = view c

theorem Channel.lasting_id : Lasting (·.id) where
  toConstant := constant_id
  deed h := h.keeps constant_id.enter (fun _ _ => rfl) (fun _ _ => rfl) fun _ => constant_id.aim

theorem Channel.lasting_channels : Lasting (·.channels) where
  toConstant := constant_channels
  deed h := h.width

theorem Site.Deed.keeps {β : Type} {view : Channel → β} {op : Operation} {k : Nat}
    {act : Site → Site} (h : Site.Deed op k act)
    (enter : ∀ (c : Channel) (e : StreamEvent), view (c.enter e) = view c)
    (aim : op.Tunes → ∀ (c : Channel) (ramp : Ramp), view { c with ramp } = view c) (site : Site) :
    Keeps view site.channels (act site).channels := by
  cases h with
  | setPlan | extendScript => exact .refl _
  | openStream => exact keeps_opened site
  | closeStream => exact keeps_closeStream enter site
  | unregister k id => exact keeps_unregister enter site id
  | stop k id | toggle k id => exact keeps_stop enter site id
  | setVolume k id volume => exact keeps_setVolume (aim trivial) site id volume
  | setLevel k id level => exact keeps_setVolume (aim trivial) site id _
  | disconnectAll => exact keeps_enterAll enter site .disconnected

theorem Site.room_register (s : Site) (key : Nat) (c : Channel) :
    (s.register key c).2 = s ∨
      s.endpoint.registered.length < s.endpoint.options.maxChannels.toNat := by
  simp only [register]
  split
  · exact .inl rfl
  · split
    · exact .inl rfl
    · split
      · exact .inl rfl
      · split
        · exact .inl rfl
        next room => exact .inr (Nat.lt_of_not_le room)

theorem Site.mem_ids_iff {s : Site} {id : StreamId} :
    id ∈ s.ids ↔ ∃ key ∈ s.endpoint.registered, s.idOf? key = some id := by
  simp only [ids, registered, idOf?, List.mem_map, List.mem_filterMap, Option.map_eq_some_iff]
  constructor
  · rintro ⟨c, ⟨key, member, present⟩, same⟩
    exact ⟨key, member, c, present, same⟩
  · rintro ⟨key, member, c, present, same⟩
    exact ⟨c, ⟨key, member, present⟩, same⟩

theorem Site.find?_eq_none_iff {s : Site} {id : StreamId} : s.find? id = none ↔ id ∉ s.ids := by
  rw [find?, List.find?_eq_none, mem_ids_iff]
  simp

theorem Site.idOf?_of_find? {s : Site} {id : StreamId} {key : Nat} (h : s.find? id = some key) :
    s.idOf? key = some id := by
  simpa using List.find?_some h

namespace Server

variable {s t : Server} {k : Nat} {op : Operation}

section Identity

variable {β : Type} {view : Channel → β}

def idOf? (s : Server) (key : Nat) : Option StreamId := s.channels[key]?.map (·.id)

def Preserves (view : Channel → β) (s t : Server) : Prop :=
  ∀ (key : Nat) (x : β), s.channels[key]?.map view = some x →
    t.channels[key]?.map view = some x

theorem Preserves.of_channels (same : t.channels = s.channels) : Preserves view s t := by
  intro key x there
  rwa [same]

theorem keeps_actOn (s : Server) (k : Nat) {act : Site → Site}
    (step : ∀ site : Site, Keeps view site.channels (act site).channels) :
    Keeps view s.channels (s.actOn k act).channels := by
  cases found : s.site? k with
  | none =>
    rw [actOn_of_none found]
    exact .refl _
  | some site =>
    rw [actOn_of_site found, ← (endpoint_of_site? found).2]
    exact step site

theorem preserves_actOn (s : Server) (k : Nat) {act : Site → Site}
    (step : ∀ site : Site, Keeps view site.channels (act site).channels) :
    Preserves view s (s.actOn k act) :=
  fun key _ there => (s.keeps_actOn k step key).trans there

theorem preserves_addChannel (s : Server) (id : StreamId) (ring : Ring) :
    Preserves view s (s.addChannel id ring).2 := by
  intro key x there
  obtain ⟨c, present, same⟩ := Option.map_eq_some_iff.mp there
  obtain ⟨inside, eq⟩ := Array.getElem?_eq_some_iff.mp present
  rw [addChannel, Array.getElem?_push_lt inside, eq]
  exact congrArg some same

theorem preserves_unreference (enter : ∀ (c : Channel) (e : StreamEvent), view (c.enter e) = view c)
    (s : Server) (k : Nat) : Preserves view s (s.unreference k) := by
  obtain ⟨count, eq | eq⟩ := s.unreference_cases k
  · rw [eq]
    exact fun _ _ => id
  · rw [eq, retire_eq]
    refine preserves_actOn ((s.setReferences k count).unlist k) k fun site => ?_
    rw [Site.channels_announce]
    exact Site.keeps_closeStream enter site

theorem preserves_perform (lasting : Channel.Lasting view) (s : Server) (op : Operation) :
    Preserves view s (s.perform op) := by
  have constant := lasting.toConstant
  have deed := s.deed_perform op
  generalize s.perform op = t at deed ⊢
  cases deed with
  | still | addEndpoint | drainLog => exact fun _ _ => id
  | acquire config plan => exact .of_channels (s.channels_acquire config plan)
  | release handle k => exact (s.letGo handle).preserves_unreference constant.enter k
  | grant k n => exact s.preserves_actOn k fun site => site.keeps_grantUpTo constant.toEnduring n 0
  | createChannel | addChannel => exact s.preserves_addChannel _ _
  | register k key c => exact s.preserves_actOn k fun site => .of_eq (site.channels_register key c)
  | start op k id => exact s.preserves_actOn k fun site => site.keeps_start constant.toEnduring id
  | site op k act deed =>
    exact s.preserves_actOn k (deed.keeps constant.enter fun _ => constant.aim)
  | channel op key act deed =>
    intro other x there
    exact (s.map_actOnChannel key (lasting.deed deed) other).trans there

theorem preserves_run (lasting : Channel.Lasting view) (s : Server) (ops : List Operation) :
    Preserves view s (s.run ops) := by
  induction ops generalizing s with
  | nil => exact fun _ _ => id
  | cons op ops ih =>
    exact fun key x there => ih _ key x (s.preserves_perform lasting op key x there)

theorem keepsIds_perform (s : Server) (op : Operation) (key : Nat) (id : StreamId)
    (there : s.idOf? key = some id) : (s.perform op).idOf? key = some id :=
  s.preserves_perform Channel.lasting_id op key id there

theorem keepsIds_run (s : Server) (ops : List Operation) (key : Nat) (id : StreamId)
    (there : s.idOf? key = some id) : (s.run ops).idOf? key = some id :=
  s.preserves_run Channel.lasting_id ops key id there

end Identity

section Turns

def roll (s : Server) (k : Nat) : List Nat := (s.endpoints[k]?.map (·.registered)).getD []

theorem roll_of_endpoint {e : Endpoint} (h : s.endpoints[k]? = some e) :
    s.roll k = e.registered := by
  rw [roll, h]
  rfl

theorem roll_of_site {site : Site} (h : s.site? k = some site) :
    s.roll k = site.endpoint.registered := roll_of_endpoint (endpoint_of_site? h).1

theorem roll_congr (same : t.endpoints = s.endpoints) : t.roll k = s.roll k := by
  rw [roll, same, roll]

inductive Turns (s : Server) (k : Nat) (after : List Nat) : Prop
  | fewer (sublist : after.Sublist (s.roll k))
  | entered (key : Nat) (id : StreamId) (known : s.idOf? key = some id)
      (fresh : ∀ other ∈ s.roll k, s.idOf? other ≠ some id)
      (room : ∃ e, s.endpoints[k]? = some e ∧ (s.roll k).length < e.options.maxChannels.toNat)
      (last : after = s.roll k ++ [key])

theorem Turns.of_roll {after : List Nat} (same : after = s.roll k) : s.Turns k after :=
  .fewer (same ▸ .refl _)

theorem roll_actOn (s : Server) (l k : Nat) (act : Site → Site) :
    (s.actOn l act).roll k = s.roll k ∨ ∃ site, s.site? k = some site ∧
      (s.actOn l act).roll k = (act site).endpoint.registered := by
  simp only [roll, endpoints_actOn]
  split
  next same =>
    cases found : s.site? k with
    | none => exact .inl (by rw [Option.map_eq_none_iff.mp found]; rfl)
    | some site => exact .inr ⟨site, rfl, rfl⟩
  next => exact .inl rfl

theorem sublist_actOn (s : Server) (l k : Nat) {act : Site → Site}
    (serves : ∀ site : Site, site.Serves (act site)) :
    ((s.actOn l act).roll k).Sublist (s.roll k) := by
  rcases s.roll_actOn l k act with same | ⟨site, found, eq⟩
  · rw [same]
  · rw [eq, roll_of_site found]
    exact (serves site).fewer

theorem roll_setReferences (s : Server) (l k : Nat) (count : UInt64) :
    (s.setReferences l count).roll k = s.roll k := by
  rw [roll, setReferences, Array.getElem?_modify]
  split
  · rw [Option.map_map]
    rfl
  · rfl

theorem roll_push {e : Endpoint} (endpoints : t.endpoints = s.endpoints.push e)
    (nobody : e.registered = []) : t.roll k = s.roll k := by
  rw [roll, endpoints, Array.getElem?_push]
  split
  next new => simp [roll, new, nobody]
  next => rfl

theorem sublist_unreference (s : Server) (l k : Nat) :
    ((s.unreference l).roll k).Sublist (s.roll k) := by
  obtain ⟨count, eq | eq⟩ := s.unreference_cases l
  · rw [eq, roll_setReferences]
  · have serves (site : Site) :
        site.Serves (site.closeStream.2.announce "released and closed") :=
      site.serves_closeStream.announce _
    have closed := sublist_actOn ((s.setReferences l count).unlist l) l k serves
    rw [eq, retire_eq, ← roll_setReferences s l k count]
    exact closed

theorem turns_acquire (s : Server) (config : StreamConfig) (plan : Plan) (k : Nat) :
    s.Turns k ((s.acquired config plan).roll k) := by
  obtain ⟨answer, acquired⟩ := s.acquired_cases config plan
  generalize s.acquired config plan = t at acquired ⊢
  cases acquired with
  | shared l e => exact .of_roll (roll_setReferences s l k (e.references + 1))
  | panicked | refused => exact .of_roll rfl
  | fresh site unshared opening =>
    refine .of_roll (roll_push rfl ?_)
    have fixed := (Site.fixed_opened
      ⟨{ config, options := s.options, device := s.newDevice plan }, s.channels, s.log⟩).2.2.2
    rw [Site.opened_of_openStream? opening] at fixed
    exact fixed

theorem turns_register {key : Nat} {c : Channel} (present : s.channels[key]? = some c) (l : Nat) :
    s.Turns k ((s.actOn l fun site => (site.register key c).2).roll k) := by
  rcases s.roll_actOn l k fun site => (site.register key c).2 with same | ⟨site, found, eq⟩
  · exact .of_roll same
  rw [eq]
  have still (eq : (site.register key c).2 = site) :
      s.Turns k (site.register key c).2.endpoint.registered :=
    .of_roll (by rw [eq, roll_of_site found])
  rcases site.room_register key c with eq | room
  · exact still eq
  rcases site.register_cases key c with eq | ⟨-, -, fresh, eq⟩
  · exact still eq
  obtain ⟨there, channels⟩ := endpoint_of_site? found
  refine .entered key c.id (by rw [idOf?, present]; rfl) (fun other member same => ?_) ?_ ?_
  · refine fresh (Site.mem_ids_iff.mpr ⟨other, roll_of_site found ▸ member, ?_⟩)
    rw [Site.idOf?, channels]
    exact same
  · exact ⟨site.endpoint, there, by rwa [roll_of_site found]⟩
  · rw [eq, roll_of_site found]
    rfl

theorem turns_perform (s : Server) (op : Operation) (k : Nat) :
    s.Turns k ((s.perform op).roll k) := by
  have deed := s.deed_perform op
  generalize s.perform op = t at deed ⊢
  cases deed with
  | still | createChannel | addChannel | drainLog => exact .of_roll rfl
  | acquire config plan => exact s.turns_acquire config plan k
  | release handle l => exact .fewer ((s.letGo handle).sublist_unreference l k)
  | addEndpoint => exact .of_roll (roll_push rfl rfl)
  | grant l n => exact .fewer (s.sublist_actOn l k fun site => site.serves_grantUpTo n 0)
  | register l key c present => exact turns_register present l
  | start op l id => exact .fewer (s.sublist_actOn l k fun site => site.serves_start id)
  | site op l act deed => exact .fewer (s.sublist_actOn l k deed.serves)
  | channel op key act => exact .of_roll (roll_congr (s.endpoints_actOnChannel key act))

end Turns

section Enrols

structure Enrols (s : Server) (k : Nat) : Prop where
  known : ∀ key ∈ s.roll k, ∃ id, s.idOf? key = some id
  distinct : (s.roll k).Pairwise fun j l => s.idOf? j ≠ s.idOf? l
  few : ∀ e, s.endpoints[k]? = some e → (s.roll k).length ≤ e.options.maxChannels.toNat

theorem Enrols.unique (h : s.Enrols k) {j l : Nat} (first : j ∈ s.roll k) (second : l ∈ s.roll k)
    (same : s.idOf? j = s.idOf? l) : j = l :=
  List.inj_on_of_nodup_map (List.pairwise_map.mpr h.distinct) first second same

theorem few_perform (op : Operation)
    (few : ∀ e, s.endpoints[k]? = some e →
      ((s.perform op).roll k).length ≤ e.options.maxChannels.toNat)
    (new : s.endpoints[k]? = none → (s.perform op).roll k = []) {f : Endpoint}
    (there : (s.perform op).endpoints[k]? = some f) :
    ((s.perform op).roll k).length ≤ f.options.maxChannels.toNat := by
  cases before : s.endpoints[k]? with
  | none =>
    rw [new before]
    exact Nat.zero_le _
  | some e =>
    obtain ⟨g, after, -, options⟩ := s.terms_perform op k e before
    rw [there] at after
    cases after
    rw [options]
    exact few e before

theorem Enrols.perform (h : s.Enrols k) (op : Operation) : (s.perform op).Enrols k := by
  have keeps := s.keepsIds_perform op
  have same {key : Nat} (member : key ∈ s.roll k) : (s.perform op).idOf? key = s.idOf? key := by
    obtain ⟨id, known⟩ := h.known key member
    rw [known, keeps key id known]
  have still : (s.roll k).Pairwise fun j l => (s.perform op).idOf? j ≠ (s.perform op).idOf? l :=
    h.distinct.imp_of_mem fun first second ne => by rwa [same first, same second]
  have nobody (absent : s.endpoints[k]? = none) : s.roll k = [] := by rw [roll, absent]; rfl
  cases s.turns_perform op k with
  | fewer sublist =>
    refine ⟨fun key member => ?_, still.sublist sublist,
      fun f => few_perform op ?_ fun absent => ?_⟩
    · obtain ⟨id, known⟩ := h.known key (sublist.subset member)
      exact ⟨id, keeps key id known⟩
    · exact fun e there => Nat.le_trans sublist.length_le (h.few e there)
    · exact List.sublist_nil.mp (nobody absent ▸ sublist)
  | entered key id known fresh room last =>
    obtain ⟨e, there, room⟩ := room
    refine ⟨fun other member => ?_, ?_,
      fun f => few_perform op (fun d before => ?_) fun absent => ?_⟩
    · rw [last] at member
      rcases List.mem_append.mp member with earlier | new
      · obtain ⟨old, known⟩ := h.known other earlier
        exact ⟨old, keeps other old known⟩
      · exact ⟨id, List.mem_singleton.mp new ▸ keeps key id known⟩
    · rw [last]
      refine List.pairwise_append.mpr ⟨still, List.pairwise_singleton _ key, ?_⟩
      intro other earlier newest new
      rw [List.mem_singleton.mp new, same earlier, keeps key id known]
      exact fresh other earlier
    · rw [there] at before
      cases before
      rw [last, List.length_append]
      exact room
    · rw [there] at absent
      cases absent

theorem enrols_run (options : Options) (ops : List Operation) (k : Nat) :
    (run { options } ops).Enrols k := by
  induction ops using List.reverseRecOn with
  | nil => exact ⟨by simp [roll], by simp [roll], by simp⟩
  | append_singleton ops op ih =>
    rw [run_append]
    exact ih.perform op

end Enrols

-- `j` has been on the roll without a break ever since a moment at which `l` was not on it.
def Senior (options : Options) (ops : List Operation) (k j l : Nat) : Prop :=
  ∃ first rest, ops = first ++ rest ∧ l ∉ (run { options } first).roll k ∧
    ∀ more, more <+: rest → j ∈ (run { options } (first ++ more)).roll k

section Senior

variable {options : Options} {ops : List Operation} {j l : Nat}

theorem Senior.concat (h : Senior options ops k j l) (op : Operation)
    (still : j ∈ (run { options } (ops ++ [op])).roll k) : Senior options (ops ++ [op]) k j l := by
  obtain ⟨first, rest, rfl, absent, since⟩ := h
  refine ⟨first, rest ++ [op], List.append_assoc .., absent, fun more front => ?_⟩
  rcases List.prefix_concat_iff.mp front with rfl | front
  · rwa [← List.append_assoc]
  · exact since more front

theorem seniority_run (options : Options) (ops : List Operation) (k : Nat) :
    ((run { options } ops).roll k).Pairwise (Senior options ops k) := by
  induction ops using List.reverseRecOn with
  | nil => simp [roll]
  | append_singleton ops op ih =>
    have performed : run { options } (ops ++ [op]) = (run { options } ops).perform op := by
      rw [run_append]
      rfl
    cases turns : (run { options } ops).turns_perform op k with
    | fewer sublist =>
      rw [← performed] at sublist
      exact (ih.sublist sublist).imp_of_mem fun member _ senior => senior.concat op member
    | entered key id known fresh room last =>
      rw [← performed] at last
      have stays : ∀ other ∈ (run { options } ops).roll k,
          other ∈ (run { options } (ops ++ [op])).roll k := fun other member => by
        rw [last]
        exact List.mem_append_left _ member
      rw [last]
      refine List.pairwise_append.mpr ⟨ih.imp_of_mem fun member _ senior =>
        senior.concat op (stays _ member), List.pairwise_singleton _ key, ?_⟩
      intro other earlier newest new
      rw [List.mem_singleton.mp new]
      refine ⟨ops, [op], rfl, fun member => fresh key member known, fun more front => ?_⟩
      rcases List.prefix_cons_iff.mp front with rfl | ⟨tail, rfl, nothing⟩
      · rw [List.append_nil]
        exact earlier
      · rw [List.prefix_nil.mp nothing]
        exact stays other earlier

end Senior

end Server

end SharedAudio

import Mathlib.Algebra.Group.Nat.Defs
import Mathlib.Data.List.Count
import SharedAudio.Proofs.Server.Work

namespace SharedAudio.Server

variable {s t : Server} {k l handle : Nat}

def live (s : Server) (k : Nat) : Nat := s.handles.toList.count (some k)

theorem live_congr (handles : t.handles = s.handles) : t.live k = s.live k := by
  rw [live, handles, live]

theorem live_push (handles : t.handles = s.handles.push (some l)) :
    t.live k = s.live k + if l = k then 1 else 0 := by
  simp only [live, handles, Array.toList_push, List.count_append, List.count_singleton, beq_iff_eq,
    Option.some.injEq]

theorem live_pos (h : s.handles[handle]? = some (some k)) : 0 < s.live k := by
  rw [live, List.count_pos_iff]
  exact Array.mem_toList_iff.mpr (Array.mem_of_getElem? h)

theorem live_letGo (h : s.handles[handle]? = some (some l)) :
    (s.letGo handle).live k = s.live k - if l = k then 1 else 0 := by
  obtain ⟨inside, eq⟩ := Array.getElem?_eq_some_iff.mp h
  have inside' : handle < s.handles.toList.length := by simpa using inside
  have held : s.handles.toList[handle] = some l := by simpa using eq
  simp only [live, letGo, Array.toList_setIfInBounds, List.count_set inside', held, beq_iff_eq,
    Option.some.injEq, reduceCtorEq, if_false, Nat.add_zero]

structure Counted (s : Server) (k : Nat) : Prop where
  present : 0 < s.live k → k < s.endpoints.size
  references : ∀ e, s.endpoints[k]? = some e → e.references.toNat = s.live k
  held : s.held.count k = if 0 < s.live k then 1 else 0

namespace Counted

theorem of_alike (h : s.Counted k) (size : s.endpoints.size ≤ t.endpoints.size)
    (endpoints : ∀ f, t.endpoints[k]? = some f →
      ∃ e : Endpoint, s.endpoints[k]? = some e ∧ f.references = e.references)
    (held : t.held.count k = s.held.count k) (handles : t.live k = s.live k) : t.Counted k := by
  refine ⟨fun pos => Nat.lt_of_lt_of_le (h.present (handles ▸ pos)) size, fun f there => ?_, ?_⟩
  · obtain ⟨e, was, references⟩ := endpoints f there
    rw [references, handles, h.references e was]
  · rw [held, handles, h.held]

theorem of_same (h : s.Counted k) (endpoints : t.endpoints = s.endpoints) (held : t.held = s.held)
    (handles : t.handles = s.handles) : t.Counted k :=
  h.of_alike (Nat.le_of_eq (by rw [endpoints])) (fun f there => ⟨f, endpoints ▸ there, rfl⟩)
    (by rw [held]) (live_congr handles)

theorem actOn (h : s.Counted k) (l : Nat) {act : Site → Site}
    (references : ∀ site : Site, (act site).endpoint.references = site.endpoint.references) :
    (s.actOn l act).Counted k := by
  refine h.of_alike (by simp) (fun f there => ?_) (by simp) (live_congr (by simp))
  rw [endpoints_actOn] at there
  split at there
  · obtain ⟨site, found, rfl⟩ := Option.map_eq_some_iff.mp there
    exact ⟨_, (endpoint_of_site? found).1, references site⟩
  · exact ⟨f, there, rfl⟩

theorem live_size (h : s.Counted s.endpoints.size) : s.live s.endpoints.size = 0 :=
  Nat.eq_zero_of_not_pos fun pos => Nat.lt_irrefl _ (h.present pos)

theorem push_of_ne (h : s.Counted k) (old : s.endpoints.size ≠ k) {e : Endpoint}
    (endpoints : t.endpoints = s.endpoints.push e) (held : t.held.count k = s.held.count k)
    (handles : t.live k = s.live k) : t.Counted k := by
  refine h.of_alike (by simp [endpoints]) (fun f there => ⟨f, ?_, rfl⟩) held handles
  rwa [endpoints, Array.getElem?_push, if_neg fun same => old same.symm] at there

theorem addEndpoint (h : s.Counted k) (config : StreamConfig) (options : Options) (plan : Plan) :
    (s.addEndpoint config options plan).2.Counted k := by
  by_cases new : s.endpoints.size = k
  · subst new
    refine ⟨fun _ => by simp [Server.addEndpoint], fun f there => ?_, h.held⟩
    rw [Server.addEndpoint, Array.getElem?_push_size] at there
    cases there
    exact h.live_size.symm
  · exact h.push_of_ne new rfl rfl rfl

theorem toNat_add_one {count : UInt64} (bounded : count.toNat + 1 < 2 ^ 64) :
    (count + 1).toNat = count.toNat + 1 := by
  rw [UInt64.toNat_add, show (1 : UInt64).toNat = 1 from rfl, Nat.mod_eq_of_lt bounded]

theorem share (h : s.Counted k) {e : Endpoint} (member : l ∈ s.held)
    (there : s.endpoints[l]? = some e)
    (endpoints : t.endpoints = s.endpoints.modify l ({ · with references := e.references + 1 }))
    (held : t.held = s.held) (handles : t.handles = s.handles.push (some l))
    (bounded : t.live k < 2 ^ 64) : t.Counted k := by
  have live := live_push (k := k) handles
  by_cases same : l = k
  · subst same
    rw [if_pos rfl] at live
    have inside := (Array.getElem?_eq_some_iff.mp there).1
    have count := h.references e there
    refine ⟨fun _ => ?_, fun f after => ?_, ?_⟩
    · rw [endpoints, Array.size_modify]
      exact inside
    · rw [endpoints, Array.getElem?_modify, if_pos rfl, there] at after
      cases after
      rw [live, ← count]
      exact toNat_add_one (by omega)
    · have listed := h.held
      have pos : 0 < s.held.count l := List.count_pos_iff.mpr member
      rw [held, if_pos (by omega)]
      split at listed <;> omega
  · rw [if_neg same, Nat.add_zero] at live
    refine h.of_alike (by simp [endpoints]) (fun f after => ⟨f, ?_, rfl⟩) (by rw [held]) live
    rwa [endpoints, Array.getElem?_modify, if_neg same] at after

theorem enlist (h : s.Counted k) {e : Endpoint} (one : e.references = 1)
    (endpoints : t.endpoints = s.endpoints.push e)
    (held : t.held = s.held ++ [s.endpoints.size])
    (handles : t.handles = s.handles.push (some s.endpoints.size)) : t.Counted k := by
  have live := live_push (k := k) handles
  by_cases new : s.endpoints.size = k
  · subst new
    rw [h.live_size, if_pos rfl] at live
    have unlisted : s.held.count s.endpoints.size = 0 := by
      rw [h.held, h.live_size]
      rfl
    refine ⟨fun _ => by simp [endpoints], fun f after => ?_, ?_⟩
    · rw [endpoints, Array.getElem?_push_size] at after
      cases after
      rw [live, one]
      rfl
    · rw [live, held, List.count_append, unlisted]
      simp
  · rw [if_neg new, Nat.add_zero] at live
    refine h.push_of_ne new endpoints ?_ live
    rw [held, List.count_append, List.count_singleton, if_neg (by simpa using new), Nat.add_zero]

theorem acquire (h : s.Counted k) (config : StreamConfig) (plan : Plan)
    (bounded : (s.acquired config plan).live k < 2 ^ 64) :
    (s.acquired config plan).Counted k := by
  obtain ⟨answer, acquired⟩ := s.acquired_cases config plan
  generalize s.acquired config plan = t at acquired bounded ⊢
  cases acquired with
  | shared l e held there => exact h.share held there rfl rfl rfl bounded
  | panicked | refused => exact h.of_same rfl rfl rfl
  | fresh site => exact h.enlist (e := { site.endpoint with references := 1 }) rfl rfl rfl rfl

end Counted

section Release

theorem handles_unreference (s : Server) (k : Nat) : (s.unreference k).handles = s.handles := by
  obtain ⟨count, eq | eq⟩ := s.unreference_cases k
  · rw [eq]
    rfl
  · rw [eq, retire_eq, handles_actOn]
    rfl

theorem endpoints_retire_of_ne (different : k ≠ l) :
    (s.retire k).endpoints[l]? = s.endpoints[l]? := by
  rw [retire_eq, endpoints_actOn, if_neg different]
  rfl

theorem endpoints_setReferences_self {e : Endpoint} (there : s.endpoints[k]? = some e)
    (count : UInt64) :
    (s.setReferences k count).endpoints[k]? = some { e with references := count } := by
  rw [setReferences, Array.getElem?_modify, if_pos rfl, there]
  rfl

theorem endpoints_setReferences_of_ne {count : UInt64} (different : k ≠ l) :
    (s.setReferences k count).endpoints[l]? = s.endpoints[l]? := by
  rw [setReferences, Array.getElem?_modify, if_neg different]

theorem endpoints_unreference_of_ne (different : k ≠ l) :
    (s.unreference k).endpoints[l]? = s.endpoints[l]? := by
  obtain ⟨count, eq | eq⟩ := s.unreference_cases k
  · rw [eq, endpoints_setReferences_of_ne different]
  · rw [eq, endpoints_retire_of_ne different, endpoints_setReferences_of_ne different]

theorem count_held_unreference_of_ne (different : k ≠ l) :
    (s.unreference k).held.count l = s.held.count l := by
  obtain ⟨count, eq | eq⟩ := s.unreference_cases k
  · rw [eq]
    rfl
  · rw [eq, retire_eq, held_actOn]
    exact List.count_filter (by simpa using different.symm)

structure Released (s t : Server) (handle k : Nat) (e f : Endpoint) : Prop where
  before : s.endpoints[k]? = some e
  after : t.endpoints[k]? = some f
  counted : f.references.toNat + 1 = e.references.toNat
  spent : t.handles = s.handles.setIfInBounds handle none
  others : ∀ l, l ≠ k → t.endpoints[l]? = s.endpoints[l]?
  channels : ∀ key, key ∉ e.registered → t.channels[key]? = s.channels[key]?
  shared : 0 < f.references.toNat → t.held = s.held ∧ f = { e with references := f.references }
  last : f.references.toNat = 0 → t.held = s.held.filter (· != k) ∧ f.isOpen = false ∧
    f.streaming = false ∧ f.registered = []

theorem retired_of_retire {site : Site} (found : s.site? k = some site)
    (sound : site.endpoint.Sound) : ∃ f : Endpoint, (s.retire k).endpoints[k]? = some f ∧
      f.references = site.endpoint.references ∧ f.isOpen = false ∧ f.registered = [] ∧
      (s.retire k).held = s.held.filter (· != k) ∧
      ∀ key, key ∉ site.endpoint.registered →
        (s.retire k).channels[key]? = s.channels[key]? := by
  obtain ⟨there, channels⟩ := endpoint_of_site? found
  have unlisted : (s.unlist k).site? k = some site := found
  have closed := site.isOpen_closeStream
  have endpoint := Site.endpoint_announce site.closeStream.2 "released and closed"
  have apart := Site.channels_announce site.closeStream.2 "released and closed"
  rw [retire_eq, actOn_of_site unlisted]
  generalize site.closeStream.2.announce "released and closed" = after at endpoint apart
  refine ⟨site.closeStream.2.endpoint, ?_, (Site.Work.close.wanes site).references, closed,
    (site.serves_closeStream.sound sound).closed closed, rfl, fun key outside => ?_⟩
  · rw [endpoints_putSite, if_pos rfl, endpoint]
    exact congrArg (Option.map _) there
  · rw [← channels, ← site.serves_closeStream.apart key outside, ← apart]
    rfl

theorem released_of_release (counted : s.Counted k) (sound : s.Everywhere Endpoint.Sound)
    (held : s.handles[handle]? = some (some k)) :
    ∃ e f, s.Released ((s.letGo handle).unreference k) handle k e f := by
  obtain ⟨e, there⟩ : ∃ e, s.endpoints[k]? = some e :=
    ⟨_, Array.getElem?_eq_getElem (counted.present (live_pos held))⟩
  have pos : 0 < e.references.toNat := counted.references e there ▸ live_pos held
  have spent : ((s.letGo handle).unreference k).handles = s.handles.setIfInBounds handle none :=
    handles_unreference _ k
  have others (l : Nat) (different : l ≠ k) :
      ((s.letGo handle).unreference k).endpoints[l]? = s.endpoints[l]? :=
    endpoints_unreference_of_ne different.symm
  have recounted := endpoints_setReferences_self (s := s.letGo handle) there
  have unreferenced := unreference_eq (s := s.letGo handle) there
  by_cases last : e.references ≤ 1
  · rw [if_pos last] at unreferenced
    have one : e.references.toNat ≤ 1 := UInt64.le_iff_toNat_le.mp last
    obtain ⟨f, after, references, closed, nobody, unlisted, channels⟩ :=
      retired_of_retire (site?_of_endpoint (recounted 0)) ((sound k e there).congr rfl rfl rfl)
    have zero : f.references.toNat = 0 := congrArg UInt64.toNat references
    rw [unreferenced] at spent others ⊢
    refine ⟨e, f, there, after, by omega, spent, others, channels, fun more => ?_, fun _ => ?_⟩
    · omega
    · exact ⟨unlisted, closed, Endpoint.streaming_of_closed closed, nobody⟩
  · rw [if_neg last] at unreferenced
    have more : 1 < e.references.toNat := Nat.lt_of_not_le fun le =>
      last (UInt64.le_iff_toNat_le.mpr le)
    have fewer : (e.references - 1).toNat = e.references.toNat - 1 :=
      UInt64.toNat_sub_of_le _ _ (UInt64.le_iff_toNat_le.mpr pos)
    rw [unreferenced] at spent others ⊢
    refine ⟨e, { e with references := e.references - 1 }, there, recounted _, ?_, spent, others,
      fun _ _ => rfl, fun _ => ⟨rfl, rfl⟩, fun last => ?_⟩
    · rw [fewer]
      omega
    · rw [fewer] at last
      omega

theorem Counted.release (h : s.Counted k) (sound : s.Everywhere Endpoint.Sound)
    (held : s.handles[handle]? = some (some l)) :
    ((s.letGo handle).unreference l).Counted k := by
  have left := live_letGo (k := k) held
  have same : ((s.letGo handle).unreference l).live k = (s.letGo handle).live k :=
    live_congr (handles_unreference _ l)
  have size : ((s.letGo handle).unreference l).endpoints.size = s.endpoints.size :=
    size_endpoints_unreference _ l
  by_cases here : l = k
  · subst here
    obtain ⟨e, f, released⟩ := released_of_release h sound held
    have count := h.references e released.before
    have counted := released.counted
    have pos := live_pos held
    rw [left, if_pos rfl] at same
    refine ⟨fun _ => size ▸ h.present pos, fun f' after => ?_, ?_⟩
    · rw [released.after] at after
      cases after
      omega
    · have listed := h.held
      rw [if_pos pos] at listed
      rw [same]
      split
      next more =>
        rw [(released.shared (by omega)).1, listed]
      next fewer =>
        rw [(released.last (by omega)).1, List.count_eq_zero]
        simp
  · rw [left, if_neg here] at same
    refine h.of_alike (Nat.le_of_eq size.symm) (fun f there => ⟨f, ?_, rfl⟩)
      (count_held_unreference_of_ne here) same
    rw [endpoints_unreference_of_ne here] at there
    exact there

end Release

namespace Counted

theorem perform (h : s.Counted k) (sound : s.Everywhere Endpoint.Sound) (op : Operation)
    (bounded : (s.perform op).live k < 2 ^ 64) : (s.perform op).Counted k := by
  have performed := s.performed_perform op
  generalize s.perform op = t at performed bounded ⊢
  cases performed with
  | acquire config plan => exact h.acquire config plan bounded
  | release handle l held => exact h.release sound held
  | addEndpoint config options plan => exact h.addEndpoint config options plan
  | openStream l => exact h.actOn l fun site => site.fixed_opened.2.2.1
  | start op l id => exact h.actOn l fun site => (site.wanes_start id).references
  | disconnectAll l => exact h.actOn l fun _ => rfl
  | work op l act work => exact h.actOn l fun site => (work.wanes site).references
  | aside op t endpoints held handles => exact h.of_same endpoints held handles

theorem run (options : Options) (ops : List Operation)
    (bounded : ∀ before, before <+: ops → (run { options } before).live k < 2 ^ 64) :
    (run { options } ops).Counted k := by
  induction ops using List.reverseRecOn with
  | nil => exact ⟨fun pos => absurd pos (by simp [live]), fun e there => by simp at there, rfl⟩
  | append_singleton ops op ih =>
    have now := bounded (ops ++ [op]) List.prefix_rfl
    rw [run_append] at now ⊢
    exact (ih fun before front => bounded before (front.trans (List.prefix_append ..))).perform
      (lasting_sound.run options ops) op now

end Counted

section Handles

theorem handles_perform (s : Server) (op : Operation) :
    (s.perform op).handles = s.handles ∨ (∃ k, (s.perform op).handles = s.handles.push (some k)) ∨
      ∃ handle, (s.perform op).handles = s.handles.setIfInBounds handle none := by
  have performed := s.performed_perform op
  generalize s.perform op = t at performed ⊢
  cases performed with
  | acquire config plan =>
    obtain ⟨answer, acquired⟩ := s.acquired_cases config plan
    generalize s.acquired config plan = t at acquired ⊢
    cases acquired with
    | shared k => exact .inr (.inl ⟨k, rfl⟩)
    | panicked | refused => exact .inl rfl
    | fresh => exact .inr (.inl ⟨_, rfl⟩)
  | release handle k => exact .inr (.inr ⟨handle, handles_unreference _ k⟩)
  | addEndpoint => exact .inl rfl
  | openStream | start | disconnectAll | work => exact .inl (handles_actOn ..)
  | aside op t _ _ handles => exact .inl handles

theorem size_handles_perform (s : Server) (op : Operation) :
    (s.perform op).handles.size ≤ s.handles.size + 1 := by
  rcases s.handles_perform op with same | ⟨k, pushed⟩ | ⟨handle, spent⟩
  · rw [same]
    exact Nat.le_succ _
  · exact Nat.le_of_eq (by rw [pushed, Array.size_push])
  · rw [spent, Array.size_setIfInBounds]
    exact Nat.le_succ _

theorem size_handles_run (s : Server) (ops : List Operation) :
    (s.run ops).handles.size ≤ s.handles.size + ops.length := by
  induction ops generalizing s with
  | nil => exact Nat.le_refl _
  | cons op ops ih =>
    have first := s.size_handles_perform op
    have rest := ih (s.perform op)
    rw [run_cons, List.length_cons]
    omega

theorem live_run_le (options : Options) (ops : List Operation) (k : Nat) :
    (run { options } ops).live k ≤ ops.length := by
  have size := size_handles_run { options } ops
  have count := List.count_le_length (a := some k) (l := (run { options } ops).handles.toList)
  rw [Array.length_toList] at count
  rw [live]
  simp only [List.size_toArray, List.length_nil, Nat.zero_add] at size
  exact Nat.le_trans count size

theorem spent_perform (spent : s.handles[handle]? = some none) (op : Operation) :
    (s.perform op).handles[handle]? = some none := by
  have inside := (Array.getElem?_eq_some_iff.mp spent).1
  rcases s.handles_perform op with same | ⟨k, pushed⟩ | ⟨other, set⟩
  · rw [same, spent]
  · rw [pushed, Array.getElem?_push_lt inside, ← Array.getElem?_eq_getElem inside, spent]
  · rw [set, Array.getElem?_setIfInBounds, spent]
    split
    next here => rw [if_pos (here ▸ inside)]
    next => rfl

theorem spent_run (spent : s.handles[handle]? = some none) (ops : List Operation) :
    (s.run ops).handles[handle]? = some none := by
  induction ops generalizing s with
  | nil => exact spent
  | cons op ops ih => exact ih (spent_perform spent op)

end Handles

theorem references_are_exact (options : Options) (ops : List Operation) (k : Nat)
    (bounded : ∀ before, before <+: ops → (run { options } before).live k < 2 ^ 64) :
    let s := run { options } ops
    (∀ (before : List Operation) (handle : Nat), before <+: ops →
      (run { options } before).handles[handle]? = some (some k) → k < s.endpoints.size) ∧
    (∀ e, s.endpoints[k]? = some e → e.references.toNat = s.live k) ∧
    s.held.count k = (if 0 < s.live k then 1 else 0) ∧
    ∀ handle : Nat, s.handles[handle]? = some (some k) →
      let t := s.perform (.release handle)
      (∃ e f, s.Released t handle k e f) ∧ t.live k + 1 = s.live k ∧
        ∀ later, (t.run later).perform? (.release handle) = none := by
  intro s
  have counted : s.Counted k := .run options ops bounded
  refine ⟨fun before handle front held => ?_, counted.references, counted.held,
    fun handle held => ?_⟩
  · have then' : (run { options } before).Counted k :=
      .run options before fun earlier front' => bounded earlier (front'.trans front)
    obtain ⟨after, rfl⟩ := front
    have grown := size_endpoints_run (run { options } before) after
    rw [← run_append] at grown
    exact Nat.lt_of_lt_of_le (then'.present (live_pos held)) grown
  · have performed : s.perform (.release handle) = (s.letGo handle).unreference k := by
      simp only [perform, perform?, release?, held]
      rfl
    have inside := (Array.getElem?_eq_some_iff.mp held).1
    intro t
    obtain ⟨e, f, released⟩ := released_of_release counted (lasting_sound.run options ops) held
    rw [← performed] at released
    refine ⟨⟨e, f, released⟩, ?_, fun later => ?_⟩
    · have left := live_letGo (k := k) held
      rw [if_pos rfl, ← live_congr (t := t) released.spent] at left
      have pos := live_pos held
      omega
    · have spent : t.handles[handle]? = some none := by
        rw [released.spent, Array.getElem?_setIfInBounds, if_pos rfl, if_pos inside]
      simp only [perform?, release?, spent_run spent later, Option.map_none]

theorem references_are_exact_for_two_handles :
    let s := run { options := {} } [.acquire {} {}, .acquire {} {}]
    (s.endpoints.toList.map (·.references), s.held, s.handles.toList) =
        ([2], [0], [some 0, some 0]) ∧
      ∃ e f, s.Released (s.perform (.release 0)) 0 0 e f ∧ f.references.toNat = 1 := by
  intro s
  have bounded (before : List Operation) (front : before <+: [.acquire {} {}, .acquire {} {}]) :
      (run { options := {} } before).live 0 < 2 ^ 64 := by
    have few := live_run_le {} before 0
    have short := front.length_le
    simp only [List.length_cons, List.length_nil] at short
    omega
  obtain ⟨-, references, -, releases⟩ := references_are_exact {} _ 0 bounded
  obtain ⟨⟨e, f, released⟩, -, -⟩ := releases 0 (by decide)
  have two : s.live 0 = 2 := by decide
  have count : e.references.toNat = s.live 0 := references e released.before
  have counted := released.counted
  exact ⟨by decide, e, f, released, by omega⟩

end SharedAudio.Server

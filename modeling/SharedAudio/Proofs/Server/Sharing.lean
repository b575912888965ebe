import Mathlib.Data.List.Nodup
import SharedAudio.Proofs.Server.Work

namespace SharedAudio.Server

variable {s t : Server} {k l : Nat} {config : StreamConfig}

def sharers (s : Server) (config : StreamConfig) : List Nat :=
  s.held.filter fun key => s.endpoints[key]?.any fun e => e.usable && e.config.serves config

theorem mem_sharers_iff : k ∈ s.sharers config ↔
    k ∈ s.held ∧ ∃ e, s.endpoints[k]? = some e ∧ e.usable = true ∧
      e.config.serves config = true := by
  rw [sharers, List.mem_filter]
  cases s.endpoints[k]? <;> simp

theorem sharable_eq_head (s : Server) (config : StreamConfig) :
    s.sharable? config = (s.sharers config).head? := by
  rw [sharable?, sharers, List.head?_filter]

structure Sole (s : Server) : Prop where
  present : ∀ k ∈ s.held, k < s.endpoints.size
  nodup : s.held.Nodup
  alone : ∀ k ∈ s.held, ∀ l ∈ s.held, ∀ e f : Endpoint, s.endpoints[k]? = some e →
    s.endpoints[l]? = some f → e.usable = true → f.usable = true →
      e.config.serves f.config = true → k = l

theorem wearing_fades : Wearing Endpoint.Fades where
  refl _ := ⟨rfl, id⟩
  trans h g := ⟨g.1.trans h.1, h.2 ∘ g.2⟩
  counted _ _ := ⟨rfl, id⟩
  worked site _ work := (work.wanes site).fades

theorem held_perform (s : Server) (op : Operation) :
    (∃ config plan, op = .acquire config plan) ∨ (s.perform op).held.Sublist s.held := by
  have performed := s.performed_perform op
  generalize s.perform op = t at performed ⊢
  cases performed with
  | acquire config plan => exact .inl ⟨config, plan, rfl⟩
  | release handle k _ =>
    refine .inr ?_
    obtain ⟨count, eq | eq⟩ := (s.letGo handle).unreference_cases k
    · rw [eq]
      exact .refl _
    · rw [eq, retire_eq, held_actOn]
      exact List.filter_sublist
  | addEndpoint => exact .inr (.refl _)
  | openStream | start | disconnectAll | work =>
    rw [held_actOn]
    exact .inr (.refl _)
  | aside op t _ held =>
    rw [held]
    exact .inr (.refl _)

namespace Sole

theorem of_carries (h : s.Sole) (held : t.held.Sublist s.held)
    (fades : ∀ k ∈ s.held, Carries Endpoint.Fades s t k) : t.Sole := by
  have before {k : Nat} {f : Endpoint} (member : k ∈ s.held) (there : t.endpoints[k]? = some f) :
      ∃ e, s.endpoints[k]? = some e ∧ e.Fades f := by
    have was := Array.getElem?_eq_getElem (h.present k member)
    obtain ⟨f', there', faded⟩ := fades k member _ was
    rw [there] at there'
    cases there'
    exact ⟨_, was, faded⟩
  refine ⟨fun k member => ?_, h.nodup.sublist held, fun k first l second e f there there' usable
    usable' serves => ?_⟩
  · have member' := held.subset member
    obtain ⟨f, there, -⟩ := fades k member' _ (Array.getElem?_eq_getElem (h.present k member'))
    exact (Array.getElem?_eq_some_iff.mp there).1
  · obtain ⟨e', was, config, earlier⟩ := before (held.subset first) there
    obtain ⟨f', was', config', earlier'⟩ := before (held.subset second) there'
    exact h.alone k (held.subset first) l (held.subset second) e' f' was was' (earlier usable)
      (earlier' usable') (config ▸ config' ▸ serves)

theorem enlist (h : s.Sole) (unshared : s.sharable? config = none) {e : Endpoint}
    (opened : e.config = config) (endpoints : t.endpoints = s.endpoints.push e)
    (held : t.held = s.held ++ [s.endpoints.size]) : t.Sole := by
  have unserved := sharable?_eq_none_iff.mp unshared
  have old {k : Nat} {f : Endpoint} (member : k ∈ s.held) (there : t.endpoints[k]? = some f) :
      s.endpoints[k]? = some f := by
    have inside := h.present k member
    rwa [endpoints, Array.getElem?_push_lt inside, ← Array.getElem?_eq_getElem inside] at there
  have new {f : Endpoint} (there : t.endpoints[s.endpoints.size]? = some f) :
      f.config = config := by
    rw [endpoints, Array.getElem?_push_size] at there
    cases there
    exact opened
  refine ⟨fun k member => ?_, ?_, fun k first l second f g there there' usable usable' serves => ?_⟩
  · rw [endpoints, Array.size_push]
    rw [held, List.mem_append, List.mem_singleton] at member
    rcases member with listed | rfl
    · exact Nat.lt_succ_of_lt (h.present k listed)
    · exact Nat.lt_succ_self _
  · rw [held]
    refine List.Nodup.append h.nodup (List.nodup_singleton _) ?_
    exact List.disjoint_singleton.mpr fun listed => Nat.lt_irrefl _ (h.present _ listed)
  · rw [held, List.mem_append, List.mem_singleton] at first second
    rcases first with listed | rfl <;> rcases second with listed' | rfl
    · exact h.alone k listed l listed' f g (old listed there) (old listed' there') usable usable'
        serves
    · rw [new there', unserved k listed f (old listed there) usable] at serves
      cases serves
    · rw [new there, StreamConfig.serves_comm, unserved l listed' g (old listed' there') usable']
        at serves
      cases serves
    · rfl

theorem acquire (h : s.Sole) (config : StreamConfig) (plan : Plan) :
    (s.acquired config plan).Sole := by
  obtain ⟨answer, acquired⟩ := s.acquired_cases config plan
  generalize s.acquired config plan = t at acquired ⊢
  cases acquired with
  | shared l e =>
    exact h.of_carries (.refl _) fun k _ =>
      Carries.setReferences wearing_fades s l k (e.references + 1)
  | panicked | refused =>
    exact h.of_carries (.refl _) fun k _ => Carries.of_endpoints wearing_fades rfl
  | fresh site unshared opening =>
    have opened := (Site.mk { config, options := s.options, device := s.newDevice plan } s.channels
      s.log).fixed_opened.1
    rw [Site.opened_of_openStream? opening] at opened
    exact h.enlist unshared (e := { site.endpoint with references := 1 }) opened rfl rfl

theorem perform (h : s.Sole) {op : Operation} (apart : ∀ k, op = .openStream k → k ∉ s.held) :
    (s.perform op).Sole := by
  rcases s.held_perform op with ⟨config, plan, rfl⟩ | fewer
  · rw [perform_acquire]
    exact h.acquire config plan
  · refine h.of_carries fewer fun k member => Carries.perform wearing_fades (fun opens => ?_) ?_
    · exact absurd member (apart k opens)
    · exact fun site id _ => (site.wanes_start id).fades

theorem run (options : Options) (ops : List Operation)
    (apart : ∀ before k, before ++ [.openStream k] <+: ops → k ∉ (run { options } before).held) :
    (run { options } ops).Sole := by
  induction ops using List.reverseRecOn with
  | nil =>
    refine ⟨fun k member => ?_, List.nodup_nil, fun k member => ?_⟩
    · cases member
    · cases member
  | append_singleton ops op ih =>
    have earlier : (Server.run { options } ops).Sole := ih fun before k front =>
      apart before k (front.trans (List.prefix_append ..))
    rw [run_append]
    exact earlier.perform fun k opens => apart ops k (opens ▸ List.prefix_rfl)

theorem sharers_of_mem (h : s.Sole) (config : StreamConfig) (first : k ∈ s.sharers config) :
    s.sharers config = [k] := by
  obtain ⟨held, e, there, usable, serves⟩ := mem_sharers_iff.mp first
  have nodup : (s.sharers config).Nodup := h.nodup.filter _
  have only (l : Nat) (second : l ∈ s.sharers config) : l = k := by
    obtain ⟨held', f, there', usable', serves'⟩ := mem_sharers_iff.mp second
    refine h.alone l held' k held f e there' there usable' usable ?_
    rw [StreamConfig.serves_iff] at serves serves' ⊢
    obtain ⟨rate, channels, format, device⟩ := serves
    obtain ⟨rate', channels', format', device'⟩ := serves'
    exact ⟨rate'.trans rate.symm, channels'.trans channels.symm, format'.trans format.symm,
      device'.trans device.symm⟩
  have alike := List.eq_replicate_of_mem only
  have length : (s.sharers config).length = 1 := by
    rw [alike] at nodup
    exact Nat.le_antisymm (List.nodup_replicate.mp nodup) (List.length_pos_of_mem first)
  rw [alike, length]
  rfl

end Sole

theorem sharing_is_exact (options : Options) (ops : List Operation)
    (apart : ∀ before k, before ++ [.openStream k] <+: ops → k ∉ (run { options } before).held)
    (config : StreamConfig) (plan : Plan) :
    let s := run { options } ops
    let answer := (s.acquire? config plan).map (·.1)
    let t := s.acquired config plan
    (∀ k, k ∈ s.sharers config ↔ k ∈ s.held ∧ ∃ e, s.endpoints[k]? = some e ∧ e.isOpen = true ∧
      e.health = .healthy ∧ e.config.sampleRate = config.sampleRate ∧
      e.config.channels = config.channels ∧ e.config.format = config.format ∧
      e.config.device = config.device) ∧
    ((∃ k e, s.sharers config = [k] ∧ s.endpoints[k]? = some e ∧
        answer = some (.ok s.handles.size) ∧
        t.handles = s.handles.push (some k) ∧ t.deviceCount = s.deviceCount ∧ t.held = s.held ∧
        t.endpoints = s.endpoints.modify k ({ · with references := e.references + 1 })) ∨
      s.sharers config = [] ∧ answer.isSome ∧ t.deviceCount = s.deviceCount + 1 ∧
        ((∃ error, answer = some (.error error) ∧ t.handles = s.handles ∧ t.held = s.held ∧
            t.endpoints = s.endpoints) ∨
          ∃ f, answer = some (.ok s.handles.size) ∧
            t.handles = s.handles.push (some s.endpoints.size) ∧
            t.held = s.held ++ [s.endpoints.size] ∧ t.endpoints = s.endpoints.push f ∧
            f.references = 1 ∧ f.usable = true ∧ f.config = config) ∨
      s.sharers config = [] ∧ answer = none ∧ t = s ∧ ∃ params,
        ((s.newDevice plan).start config).1 = .ok params ∧
          Endpoint.Exceeds { config, options := s.options, device := s.newDevice plan }
            params) := by
  intro s answer t
  refine ⟨fun k => ?_, ?_⟩
  · simp only [mem_sharers_iff, Endpoint.usable_iff, StreamConfig.serves_iff, and_assoc]
  have sole : s.Sole := .run options ops apart
  have acquired : s.Acquired config plan answer t := s.acquired_acquire config plan
  have nobody (unshared : s.sharable? config = none) : s.sharers config = [] := by
    rwa [sharable_eq_head, List.head?_eq_none_iff] at unshared
  clear_value answer t
  cases acquired with
  | shared k e held there usable serves =>
    have only := sole.sharers_of_mem config (mem_sharers_iff.mpr ⟨held, e, there, usable, serves⟩)
    exact .inl ⟨k, e, only, there, rfl, rfl, by simp [deviceCount], rfl, rfl⟩
  | panicked unshared opening =>
    obtain ⟨-, params, started, -, exceeds⟩ := Site.openStream?_eq_none_iff.mp opening
    exact .inr (.inr ⟨nobody unshared, rfl, rfl, params, started, exceeds⟩)
  | refused error site unshared opening =>
    refine .inr (.inl ⟨nobody unshared, rfl, ?_, .inl ⟨error, rfl, rfl, rfl, rfl⟩⟩)
    rw [deviceCount, Array.size_push]
    rfl
  | fresh site unshared opening =>
    obtain ⟨params, buffer, device, frames, -, -, -, -, opened⟩ := Site.openStream?_of_ok opening
    refine .inr (.inl ⟨nobody unshared, rfl, ?_, .inr ⟨_, rfl, rfl, rfl, rfl, rfl, ?_, ?_⟩⟩)
    · rw [deviceCount, Array.size_push, Nat.add_right_comm]
      rfl
    · rw [Endpoint.usable_iff, opened]
      exact ⟨rfl, rfl⟩
    · rw [opened]

theorem sharing_is_exact_after_close :
    let s := run { options := {} } [.acquire {} {}, .closeStream 0, .acquire {} {}]
    s.held = [0, 1] ∧ (s.acquired { burst := some 7 } {}).handles = #[some 0, some 1, some 1] := by
  intro s
  have apart (before : List Operation) (k : Nat)
      (front : before ++ [.openStream k] <+: [.acquire {} {}, .closeStream 0, .acquire {} {}]) :
      k ∉ (run { options := {} } before).held := by
    have opens := front.subset (List.mem_append_right before (List.mem_singleton_self _))
    simp at opens
  have shared : s.sharers { burst := some 7 } = [1] := by decide
  obtain ⟨-, ⟨k, e, only, -, -, handles, -⟩ | ⟨nobody, -⟩ | ⟨nobody, -⟩⟩ :=
    sharing_is_exact {} _ apart { burst := some 7 } {}
  · obtain rfl : 1 = k := by simpa using shared.symm.trans only
    exact ⟨by decide, handles.trans (by decide)⟩
  · cases shared.symm.trans nobody
  · cases shared.symm.trans nobody

end SharedAudio.Server

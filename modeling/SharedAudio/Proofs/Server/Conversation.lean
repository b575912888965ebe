import SharedAudio.Proofs.Endpoint.Conversation
import SharedAudio.Proofs.Server.Work

namespace SharedAudio.Server

variable {s t : Server} {k : Nat} {op : Operation}
  {said more : List (Except HardwareError HardwareParams)}

section Answers

def openings (s : Server) (k : Nat) : Nat := (s.endpoints[k]?.map (·.device.openings)).getD 0

def heard (s t : Server) (k : Nat) : List (Except HardwareError HardwareParams) :=
  match t.endpoints[k]? with
  | some e => if s.openings k < e.device.openings then [(e.device.start e.config).1] else []
  | none => []

def answers (s : Server) (k : Nat) : List Operation → List (Except HardwareError HardwareParams)
  | [] => []
  | op :: ops => s.heard (s.perform op) k ++ (s.perform op).answers k ops

theorem answers_concat (s : Server) (k : Nat) (ops : List Operation) (op : Operation) :
    s.answers k (ops ++ [op]) =
      s.answers k ops ++ (s.run ops).heard ((s.run ops).perform op) k := by
  induction ops generalizing s with
  | nil => simp [answers]
  | cons first ops ih => rw [List.cons_append, answers, ih, answers, List.append_assoc, run_cons]

end Answers

def Converses (s : Server) (k : Nat) (said : List (Except HardwareError HardwareParams)) : Prop :=
  (∀ e, s.endpoints[k]? = some e → e.Talks said) ∧ (s.endpoints[k]? = none → said = [])

namespace Converses

theorem openings (h : s.Converses k said) : s.openings k = said.length := by
  rw [Server.openings]
  cases there : s.endpoints[k]? with
  | none => simp [h.2 there]
  | some e => exact (h.1 e there).openings

theorem of_talks (h : s.Converses k said) {f : Endpoint} (there : t.endpoints[k]? = some f)
    (talks : f.Talks (said ++ more))
    (latest : more = [] ∨ more = [(f.device.start f.config).1]) :
    t.Converses k (said ++ s.heard t k) := by
  have count := talks.openings
  rw [List.length_append, ← h.openings] at count
  have heard : s.heard t k = more := by
    rw [Server.heard, there]
    rcases latest with rfl | rfl
    · exact if_neg (by simp [count])
    · exact if_pos (by simp [count])
  rw [heard]
  refine ⟨fun g there' => ?_, fun none => ?_⟩
  · rw [there] at there'
    cases there'
    exact talks
  · rw [there] at none
    cases none

theorem of_none (h : s.Converses k said) (absent : s.endpoints[k]? = none)
    (still : t.endpoints[k]? = none) : t.Converses k (said ++ s.heard t k) := by
  have heard : s.heard t k = [] := by rw [Server.heard, still]
  rw [heard, List.append_nil]
  refine ⟨fun e there => ?_, fun _ => h.2 absent⟩
  rw [still] at there
  cases there

end Converses

theorem wearing_talks :
    Wearing fun e f => ∀ answers, e.Talks answers → Endpoint.Talks answers f where
  refl _ _ := id
  trans h g answers talks := g answers (h answers talks)
  counted _ references _ talks := talks.counted references
  worked _ _ work answers := work.steady (Site.steady_talks answers)

theorem converses_of_endpoint (h : s.Converses k said) {e : Endpoint}
    (there : s.endpoints[k]? = some e) (op : Operation) :
    (s.perform op).Converses k (said ++ s.heard (s.perform op) k) := by
  have talks := h.1 e there
  by_cases opens : op = .openStream k
  · subst opens
    have found := site?_of_endpoint there
    have after : (s.perform (.openStream k)).endpoints[k]? =
        some (Site.opened ⟨e, s.channels, s.log⟩).endpoint := by
      rw [perform_openStream, endpoints_actOn, if_pos rfl, found]
      rfl
    rcases Site.talks_opened (s := ⟨e, s.channels, s.log⟩) talks with same | visited
    · have still : (Site.opened ⟨e, s.channels, s.log⟩).endpoint.Talks (said ++ []) := by
        rwa [same, List.append_nil]
      exact h.of_talks after still (.inl rfl)
    · exact h.of_talks after visited (.inr rfl)
  · have carried : Carries (fun e f => ∀ answers, e.Talks answers → Endpoint.Talks answers f) s
        (s.perform op) k := Carries.perform wearing_talks (fun opens' => absurd opens' opens)
      fun site id _ answers talks => Site.talks_start talks id
    obtain ⟨f, after, still⟩ := carried e there
    have silent : f.Talks (said ++ []) := by
      rw [List.append_nil]
      exact still said talks
    exact h.of_talks after silent (.inl rfl)

theorem converses_of_none (h : s.Converses k said) (absent : s.endpoints[k]? = none)
    (op : Operation) : (s.perform op).Converses k (said ++ s.heard (s.perform op) k) := by
  obtain rfl := h.2 absent
  have outside : s.endpoints.size ≤ k := Array.getElem?_eq_none_iff.mp absent
  have same_size (t : Server) (size : t.endpoints.size = s.endpoints.size) :
      t.endpoints[k]? = none := Array.getElem?_eq_none_iff.mpr (size ▸ outside)
  have performed := s.performed_perform op
  generalize s.perform op = t at performed ⊢
  -- Whoever is new has its key from the number of endpoints before.
  have pushed {f : Endpoint} {more : List (Except HardwareError HardwareParams)} {u : Server}
      (endpoints : u.endpoints = s.endpoints.push f) (talks : f.Talks more)
      (latest : more = [] ∨ more = [(f.device.start f.config).1]) :
      u.Converses k ([] ++ s.heard u k) := by
    by_cases new : k = s.endpoints.size
    · refine h.of_talks (f := f) ?_ talks latest
      rw [endpoints, new, Array.getElem?_push_size]
    · refine h.of_none absent ?_
      rw [endpoints, Array.getElem?_push, if_neg new, absent]
  cases performed with
  | acquire config plan =>
    obtain ⟨answer, acquired⟩ := s.acquired_cases config plan
    generalize s.acquired config plan = t at acquired ⊢
    cases acquired with
    | shared l e => exact h.of_none absent (same_size _ (by simp))
    | panicked | refused => exact h.of_none absent absent
    | fresh site unshared opening =>
      have opened := Site.talks_opened
        (s := ⟨{ config, options := s.options, device := s.newDevice plan }, s.channels, s.log⟩)
        (Endpoint.Talks.fresh rfl)
      rw [Site.opened_of_openStream? opening] at opened
      rcases opened with same | visited
      · have silent : Endpoint.Talks [] { site.endpoint with references := 1 } := by
          rw [show site.endpoint = _ from same]
          exact (Endpoint.Talks.fresh rfl).counted 1
        exact pushed rfl silent (.inl rfl)
      · exact pushed rfl (visited.counted 1) (.inr rfl)
  | release handle l live =>
    exact h.of_none absent (same_size _ (size_endpoints_unreference (s.letGo handle) l))
  | addEndpoint config options plan =>
    have silent : Endpoint.Talks [] { config, options, device := s.newDevice plan } := .fresh rfl
    exact pushed rfl silent (.inl rfl)
  | openStream | start | disconnectAll | work =>
    exact h.of_none absent (same_size _ (size_endpoints_actOn ..))
  | aside op t endpoints => exact h.of_none absent (endpoints ▸ absent)

theorem converses_run (options : Options) (ops : List Operation) (k : Nat) :
    (run { options } ops).Converses k (answers { options } k ops) := by
  induction ops using List.reverseRecOn with
  | nil =>
    refine ⟨fun e there => ?_, fun _ => rfl⟩
    simp at there
  | append_singleton ops op ih =>
    rw [run_append, answers_concat]
    cases there : (run { options } ops).endpoints[k]? with
    | none => exact converses_of_none ih there op
    | some e => exact converses_of_endpoint ih there op

section Refused

structure Lone (d : Device) (config : StreamConfig) (v : Visit) : Prop where
  complete : v.Over
  lawful : ∀ options, v.Lawful config options
  calls : d.calls.toList = v.calls
  answer : (d.start config).1 = v.answer

theorem lone_of_opening {site after : Site} {error : EndpointError}
    (opening : site.Opening (.error error) after) (closed : site.endpoint.phase = .closed true)
    (unused : site.endpoint.device.calls = #[]) :
    ∃ v, Lone after.endpoint.device site.endpoint.config v := by
  cases opening with
  | barred _ phase => exact absurd closed phase
  | refused error _ answer =>
    refine ⟨.refused error, trivial, fun _ => trivial, ?_, (Device.fst_start_note ..).trans answer⟩
    simp [Device.note, unused, Visit.calls]
  | rejected params reason _ answer objection =>
    refine ⟨.rejected params, trivial, fun _ suits => ?_, ?_,
      (Device.fst_start_note ..).trans ((Device.fst_start_note ..).trans answer)⟩
    · rw [(site.endpoint.objection?_eq_none_iff params).mpr suits] at objection
      cases objection
    · simp [Device.note, Device.close, unused, Visit.calls]

theorem refused_perform (s : Server) (op : Operation) :
    (s.perform op).refused = s.refused ∨
      ∃ d config v, (s.perform op).refused = s.refused.push d ∧ Lone d config v := by
  have performed := s.performed_perform op
  generalize s.perform op = t at performed ⊢
  cases performed with
  | acquire config plan =>
    obtain ⟨answer, acquired⟩ := s.acquired_cases config plan
    generalize s.acquired config plan = t at acquired ⊢
    cases acquired with
    | shared | panicked | fresh => exact .inl rfl
    | refused error site unshared failed =>
      obtain ⟨v, lone⟩ := lone_of_opening (Site.opening_of_openStream? failed) rfl rfl
      exact .inr ⟨_, config, v, rfl, lone⟩
  | release handle l live =>
    left
    obtain ⟨count, eq | eq⟩ := (s.letGo handle).unreference_cases l
    · rw [eq]
      rfl
    · rw [eq, retire_eq, refused_actOn]
      rfl
  | addEndpoint config options plan => exact .inl rfl
  | openStream | start | disconnectAll | work => exact .inl (refused_actOn ..)
  | aside op t _ _ _ _ refused => exact .inl refused

theorem lone_run (options : Options) (ops : List Operation) (d : Device)
    (member : d ∈ (run { options } ops).refused) : ∃ config v, Lone d config v := by
  induction ops using List.reverseRecOn with
  | nil => cases Array.not_mem_empty d member
  | append_singleton ops op ih =>
    rw [run_append] at member
    rcases (run { options } ops).refused_perform op with same | ⟨f, config, v, pushed, lone⟩
    · exact ih (same ▸ member)
    · rw [show (run { options } ops).run [op] = (run { options } ops).perform op from rfl, pushed]
        at member
      rcases Array.mem_push.mp member with old | rfl
      · exact ih old
      · exact ⟨config, v, lone⟩

end Refused

theorem hardware_is_visited (options : Options) (ops : List Operation) :
    let s := run { options } ops
    (∀ k e, s.endpoints[k]? = some e → ∃ visits : List Visit,
      e.device.calls.toList = visits.flatMap Visit.calls ∧
      visits.map Visit.answer = answers { options } k ops ∧
      (∀ v ∈ visits, v.Lawful e.config e.options) ∧
      ∀ v ∈ visits.dropLast, v.Over) ∧
    ∀ d ∈ s.refused, ∃ config v, Lone d config v := by
  refine ⟨fun k e there => ?_, fun d => lone_run options ops d⟩
  obtain ⟨visits, engaged, answered⟩ := ((converses_run options ops k).1 e there).engaged
  exact ⟨visits, engaged.calls, answered, engaged.lawful, engaged.complete⟩

theorem hardware_is_visited_for_three_bursts :
    let s := run { options := {} } [.acquire {} {}, .createChannel 0, .register 0 0, .start 0 ⟨1⟩,
      .grant 0 2, .closeStream 0]
    ∃ e buffer writes, s.endpoints[0]? = some e ∧
      e.device.calls.toList = (Visit.served ⟨48000, 4, 3⟩ buffer writes true).calls ∧
      writes.length = 3 ∧ ∀ w ∈ writes, w.samples.size = 8 := by
  intro s
  have facts : s.endpoints[0]?.map (fun e =>
    (e.config.channels, e.device.writes.length, e.device.calls.size)) = some (2, 3, 6) := by decide
  have spoken : answers { options := {} } 0 [.acquire {} {}, .createChannel 0, .register 0 0,
    .start 0 ⟨1⟩, .grant 0 2, .closeStream 0] = [.ok ⟨48000, 4, 3⟩] := by decide
  obtain ⟨e, there, eq⟩ := Option.map_eq_some_iff.mp facts
  simp only [Prod.mk.injEq] at eq
  obtain ⟨width, count, size⟩ := eq
  obtain ⟨visits, calls, answered, lawful, -⟩ :=
    (hardware_is_visited {} [.acquire {} {}, .createChannel 0, .register 0 0, .start 0 ⟨1⟩,
      .grant 0 2, .closeStream 0]).1 0 e there
  rw [spoken] at answered
  obtain ⟨v, rfl, answer⟩ := List.map_eq_singleton_iff.mp answered
  rw [List.flatMap_singleton] at calls
  rw [Device.writes, calls] at count
  rw [← Array.length_toList, calls] at size
  cases v with
  | refused error => cases answer
  | rejected params => simp [Visit.calls] at size
  | served params buffer writes left =>
    cases answer
    rw [Visit.filterMap_calls] at count
    rw [Visit.length_calls, count] at size
    cases left with
    | false => simp at size
    | true =>
      refine ⟨e, buffer, writes, there, calls, count, fun w member => ?_⟩
      have whole := ((lawful _ (List.mem_singleton_self _)).2.1 w member).size
      rw [width] at whole
      exact whole

end SharedAudio.Server

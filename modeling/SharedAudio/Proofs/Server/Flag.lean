import SharedAudio.Proofs.Endpoint.Flag
import SharedAudio.Proofs.Server.Admission

namespace SharedAudio.Server

variable {s : Server} {k : Nat} {op : Operation} {e : Endpoint}

theorem lasting_truthful : Lasting Endpoint.Truthful where
  fresh _ _ _ := Endpoint.truthful_of_quiet rfl
  counted _ _ truthful := truthful.congr rfl rfl
  opened _ := Site.truthful_opened
  started _ _ := Site.truthful_start
  worked _ _ work := work.steady Site.steady_truthful

theorem abiding_not_stale : Abiding fun e => ¬ e.Stale where
  fresh _ _ _ := Endpoint.not_stale_of_quiet rfl
  counted _ _ fresh := fresh
  opened _ := Site.not_stale_opened
  worked _ _ work := work.steady Site.steady_not_stale

theorem streaming_iff_stale (truthful : e.Truthful) (sincere : e.Sincere) :
    e.streaming = true ∧ (e.isOpen = false ∨ e.health ≠ .healthy) ↔ e.Stale := by
  constructor
  · rintro ⟨streaming, closed | ill⟩
    · rw [Endpoint.streaming_of_closed closed] at streaming
      cases streaming
    · exact truthful streaming ill
  · intro stale
    refine ⟨stale.streaming, .inr ?_⟩
    obtain ⟨line, opened, lost⟩ := stale
    exact sincere.ill opened (by rw [lost]; rfl) (by rw [lost]; simp)

def Stale (s : Server) (k : Nat) : Prop := ∃ e, s.endpoints[k]? = some e ∧ e.Stale

theorem stale_iff (there : s.endpoints[k]? = some e) : s.Stale k ↔ e.Stale := by
  constructor
  · rintro ⟨f, there', stale⟩
    rw [there] at there'
    cases there'
    exact stale
  · exact fun stale => ⟨e, there, stale⟩

def Joins (s : Server) (k : Nat) (op : Operation) : Prop :=
  ∃ site id, s.site? k = some site ∧ (op = .start k id ∨ op = .toggle id) ∧ site.Joins id

theorem stale_perform (stale : (s.perform op).Stale k) : s.Stale k ∨ s.Joins k op := by
  by_cases before : s.Stale k
  · exact .inl before
  by_cases joins : s.Joins k op
  · exact .inr joins
  have fresh : s.At k fun e => ¬ e.Stale := fun e there stale => before ⟨e, there, stale⟩
  have after := abiding_not_stale.perform fresh op fun site id found asks fresh stale =>
    joins ⟨site, id, found, asks, Site.joins_of_stale_start fresh stale⟩
  obtain ⟨e, there, stale⟩ := stale
  exact absurd stale (after e there)

theorem stale_start_iff {id : StreamId} {site : Site} (found : s.site? k = some site)
    (fresh : ¬ s.Stale k) : (s.perform (.start k id)).Stale k ↔ site.Joins id := by
  have after : (s.perform (.start k id)).endpoints[k]? = some (site.started id).endpoint := by
    rw [perform_start, endpoints_actOn, if_pos rfl, found]
    rfl
  rw [stale_iff (endpoint_of_site? found).1] at fresh
  rw [stale_iff after]
  exact ⟨Site.joins_of_stale_start fresh, Site.Joins.stale⟩

theorem flag_is_sound_unless_stale (options : Options) (ops : List Operation) (k : Nat)
    (e : Endpoint) (there : (run { options } ops).endpoints[k]? = some e) :
    (e.streaming = true ∧ (e.isOpen = false ∨ e.health ≠ .healthy) ↔ e.Stale) ∧
    (e.Stale ↔ ∃ before last after, ops = before ++ last :: after ∧
      (run { options } before).Joins k last ∧
      ∀ since, since <+: after → (run { options } (before ++ last :: since)).Stale k) ∧
    (∀ site id, (run { options } ops).site? k = some site → ¬ e.Stale →
      (((run { options } ops).perform (.start k id)).Stale k ↔ site.Joins id)) ∧
    ∀ site, (run { options } ops).site? k = some site → site.halt.endpoint.streaming = false := by
  refine ⟨?_, ?_, ?_, fun site _ => site.halted_halt.streaming⟩
  · exact streaming_iff_stale (lasting_truthful.run options ops k e there)
      (lasting_sincere.run options ops k e there)
  · rw [← stale_iff there]
    constructor
    · refine origin_of_run (·.Stale k) (·.Joins k) ?_ fun before op _ after => ?_
      · rintro ⟨e, there, -⟩
        simp at there
      · rw [run_append] at after
        exact stale_perform after
    · rintro ⟨before, last, after, rfl, -, since⟩
      exact since after List.prefix_rfl
  · exact fun site id found fresh => stale_start_iff found (fresh ∘ (stale_iff there).mp)

theorem flag_is_sound_unless_stale_after_stop :
    let s := run { options := {} } [.acquire {} {}, .createChannel 0, .register 0 0, .start 0 ⟨1⟩,
      .extendScript 0 [.panic], .grant 0 1, .stop 0 ⟨1⟩]
    ∃ e, s.endpoints[0]? = some e ∧ e.isOpen = true ∧ e.health = .faulted ∧ ¬ e.Stale ∧
      ∀ site, s.site? 0 = some site → site.halt.endpoint.streaming = false := by
  intro s
  have seen : s.endpoints[0]?.map (fun e => (e.isOpen, e.health, e.streaming)) =
    some (true, .faulted, false) := by decide
  obtain ⟨e, there, view⟩ := Option.map_eq_some_iff.mp seen
  obtain ⟨opened, health, quiet⟩ := (by simpa using view : e.isOpen = true ∧
    e.health = .faulted ∧ e.streaming = false)
  obtain ⟨sound, -, -, lowered⟩ := flag_is_sound_unless_stale {} _ 0 e there
  refine ⟨e, there, opened, health, fun stale => ?_, lowered⟩
  rw [(sound.mpr stale).1] at quiet
  cases quiet

theorem start_leaves_flag_up :
    let s := run { options := {} } [.acquire {} {}, .createChannel 0, .register 0 0, .start 0 ⟨1⟩,
      .extendScript 0 [.panic], .grant 0 1, .start 0 ⟨1⟩]
    s.endpoints.toList.map (fun e => (e.isOpen, e.health, e.streaming)) =
      [(true, .faulted, true)] := by decide

end SharedAudio.Server

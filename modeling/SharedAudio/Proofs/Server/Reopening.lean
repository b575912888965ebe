import SharedAudio.Proofs.Server.Erasure
import SharedAudio.Proofs.Server.Near

namespace SharedAudio

theorem Call.delivers_of_quiet {call : Call} (quiet : call.burst? = none) :
    call.delivers = false := by
  cases call with
  | wrote => cases quiet
  | opened | buffer | closed => rfl

def Tolerance.reopened (own : Nat) (was : Endpoint) : Tolerance where
  output k a x b y :=
    if k = own then
      a = was.device.calls ++ b ∧ if b.any Call.delivers then x = y else x = was.rms ∧ y = 0
    else b = a ∧ y = x
  sums p q := q = p
  counts x y := y = x
  references k x y := if k = own then x = y + was.references else y = x
  channel _ c d := d = c
  fit _ _ _ := True

namespace Tolerance

variable {own : Nat} {was : Endpoint}

theorem strict_reopened (own : Nat) (was : Endpoint) : (reopened own was).Strict :=
  ⟨fun _ _ => .rfl, fun _ _ => .rfl⟩

theorem channels_eq {all others : Array Channel} (h : (reopened own was).channels all others) :
    others = all := by
  apply Array.ext_getElem?
  intro key
  rcases channels_cases h key with ⟨here, there⟩ | ⟨c, d, here, there, same⟩
  · rw [here, there]
  · rw [here, there, show d = c from same]

theorem output_push {k : Nat} {a b : Array Call} {x y : Sample} {call : Call}
    (h : (reopened own was).output k a x b y) (failed : call.delivers = false) :
    (reopened own was).output k (a.push call) x (b.push call) y := by
  simp only [reopened] at h ⊢
  split
  next is =>
    rw [if_pos is] at h
    simpa [failed, h.1] using h.2
  next ne =>
    rw [if_neg ne] at h
    exact ⟨by rw [h.1], h.2⟩

theorem take_reopened {m n : Mixing} {key : Nat} (h : m.Near (reopened own was) n) :
    (m.take key).Near (reopened own was) (n.take key) := by
  have same : n = m := by
    obtain ⟨mixers, channels, underflows⟩ := h
    have channels := channels_eq channels
    cases m
    cases n
    cases mixers with
    | none => simp_all [reopened]
    | some near =>
      cases near.eq (strict_reopened own was)
      simp_all [reopened]
  subst same
  refine ⟨?_, fun other => ?_, rfl⟩
  · cases (n.take key).mixer with
    | none => exact .none
    | some => exact .some ⟨rfl, rfl, rfl⟩
  · cases (n.take key).channels[other]? with
    | none => exact .none
    | some => exact .some rfl

theorem lawful_reopened (own : Nat) (was : Endpoint) : (reopened own was).Lawful where
  noted call quiet h := output_push h (Call.delivers_of_quiet quiet)
  wrote frames timeout answer other sums h := by
    cases sums
    exact output_push h (by simpa [Call.delivers, Call.write?, Write.delivers] using other)
  delivered frames timeout sums h := by
    cases sums
    simp only [reopened] at h ⊢
    split
    next is =>
      rw [if_pos is] at h
      simp [Call.delivers, Call.write?, Write.delivers, h.1]
    next ne =>
      rw [if_neg ne] at h
      exact ⟨by rw [h.1], trivial⟩
  same _ := rfl
  cleared sums := by cases sums; rfl
  limited l sums := by cases sums; rfl
  none := rfl
  counted {i x y} h := by
    simp only [reopened] at h ⊢
    split
    next is =>
      rw [if_pos is] at h
      rw [h, UInt64.add_assoc, UInt64.add_comm was.references, ← UInt64.add_assoc]
    next ne =>
      rw [if_neg ne] at h
      rw [h]
  id same := by cases same; rfl
  state same := by cases same; rfl
  width same := by cases same; rfl
  enter e same := by cases same; rfl
  aim volume bursts same := by cases same; rfl
  newborn _ _ _ := rfl
  take near _ := take_reopened near
  fit _ _ _ := trivial

theorem fit_reopened (s : Server) : s.Fit (reopened own was) := fun _ _ _ _ _ _ _ => trivial

end Tolerance

def Endpoint.anew (e : Endpoint) : Endpoint where
  config := e.config
  options := e.options
  device := { e.device with calls := #[] }

structure Site.Renews (was : Endpoint) (u v : Site) : Prop where
  status : v.status = { u.status with references := v.status.references, rms := v.status.rms }
  references : u.status.references = v.status.references + was.references
  level : if v.endpoint.device.calls.any Call.delivers then u.status.rms = v.status.rms
    else u.status.rms = was.rms ∧ v.status.rms = 0
  calls : u.endpoint.device.calls = was.device.calls ++ v.endpoint.device.calls

theorem Site.Near.renews {own : Nat} {was : Endpoint} {u v : Site}
    (h : u.Near (.reopened own was) own v) : u.Renews was v := by
  have output := h.endpoint.output
  have references := h.endpoint.references
  simp only [Tolerance.reopened, if_true] at output references
  refine ⟨?_, references, output.2, output.1⟩
  have rest := h.endpoint.rest (Tolerance.strict_reopened own was)
  have channels := Tolerance.channels_eq h.channels
  obtain ⟨e, all, log⟩ := u
  obtain ⟨f, others, other⟩ := v
  dsimp only at rest channels
  subst channels
  rw [← rest]
  rfl

namespace Server

variable {g : Tolerance} {s t : Server} {k : Nat}

def renew (s : Server) (k : Nat) : Server :=
  { s with endpoints := s.endpoints.modify k Endpoint.anew }

structure Renews (k : Nat) (was : Endpoint) (s t : Server) : Prop where
  site : ∃ u v, s.site? k = some u ∧ t.site? k = some v ∧ u.Renews was v
  others : ∀ l, l ≠ k → t.endpoints[l]? = s.endpoints[l]?
  rest : { t with endpoints := s.endpoints } = s

theorem Near.run (lawful : g.Lawful) (plain : ∀ key c d, g.channel key c d ↔ d = c)
    (fits : ∀ s, Fit g s) (h : s.Near g t) (shaped : s.Everywhere Endpoint.Shaped)
    {ops : List Operation} (exact : ∀ n handle l, ops[n]? = some (.release handle) →
      (s.run (ops.take n)).handles[handle]? = some (some l) →
        ∀ x y, g.references l x y ↔ y = x) :
    t.replies ops = s.replies ops ∧ (s.run ops).Near g (t.run ops) := by
  induction ops generalizing s t with
  | nil => exact ⟨rfl, h⟩
  | cons op ops ih =>
    obtain ⟨replied, near⟩ := h.of_same (h.perform? lawful shaped op (fits s) (fits _)
      (fun key _ => plain key) fun handle l is => exact 0 handle l (congrArg some is))
    obtain ⟨rest, last⟩ := ih near (lasting_shaped.perform shaped op) fun n => exact (n + 1)
    exact ⟨by rw [replies, replies, replied, rest], last⟩

theorem reply?_openStream {site : Site} (found : s.site? k = some site) :
    s.reply? (.openStream k) = site.openStream?.map fun opened => .ofUnit opened.1 := by
  rw [reply?, Server.perform?, trySite?, found, Option.bind_some]
  cases site.openStream? <;> rfl

theorem endpoint_renew {e : Endpoint} (there : s.endpoints[k]? = some e) (l : Nat) :
    (s.renew k).endpoints[l]? = if k = l then some e.anew else s.endpoints[l]? := by
  rw [renew, Array.getElem?_modify]
  split
  next same =>
    subst same
    rw [there]
    rfl
  next => rfl

theorem near_openStream {e : Endpoint} (there : s.endpoints[k]? = some e)
    (closed : e.phase = .closed true) (none : e.registered = [])
    (opens : s.reply? (.openStream k) = some .done) :
    (s.renew k).reply? (.openStream k) = some .done ∧
      (s.perform (.openStream k)).Near (.reopened k e) ((s.renew k).perform (.openStream k)) := by
  have found := site?_of_endpoint there
  have new : (s.renew k).site? k = some ⟨e.anew, s.channels, s.log⟩ :=
    site?_of_endpoint (by rw [endpoint_renew there, if_pos rfl])
  have akin : e.Akin (.reopened k e) k e.anew :=
    { config := rfl
      options := rfl
      number := rfl
      plan := rfl
      script := rfl
      output := by simp [Tolerance.reopened, Endpoint.anew]
      registered := none.symm
      references := by simp [Tolerance.reopened, Endpoint.anew] }
  have same : (Tolerance.reopened k e).channels s.channels s.channels := fun key => by
    cases s.channels[key]? with
    | none => exact .none
    | some => exact .some rfl
  have steady (f : Endpoint) (l : Nat) (ne : l ≠ k) : f.Near (.reopened k e) l f :=
    .refl (Tolerance.strict_reopened k e) f (by simp [Tolerance.reopened, ne])
      (by simp [Tolerance.reopened, ne])
  have inside := (Array.getElem?_eq_some_iff.mp there).1
  rw [reply?_openStream found] at opens
  rw [reply?_openStream new, perform_openStream, perform_openStream, actOn_of_site found,
    actOn_of_site new]
  obtain ⟨error, device, device', eq, -⟩ | ⟨u, v, eq, eq', near⟩ | ⟨eq, -⟩ :=
    akin.openStream? (Tolerance.lawful_reopened k e) (s := ⟨e, s.channels, s.log⟩)
      (t := ⟨e.anew, s.channels, s.log⟩) closed rfl same rfl
  · rw [eq] at opens
    cases opens
  · rw [eq', Site.opened_of_openStream? eq, Site.opened_of_openStream? eq']
    refine ⟨rfl, rfl, rfl, rfl, rfl, near.log, rfl, near.channels, fun l => ?_, fun l beyond => ?_⟩
    · rw [endpoints_putSite, endpoints_putSite, endpoint_renew there]
      split
      next is =>
        subst is
        rw [there]
        exact .some near.endpoint
      next ne =>
        cases s.endpoints[l]? with
        | none => exact .none
        | some f => exact .some (steady f l (Ne.symm ne))
    · rw [size_endpoints_putSite] at beyond
      have ne : l ≠ k := by omega
      exact ⟨by simp [Tolerance.reopened, ne], by simp [Tolerance.reopened, ne]⟩
  · rw [eq] at opens
    cases opens

theorem Near.renews {e : Endpoint} (h : s.Near (.reopened k e) t) (inside : k < s.endpoints.size) :
    Renews k e s t where
  site := by
    rcases h.sites k with ⟨here, -⟩ | ⟨u, v, here, there, near⟩
    · rw [site?, Array.getElem?_eq_getElem inside] at here
      cases here
    · exact ⟨u, v, here, there, near.renews⟩
  others l ne := by
    rcases h.endpoint l with ⟨here, there⟩ | ⟨e, f, here, there, near⟩
    · rw [here, there]
    · have output := near.output
      have references := near.references
      simp only [Tolerance.reopened, if_neg ne] at output references
      have device : f.device = e.device := by rw [← near.toAkin.device, ← output.1]
      rw [here, there, ← near.rest (Tolerance.strict_reopened k _), ← device, ← output.2,
        ← references]
  rest := by
    rw [h.options, h.held, h.handles, h.nextStream, h.log, h.refused,
      Tolerance.channels_eq h.channels]

theorem reopened_is_new {options : Options} {history ops : List Operation} {k : Nat} {e : Endpoint}
    (there : (run { options } history).endpoints[k]? = some e) (closed : e.phase = .closed true)
    (opens : (run { options } history).reply? (.openStream k) = some .done)
    (kept : ∀ n handle, ops[n]? = some (.release handle) →
      ((run { options } history).run (.openStream k :: ops.take n)).handles[handle]? ≠
        some (some k)) :
    let s := run { options } history
    (s.renew k).replies (.openStream k :: ops) = s.replies (.openStream k :: ops) ∧
      Renews k e (s.run (.openStream k :: ops)) ((s.renew k).run (.openStream k :: ops)) := by
  intro s
  have sound := lasting_sound.run options history k e there
  have none : e.registered = [] :=
    sound.closed (by rw [Endpoint.isOpen, Endpoint.line?, closed]; rfl)
  have shaped := lasting_shaped.perform (lasting_shaped.run options history) (.openStream k)
  obtain ⟨replied, near⟩ := near_openStream there closed none opens
  obtain ⟨rest, last⟩ := near.run (Tolerance.lawful_reopened k e) (fun _ _ _ => .rfl)
    (Tolerance.fit_reopened) shaped fun n handle l released held x y => by
      have ne : l ≠ k := fun is => kept n handle released (is ▸ held)
      simp [Tolerance.reopened, ne]
  have inside : k < (s.run (.openStream k :: ops)).endpoints.size :=
    Nat.lt_of_lt_of_le (Array.getElem?_eq_some_iff.mp there).1 (size_endpoints_run ..)
  refine ⟨?_, last.renews inside⟩
  rw [replies, replies, rest, replied, opens]

theorem reopened_is_new_after_outage :
    let history : List Operation := [.addEndpoint {} {} {}, .openStream 0, .createChannel 0,
      .register 0 0, .extendScript 0 [.fail .disconnected], .start 0 ⟨1⟩, .grant 0 1,
      .closeStream 0]
    let ops : List Operation := [.createChannel 0, .register 0 1, .start 0 ⟨2⟩, .grant 0 3]
    let s := run { options := {} } history
    ∃ e : Endpoint, s.endpoints[0]? = some e ∧ e.phase = .closed true ∧ e.health = .disconnected ∧
      (s.renew 0).replies (.openStream 0 :: ops) = s.replies (.openStream 0 :: ops) ∧
      Renews 0 e (s.run (.openStream 0 :: ops)) ((s.renew 0).run (.openStream 0 :: ops)) := by
  intro history ops s
  have found : (s.endpoints[0]?.any fun e =>
      (e.phase matches .closed true) && e.health == .disconnected) = true := by decide +kernel
  obtain ⟨e, there, shut⟩ := (Option.any_eq_true ..).mp found
  rw [Bool.and_eq_true] at shut
  have closed : e.phase = .closed true := by
    have owned := shut.1
    split at owned
    next is => exact is
    next => cases owned
  have replied : ((s.reply? (.openStream 0)).any fun reply => reply matches .done) = true := by
    decide +kernel
  obtain ⟨reply, answer, done⟩ := (Option.any_eq_true ..).mp replied
  have opens : s.reply? (.openStream 0) = some .done := by
    rw [answer]
    cases reply <;> first | rfl | cases done
  have kept : ∀ n handle, ops[n]? = some (.release handle) →
      (s.run (.openStream 0 :: ops.take n)).handles[handle]? ≠ some (some 0) := by
    intro n handle released
    have member := List.mem_of_getElem? released
    simp [ops] at member
  exact ⟨e, there, closed, eq_of_beq shut.2, reopened_is_new there closed opens kept⟩

theorem reopening_keeps_level :
    let history : List Operation := [.addEndpoint {} {} {}, .openStream 0, .createChannel 0,
      .register 0 0, .write 0 (Array.replicate 8 1), .start 0 ⟨1⟩, .closeStream 0]
    let s := run { options := {} } history
    (((s.perform (.openStream 0)).site? 0).map fun site => site.status.rms) = some 1 ∧
      ((((s.renew 0).perform (.openStream 0)).site? 0).map fun site => site.status.rms) =
        some 0 := by
  decide +kernel

end Server

end SharedAudio

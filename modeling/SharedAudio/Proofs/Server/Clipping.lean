import Mathlib.Data.List.Induction
import SharedAudio.Proofs.Mixing.Parts
import SharedAudio.Proofs.Server.Cells
import SharedAudio.Proofs.Server.Work

namespace SharedAudio.Server

variable {s t : Server} {op : Operation} {k : Nat}

def Quiet (s t : Server) : Prop := ∀ (k : Nat) (f : Endpoint), t.endpoints[k]? = some f →
  (∃ e, s.endpoints[k]? = some e ∧ e.Calm f ∧ (s.Fits e → t.Fits f)) ∨
    s.endpoints[k]? = none ∧ f.made = [] ∧ f.Shaped ∧ t.Fits f

theorem quiet_of_endpoints (endpoints : t.endpoints = s.endpoints)
    (widths : ∀ (key : Nat) (c : Channel), s.channels[key]? = some c →
      t.channels[key]?.map (·.channels) = some c.channels) : s.Quiet t :=
  fun _ f there =>
    .inl ⟨f, endpoints ▸ there, .refl f, fun fits => fits.of_widths widths (.refl _) rfl⟩

theorem quiet_actOnChannel (s : Server) (key : Nat) {act : Channel → Channel}
    (width : ∀ c, (act c).channels = c.channels) : s.Quiet (s.actOnChannel key act) := by
  refine quiet_of_endpoints (s.endpoints_actOnChannel key act) fun other before was => ?_
  rw [s.map_actOnChannel key width, was]
  rfl

theorem quiet_addChannel (s : Server) (id : StreamId) (ring : Ring) :
    s.Quiet (s.addChannel id ring).2 := by
  refine quiet_of_endpoints rfl fun key c there => ?_
  obtain ⟨inside, eq⟩ := Array.getElem?_eq_some_iff.mp there
  rw [addChannel, Array.getElem?_push_lt inside, eq]
  rfl

theorem Quiet.mixing?_eq_none (h : s.Quiet t) : s.mixing? t = none :=
  Server.mixing?_eq_none fun k e f before after => by
    rcases h k f after with ⟨e', there, calm, -⟩ | ⟨absent, -⟩
    · rw [before] at there
      cases there
      exact calm
    · rw [before] at absent
      cases absent

theorem perform_quiet_or_mixes (s : Server) (single : op.units = [op]) :
    s.Quiet (s.perform op) ∨ s.MixesTo (s.perform op) := by
  by_cases aside : op.Plain ∧ ∀ key samples, op ≠ .write key samples
  · exact (s.perform_calm_or_mixes aside.1 single aside.2).imp_left Calm.endpoints
  · left
    cases op with
    | write key samples =>
      rw [perform_write]
      exact s.quiet_actOnChannel key (Channel.Deed.write key samples).width
    | pop key block =>
      rw [perform_pop]
      exact s.quiet_actOnChannel key (Channel.Deed.pop key block).width
    | retarget key threshold =>
      rw [perform_retarget]
      exact s.quiet_actOnChannel key (Channel.Deed.retarget key threshold).width
    | addChannel id ring => exact s.quiet_addChannel id ring
    | _ => exact absurd ⟨trivial, fun _ _ same => by cases same⟩ aside

def Tidy (s : Server) : Prop :=
  ∀ (k : Nat) (e : Endpoint), s.endpoints[k]? = some e → e.Shaped ∧ s.Fits e

theorem Tidy.of_quiet (h : s.Tidy) (quiet : s.Quiet t) : t.Tidy := by
  intro k f there
  rcases quiet k f there with ⟨e, before, calm, fits⟩ | ⟨-, -, shaped, fits⟩
  · exact ⟨calm.shaped (h k e before).1, fits (h k e before).2⟩
  · exact ⟨shaped, fits⟩

theorem Tidy.of_mixes (h : s.Tidy) (mixes : s.MixesTo t) : t.Tidy := by
  obtain ⟨k, site, line, mixer, ready, found, mixes, rfl⟩ := mixes
  have widths (key : Nat) (c : Channel) (present : s.channels[key]? = some c) :
      (s.putSite k (ready.continueLoop mixer)).channels[key]?.map (·.channels) =
        some c.channels := by
    rw [widths_putSite found mixes fun key => ?_, present]
    · rfl
    · rw [Site.channels_continueLoop]
      exact ready.width_mix mixer key
  intro l e there
  rw [endpoints_putSite] at there
  split at there
  next same =>
    subst same
    obtain ⟨before, -, rfl⟩ := Option.map_eq_some_iff.mp there
    have eases := ready.eases_continueLoop mixer
    obtain ⟨shaped, fits⟩ := h k site.endpoint (endpoint_of_site? found).1
    refine ⟨mixes.shaped shaped, fits.of_widths widths ?_ (eases.config.trans mixes.config)⟩
    rw [eases.registered, mixes.registered]
  next => exact ⟨(h l e there).1, (h l e there).2.of_widths widths (.refl _) rfl⟩

theorem Tidy.perform (h : s.Tidy) (single : op.units = [op]) : (s.perform op).Tidy :=
  (s.perform_quiet_or_mixes single).elim h.of_quiet h.of_mixes

theorem wearing_terms : Wearing fun e f => f.config = e.config ∧ f.options = e.options where
  refl _ := ⟨rfl, rfl⟩
  trans h g := ⟨g.1.trans h.1, g.2.trans h.2⟩
  counted _ _ := ⟨rfl, rfl⟩
  worked site _ work := ⟨(work.wanes site).config, (work.wanes site).options⟩

theorem terms_perform (s : Server) (op : Operation) (k : Nat) :
    Carries (fun e f => f.config = e.config ∧ f.options = e.options) s (s.perform op) k :=
  Carries.perform wearing_terms
    (fun _ site _ => ⟨site.fixed_opened.1, site.fixed_opened.2.1⟩)
    fun site id _ => ⟨(site.wanes_start id).config, (site.wanes_start id).options⟩

theorem terms_run (s : Server) (ops : List Operation) (k : Nat) :
    Carries (fun e f => f.config = e.config ∧ f.options = e.options) s (s.run ops) k := by
  induction ops generalizing s with
  | nil => exact Carries.of_endpoints wearing_terms rfl
  | cons op ops ih => exact Carries.trans wearing_terms (s.terms_perform op k) (ih _)

def Clips (s t : Server) (k : Nat) (burst : Array Sample) : Prop :=
  ∃ e line, s.mixing? t = some (k, e, line) ∧ e.waiting = [burst] ∧
    ∀ (place : Nat) (x : Sample), burst[place]? = some x → Part.Clipped
      (partsAt s.channels line.params.burst.toNat place (s.voices t e.registered)) x

theorem clips_of_mixes (tidy : s.Tidy) (finite : s.Only (·.isFinite = true)) {site ready : Site}
    {line : Line} {mixer : Mixer} (found : s.site? k = some site)
    (mixes : site.Mixes line mixer ready)
    (limiter : (ready.continueLoop mixer).endpoint.options.limiter = .hardClip)
    {burst : Array Sample} (member : burst ∈ (ready.continueLoop mixer).endpoint.made) :
    (∃ e, s.endpoints[k]? = some e ∧ e.options.limiter = .hardClip ∧ burst ∈ e.made) ∨
      s.Clips (s.putSite k (ready.continueLoop mixer)) k burst := by
  obtain ⟨there, channels⟩ := endpoint_of_site? found
  obtain ⟨shaped, once, -⟩ := tidy k site.endpoint there
  have eases := ready.eases_continueLoop mixer
  obtain ⟨loop, still⟩ := mixes.still
  rw [eases.options] at limiter
  rw [Endpoint.made, Site.handed_continueLoop,
    Site.waiting_continueLoop mixer (Endpoint.isOpen_of_opened still)] at member
  rcases List.mem_append.mp member with earlier | new
  · rw [mixes.handed] at earlier
    exact .inl ⟨site.endpoint, there, mixes.options ▸ limiter, earlier⟩
  · right
    obtain ⟨mixed, result, rfl⟩ := Option.map_eq_some_iff.mp (Option.mem_toList.mp new)
    obtain ⟨next, mixing, -⟩ := mixing?_continueLoop found mixes
    have rings (key : Nat) : ready.channels[key]?.map (·.ring) = s.channels[key]?.map (·.ring) := by
      rw [← channels]
      exact mixes.rings key
    refine ⟨_, _, mixing, ?_, ?_⟩
    · rw [Site.waiting_continueLoop mixer (Endpoint.isOpen_of_opened still), result]
      rfl
    · intro place x at'
      rw [eases.registered, voices_continueLoop found mixes, ← partsAt_congr rings,
        ← (shaped line mixer mixes.opened mixes.mixer).2.1]
      refine Site.clipped_mix (mixes.registered ▸ once) limiter ?_ result at'
      intro key c present
      have ring := rings key
      rw [present] at ring
      obtain ⟨before, was, same⟩ := Option.map_eq_some_iff.mp ring.symm
      exact (finite key before was).of_cells (congrArg (·.memory.cells) same.symm)

theorem clips_of_made (tidy : s.Tidy) (finite : s.Only (·.isFinite = true))
    (single : op.units = [op]) {f : Endpoint} (there : (s.perform op).endpoints[k]? = some f)
    (limiter : f.options.limiter = .hardClip) {burst : Array Sample} (member : burst ∈ f.made) :
    (∃ e, s.endpoints[k]? = some e ∧ e.options.limiter = .hardClip ∧ burst ∈ e.made) ∨
      s.Clips (s.perform op) k burst := by
  have terms := s.terms_perform op k
  rcases s.perform_quiet_or_mixes single with quiet | mixes
  · rcases quiet k f there with ⟨e, before, calm, -⟩ | ⟨-, nothing, -⟩
    · obtain ⟨g, after, -, same⟩ := terms e before
      rw [there] at after
      cases after
      exact .inl ⟨e, before, same ▸ limiter, calm.made ▸ member⟩
    · rw [nothing] at member
      cases member
  · obtain ⟨l, site, line, mixer, ready, found, mixes, eq⟩ := mixes
    rw [eq] at there ⊢
    rw [endpoints_putSite] at there
    split at there
    next same =>
      subst same
      obtain ⟨before, -, rfl⟩ := Option.map_eq_some_iff.mp there
      exact clips_of_mixes tidy finite found mixes limiter member
    next => exact .inl ⟨f, there, limiter, member⟩

theorem tidy_run_of_single (options : Options) {ops : List Operation}
    (single : ∀ op ∈ ops, op.units = [op]) : (run { options } ops).Tidy := by
  induction ops using List.reverseRecOn with
  | nil =>
    intro k e there
    simp at there
  | append_singleton ops op ih =>
    rw [run_append]
    exact (ih fun other member => single other (List.mem_append_left _ member)).perform
      (single op (List.mem_append_right _ List.mem_cons_self))

theorem tidy_run (options : Options) (ops : List Operation) : (run { options } ops).Tidy := by
  rw [← run_units]
  exact tidy_run_of_single options fun _ => Operation.units_of_mem_flatMap

theorem clips_of_run (options : Options) {ops : List Operation}
    (single : ∀ op ∈ ops, op.units = [op])
    (finite : ∀ op ∈ ops, op.Brings (·.isFinite = true)) {e : Endpoint}
    (there : (run { options } ops).endpoints[k]? = some e)
    (limiter : e.options.limiter = .hardClip) {burst : Array Sample} (member : burst ∈ e.made) :
    ∃ before op, before ++ [op] <+: ops ∧
      (run { options } before).Clips (run { options } (before ++ [op])) k burst := by
  -- The induction is from the last operation on: a burst is new after it, or was there before.
  induction ops using List.reverseRecOn generalizing e with
  | nil => simp at there
  | append_singleton ops op ih =>
    have single' : ∀ other ∈ ops, other.units = [other] :=
      fun other member => single other (List.mem_append_left _ member)
    have finite' : ∀ other ∈ ops, other.Brings (·.isFinite = true) :=
      fun other member => finite other (List.mem_append_left _ member)
    have performed : run { options } (ops ++ [op]) = (run { options } ops).perform op := by
      rw [run_append]
      rfl
    have kept : (run { options } ops).Only (·.isFinite = true) :=
      only_run (by decide) options finite'
    rw [performed] at there
    rcases clips_of_made (tidy_run options ops) kept
      (single op (List.mem_append_right _ List.mem_cons_self)) there limiter member with
      ⟨d, earlier, clips, old⟩ | new
    · obtain ⟨before, first, front, origin⟩ := ih single' finite' earlier clips old
      exact ⟨before, first, front.trans (List.prefix_append ..), origin⟩
    · exact ⟨ops, op, List.prefix_rfl, performed ▸ new⟩

theorem clipped_unless_indeterminate (options : Options) (ops : List Operation)
    (finite : ∀ op ∈ ops, op.Brings (·.isFinite = true)) (k : Nat) (e : Endpoint)
    (there : (run { options } ops).endpoints[k]? = some e)
    (limiter : e.options.limiter = .hardClip) : ∀ burst ∈ e.handed ++ e.waiting,
      ∃ before op, before ++ [op] <+: ops.flatMap Operation.units ∧
        (run { options } before).Clips (run { options } (before ++ [op])) k burst := by
  intro burst member
  have brings : ∀ unit ∈ ops.flatMap Operation.units, unit.Brings (·.isFinite = true) := by
    intro unit inside
    obtain ⟨op, given, of⟩ := List.mem_flatMap.mp inside
    exact Operation.brings_of_mem_units (finite op given) of
  rw [← run_units] at there
  exact clips_of_run options (fun _ => Operation.units_of_mem_flatMap) brings there limiter member

theorem clipped_unless_indeterminate_at_two_frames :
    let options : Options := { limiter := .hardClip }
    let ops : List Operation := [.acquire { channels := 1, burst := some 2 } {}, .createChannel 0,
      .register 0 0, .write 0 #[2, -3], .start 0 ⟨1⟩, .grant 0 1]
    ∃ e : Endpoint, (run { options } ops).endpoints[0]? = some e ∧ e.handed = [#[1, -1]] ∧
      ∃ before op, before ++ [op] <+: ops.flatMap Operation.units ∧
        (run { options } before).Clips (run { options } (before ++ [op])) 0 #[1, -1] := by
  intro options ops
  have written : ∀ x ∈ (#[2, -3] : Array Sample), x.isFinite = true := by decide
  have finite : ∀ op ∈ ops, op.Brings (·.isFinite = true) := by
    simpa [ops, Operation.Brings] using written
  have found : ((run { options } ops).endpoints[0]?.any fun e : Endpoint =>
      decide (e.options.limiter = .hardClip ∧ e.handed = [#[1, -1]])) = true := by
    decide +kernel
  obtain ⟨e, there, holds⟩ := (Option.any_eq_true ..).mp found
  obtain ⟨limiter, handed⟩ := of_decide_eq_true holds
  exact ⟨e, there, handed, clipped_unless_indeterminate options ops finite 0 e there limiter _
    (List.mem_append_left _ (handed ▸ List.mem_cons_self))⟩

theorem limiter_passes_nan :
    let options : Options := { limiter := .hardClip }
    let ops : List Operation := [.acquire {} {}, .createChannel 0, .register 0 0,
      .write 0 (Array.replicate 8 0), .setVolume 0 ⟨1⟩ (.ofBits 0x7f800000), .start 0 ⟨1⟩,
      .grant 0 1]
    (∀ op ∈ ops, op.Brings (·.isFinite = true)) ∧
      ∃ e : Endpoint, (run { options } ops).endpoints[0]? = some e ∧
        e.options.limiter = .hardClip ∧ ∃ burst ∈ e.handed, ∃ x ∈ burst, x.isNaN = true := by
  intro options ops
  have silence : ∀ x ∈ Array.replicate 8 (0 : Sample), x.isFinite = true := by decide
  have finite : ∀ op ∈ ops, op.Brings (·.isFinite = true) := by
    simpa [ops, Operation.Brings] using silence
  have found : ((run { options } ops).endpoints[0]?.any fun e : Endpoint =>
      decide (e.options.limiter = .hardClip ∧
        ∃ burst ∈ e.handed, ∃ x ∈ burst, x.isNaN = true)) = true := by decide +kernel
  obtain ⟨e, there, holds⟩ := (Option.any_eq_true ..).mp found
  exact ⟨finite, e, there, of_decide_eq_true holds⟩

end SharedAudio.Server

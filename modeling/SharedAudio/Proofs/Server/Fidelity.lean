import Mathlib.Data.List.Basic
import Mathlib.Data.List.Induction
import SharedAudio.Proofs.Server.Bursts

namespace SharedAudio

namespace Site.Mixes

variable {s ready : Site} {line : Line} {mixer : Mixer} {tapes : Nat → Tape}

theorem continues (h : s.Mixes line mixer ready) (tracks : TracksAll tapes s.channels)
    (shaped : s.endpoint.Shaped) (nodup : s.endpoint.registered.Nodup)
    (widths : ∀ key ∈ s.endpoint.registered, ∃ c, s.channels[key]? = some c ∧
      c.channels = s.endpoint.config.channels) :
    let size := s.endpoint.config.channels.toNat * line.params.burst.toNat
    ready.Continues line mixer (ready.mixdown size line.params.burst tapes)
      (ready.continueLoop mixer) := by
  intro size
  obtain ⟨channels, burst, sum⟩ := shaped line mixer h.opened h.mixer
  obtain ⟨loop, still⟩ := h.still
  have tracked : TracksAll tapes ready.channels := by
    intro key c there
    exact tracks.of_ring (by rw [← h.rings key, there]; rfl)
  have fitting : ∀ key ∈ ready.endpoint.registered, ∃ c, ready.channels[key]? = some c ∧
      s.endpoint.config.channels.toNat = c.ring.channels := by
    intro key member
    rw [h.registered] at member
    obtain ⟨before, was, width⟩ := widths key member
    have kept : ready.channels[key]?.map (·.ring) = some before.ring := by
      rw [h.rings key, was]
      rfl
    obtain ⟨c, there, ring⟩ := Option.map_eq_some_iff.mp kept
    refine ⟨c, there, ?_⟩
    rw [← width, Channel.channels, ← ring]
    exact c.toNat_channels
  have once : ready.endpoint.registered.Nodup := by
    rw [h.registered]
    exact nodup
  have room : mixer.burst.toNat * mixer.channels.toNat ≤ mixer.sum.size := by
    rw [sum, channels, burst, Nat.mul_comm]
  have done : ready.Continues line mixer (ready.mixdown mixer.sum.size mixer.burst tapes)
      (ready.continueLoop mixer) :=
    continues_continueLoop still tracked once room (by rw [channels]; exact fitting)
  rw [sum, burst] at done
  exact done

end Site.Mixes

namespace Session

structure Faithful (x : Session) : Prop where
  tracks : TracksAll x.tapes x.server.channels
  blank : ∀ key : Nat, x.server.channels[key]? = none → x.tapes key = {}
  made : ∀ (k : Nat) (e : Endpoint), x.server.endpoints[k]? = some e →
    e.made = x.bursts k ∧ e.Shaped ∧ x.server.Fits e
  silent : ∀ k : Nat, x.server.endpoints[k]? = none → x.bursts k = []

variable {x : Session} {t : Server}

theorem faithful_fresh (options : Options) : Faithful { server := { options } } := by
  refine ⟨?_, fun _ _ => rfl, ?_, fun _ _ => rfl⟩
  · intro key c there
    simp at there
  · intro k e there
    simp at there

namespace Faithful

theorem calm (h : x.Faithful) (calm : x.server.Calm t) (sized : Sized { x with server := t }) :
    Faithful { x with server := t } where
  tracks key c there := by
    rcases calm.channels key c there with ring | ⟨absent, idle⟩
    · exact h.tracks.of_ring ring
    · obtain ⟨backed, -⟩ := sized key c there
      rw [h.blank key absent]
      exact Tape.tracks_fresh idle backed
  blank key absent := by
    apply h.blank key
    cases before : x.server.channels[key]? with
    | none => rfl
    | some c =>
      have kept := calm.rings key c before
      rw [absent] at kept
      cases kept
  made k f there := by
    rcases calm.endpoints k f there with ⟨e, before, calm, fits⟩ | ⟨absent, made, shaped, fits⟩
    · obtain ⟨made, shaped, sound⟩ := h.made k e before
      exact ⟨calm.made.trans made, calm.shaped shaped, fits sound⟩
    · exact ⟨made.trans (h.silent k absent).symm, shaped, fits⟩
  silent k absent := h.silent k (calm.present k absent)

theorem step_of_calm (h : x.Faithful) {op : Operation} (unwritten : x.written op = x.tapes)
    (calm : x.server.Calm (x.server.perform op)) (sized : (x.step op).Sized) :
    (x.step op).Faithful := by
  have same : x.step op = { x with server := x.server.perform op } := by
    simp only [step, calm.mixing?_eq_none, unwritten]
  rw [same] at sized ⊢
  exact h.calm calm sized

theorem write (h : x.Faithful) {key : Nat} {c : Channel} (found : x.server.channels[key]? = some c)
    (samples : Array Sample)
    (short : ((x.tapes key).given ++
      framesOf c.ring.channels (c.write samples).1 samples.toList).length < 2 ^ 64) :
    Faithful { x with
      server := { x.server with
        channels := x.server.channels.setIfInBounds key (c.write samples).2 }
      tapes := Function.update x.tapes key
        ((x.tapes key).write (framesOf c.ring.channels (c.write samples).1 samples.toList)) } := by
  have inside := (Array.getElem?_eq_some_iff.mp found).1
  refine ⟨h.tracks.set key ((h.tracks key c found).write samples _ short), ?_, ?_, h.silent⟩
  · intro other absent
    rw [Array.getElem?_setIfInBounds] at absent
    split at absent
    next => cases absent
    next different =>
      dsimp only
      rw [Function.update_of_ne fun same => different same.symm]
      exact h.blank other absent
  · intro k e there
    obtain ⟨made, shaped, fits⟩ := h.made k e there
    refine ⟨made, shaped, fits.of_widths (fun other before was => ?_) (.refl _) rfl⟩
    dsimp only
    rw [Array.getElem?_setIfInBounds]
    split
    next same =>
      subst same
      rw [found] at was
      cases was
      rfl
    next => rw [was]; rfl

theorem step_write (h : x.Faithful) (key : Nat) (samples : Array Sample)
    (sized : (x.step (.write key samples)).Sized) : (x.step (.write key samples)).Faithful := by
  cases found : x.server.channels[key]? with
  | none =>
    refine h.step_of_calm ?_ ?_ sized
    · simp only [written, found]
    · rw [Server.perform_write, Server.actOnChannel_of_none found]
      exact .refl _
  | some c =>
    have performed : x.server.perform (.write key samples) = { x.server with
        channels := x.server.channels.setIfInBounds key (c.write samples).2 } := by
      rw [Server.perform_write, Server.actOnChannel_of_channel found]
    have silent : x.server.mixing? { x.server with
        channels := x.server.channels.setIfInBounds key (c.write samples).2 } = none :=
      Server.mixing?_of_endpoints rfl
    have stepped : x.step (.write key samples) = { x with
        server := { x.server with
          channels := x.server.channels.setIfInBounds key (c.write samples).2 }
        tapes := Function.update x.tapes key
          ((x.tapes key).write
            (framesOf c.ring.channels (c.write samples).1 samples.toList)) } := by
      simp only [step, performed, silent, written, found]
    rw [stepped] at sized ⊢
    have inside := (Array.getElem?_eq_some_iff.mp found).1
    have short := (sized key (c.write samples).2 (by simp [inside])).2
    simp only [Function.update_self] at short
    exact h.write found samples short

section Mix

variable {k : Nat} {site ready after : Site} {line : Line} {mixer : Mixer} {done : Mixdown}

theorem made_of_mixes (h : x.Faithful) (found : x.server.site? k = some site)
    (mixes : site.Mixes line mixer ready) (continues : ready.Continues line mixer done after)
    (eases : ready.Eases after) {l : Nat} {e : Endpoint}
    (there : (x.server.putSite k after).endpoints[l]? = some e) :
    let burst := ready.endpoint.options.limiter.apply done.sum.toArray
    e.made = Function.update x.bursts k (x.bursts k ++ [burst]) l ∧ e.Shaped ∧
      (x.server.putSite k after).Fits e := by
  intro burst
  have widths (key : Nat) (c : Channel) (present : x.server.channels[key]? = some c) :
      (x.server.putSite k after).channels[key]?.map (·.channels) = some c.channels := by
    rw [Server.widths_putSite found mixes continues.widths key, present]
    rfl
  rw [Server.endpoints_putSite] at there
  split at there
  next same =>
    subst same
    obtain ⟨before, was, rfl⟩ := Option.map_eq_some_iff.mp there
    obtain ⟨at', -⟩ := Server.endpoint_of_site? found
    obtain ⟨made, shaped, fits⟩ := h.made k site.endpoint at'
    have config : after.endpoint.config = site.endpoint.config := eases.config.trans mixes.config
    have registered : after.endpoint.registered = site.endpoint.registered :=
      eases.registered.trans mixes.registered
    refine ⟨?_, ?_, fits.of_widths widths (registered ▸ .refl _) config⟩
    · rw [Function.update_self, ← made, ← mixes.handed]
      exact continues.made
    · intro other next opened has
      obtain ⟨loop, opened', -, keeps⟩ := continues.phase
      rw [opened'] at opened
      cases opened
      obtain ⟨channels, size, sum⟩ := keeps next has
      obtain ⟨channels', size', sum'⟩ := shaped line mixer mixes.opened mixes.mixer
      rw [config]
      exact ⟨channels.trans channels', size.trans size', sum.trans sum'⟩
  next different =>
    obtain ⟨made, shaped, fits⟩ := h.made l e there
    rw [Function.update_of_ne fun same => different same.symm]
    exact ⟨made, shaped, fits.of_widths widths (.refl _) rfl⟩

theorem blank_of_mixes (h : x.Faithful) (found : x.server.site? k = some site)
    (mixes : site.Mixes line mixer ready) (continues : ready.Continues line mixer done after)
    (size : Nat) (burst : UInt64) {key : Nat}
    (absent : (x.server.putSite k after).channels[key]? = none) :
    (ready.mixdown size burst x.tapes).tapes key = {} := by
  have width := Server.widths_putSite found mixes continues.widths key
  rw [absent] at width
  exact Mixdown.tapes_ofVoices _ (h.blank key (Option.map_eq_none_iff.mp width.symm))

theorem silent_of_mixes (h : x.Faithful) (found : x.server.site? k = some site) {l : Nat}
    (absent : (x.server.putSite k after).endpoints[l]? = none) : l ≠ k ∧ x.bursts l = [] := by
  rw [Server.endpoints_putSite] at absent
  split at absent
  next same =>
    subst same
    rw [(Server.endpoint_of_site? found).1] at absent
    cases absent
  next different => exact ⟨fun same => different same.symm, h.silent l absent⟩

end Mix

theorem step_of_mixes (h : x.Faithful) {op : Operation} (unwritten : x.written op = x.tapes)
    (mixed : x.server.MixesTo (x.server.perform op)) : (x.step op).Faithful := by
  obtain ⟨k, site, line, mixer, ready, found, mixes, eq⟩ := mixed
  obtain ⟨there, channels⟩ := Server.endpoint_of_site? found
  obtain ⟨-, shaped, fits⟩ := h.made k site.endpoint there
  have continues := mixes.continues (channels ▸ h.tracks) shaped fits.1 (channels ▸ fits.2)
  have eases := ready.eases_continueLoop mixer
  generalize ready.continueLoop mixer = after at *
  obtain ⟨loop, opened, runs, -⟩ := continues.phase
  have running := (Endpoint.runs_of_opened opened).trans runs
  have detected := Server.mixing?_putSite found opened (mixes.mixes running continues.bursts)
  have voices := Server.voices_putSite found mixes continues.states
  have config : after.endpoint.config = site.endpoint.config := eases.config.trans mixes.config
  have options := eases.options
  simp only [step, eq, detected, unwritten, eases.registered, voices, mix, config, options]
  have blank (key : Nat) (absent : (x.server.putSite k after).channels[key]? = none) :=
    h.blank_of_mixes found mixes continues
      (site.endpoint.config.channels.toNat * line.params.burst.toNat) line.params.burst absent
  rw [← Site.mixdown]
  refine ⟨continues.tracks, blank,
    fun l e at' => h.made_of_mixes found mixes continues eases at', fun l absent => ?_⟩
  obtain ⟨different, nothing⟩ := h.silent_of_mixes found absent
  dsimp only
  rw [Function.update_of_ne different]
  exact nothing

theorem step (h : x.Faithful) {op : Operation} (plain : op.Plain) (single : op.units = [op])
    (sized : (x.step op).Sized) : (x.step op).Faithful := by
  by_cases writes : ∃ key samples, op = .write key samples
  · obtain ⟨key, samples, rfl⟩ := writes
    exact h.step_write key samples sized
  · have unwritten : ∀ key samples, op ≠ .write key samples := by
      rintro key samples rfl
      exact writes ⟨key, samples, rfl⟩
    have tapes : x.written op = x.tapes := by
      cases op <;> first | rfl | exact absurd rfl (unwritten _ _)
    rcases x.server.perform_calm_or_mixes plain single unwritten with calm | mixed
    · exact h.step_of_calm tapes calm sized
    · exact h.step_of_mixes tapes mixed

end Faithful

theorem faithful_run (options : Options) (ops : List Operation) (plain : ∀ op ∈ ops, op.Plain)
    (single : ∀ op ∈ ops, op.units = [op])
    (sized : ∀ before, before <+: ops → (run options before).Sized) :
    (run options ops).Faithful := by
  induction ops using List.reverseRecOn with
  | nil => exact faithful_fresh options
  | append_singleton ops op ih =>
    have last : op ∈ ops ++ [op] := List.mem_append_right _ List.mem_cons_self
    have faithful : (run options ops).Faithful :=
      ih (fun op member => plain op (List.mem_append_left _ member))
        (fun op member => single op (List.mem_append_left _ member))
        fun before front => sized before (front.trans (List.prefix_append ..))
    have stepped : run options (ops ++ [op]) = (run options ops).step op := by
      rw [run, run, List.foldl_append]
      rfl
    have size := sized (ops ++ [op]) List.prefix_rfl
    rw [stepped] at size ⊢
    exact faithful.step (plain op last) (single op last) size

theorem bursts_are_mixdowns (options : Options) (ops : List Operation)
    (plain : ∀ op ∈ ops, op.Plain)
    (sized : ∀ before, before <+: ops.flatMap Operation.units → (run options before).Sized) :
    let x := run options (ops.flatMap Operation.units)
    x.server = Server.run { options } ops ∧
      (∀ (k : Nat) (e : Endpoint), x.server.endpoints[k]? = some e →
        e.handed ++ e.waiting = x.bursts k) ∧
      ∀ (key : Nat) (c : Channel), x.server.channels[key]? = some c →
        c.ring.frames = (x.tapes key).queue ∧
          (x.tapes key).given = (x.tapes key).used ++ (x.tapes key).queue := by
  intro x
  have plainly : ∀ unit ∈ ops.flatMap Operation.units, unit.Plain := by
    intro unit member
    obtain ⟨op, given, of⟩ := List.mem_flatMap.mp member
    exact Operation.plain_of_mem_units (plain op given) of
  have faithful : x.Faithful :=
    faithful_run options _ plainly (fun _ => Operation.units_of_mem_flatMap) sized
  refine ⟨?_, ?_, ?_⟩
  · rw [server_run, Server.run_units]
  · intro k e there
    exact (faithful.made k e there).1
  · intro key c there
    have tracks := faithful.tracks key c there
    exact ⟨tracks.frames, tracks.split⟩

theorem bursts_are_mixdowns_of_three_frames :
    let ops : List Operation := [.acquire { channels := 1, burst := some 2 } {}, .createChannel 0,
      .register 0 0, .write 0 #[1, 2, 3], .start 0 ⟨1⟩, .grant 0 1]
    let x := run {} ops
    (x.bursts 0).length = 2 ∧ (x.tapes 0).given.length = 3 ∧
      (∃ e : Endpoint, x.server.endpoints[0]? = some e ∧ e.handed ++ e.waiting = x.bursts 0) ∧
      (x.tapes 0).given = (x.tapes 0).used := by
  intro ops x
  have units : ops.flatMap Operation.units = ops := rfl
  have plain : ∀ op ∈ ops, op.Plain := by simp [ops, Operation.Plain]
  have sizes : ∀ n < 7, (run {} (ops.take n)).Sized := by decide +kernel
  have sized (before : List Operation) (front : before <+: ops.flatMap Operation.units) :
      (run {} before).Sized := by
    rw [units] at front
    rw [List.prefix_iff_eq_take.mp front]
    exact sizes _ (Nat.lt_succ_of_le front.length_le)
  have faithful := bursts_are_mixdowns {} ops plain sized
  rw [units] at faithful
  obtain ⟨-, made, frames⟩ := faithful
  have endpoint : 0 < x.server.endpoints.size := by decide +kernel
  have channel : 0 < x.server.channels.size := by decide +kernel
  have empty : (x.tapes 0).queue = [] := List.length_eq_zero_iff.mp (by decide +kernel)
  have split := (frames 0 _ (Array.getElem?_eq_getElem channel)).2
  rw [show (run {} ops).tapes = x.tapes from rfl, empty, List.append_nil] at split
  refine ⟨by decide +kernel, by decide +kernel, ⟨_, Array.getElem?_eq_getElem endpoint, ?_⟩, split⟩
  exact made 0 _ (Array.getElem?_eq_getElem endpoint)

end Session

end SharedAudio

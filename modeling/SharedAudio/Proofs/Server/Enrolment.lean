import SharedAudio.Proofs.Mixing.Room
import SharedAudio.Proofs.Server.Conversation
import SharedAudio.Proofs.Server.Rings
import SharedAudio.Proofs.Server.Roll

namespace SharedAudio

namespace Site

structure Enrolled (s : Site) : Prop where
  known : s.ids.length = s.endpoint.registered.length
  distinct : s.ids.Nodup
  few : s.ids.length ≤ s.endpoint.options.maxChannels.toNat
  wide : ∀ c ∈ s.registered,
    c.ring.channels = s.endpoint.config.channels.toNat ∧ 1 ≤ c.ring.channels
  burst : ∀ line, s.endpoint.phase = .opened line → 1 ≤ line.params.burst.toNat
  mixer : ∀ line mixer, s.endpoint.phase = .opened line → line.loop.mixer? = some mixer →
    mixer.channels = s.endpoint.config.channels ∧ mixer.burst = line.params.burst ∧
      mixer.sum.size = s.endpoint.config.channels.toNat * line.params.burst.toNat

end Site

namespace Server

variable {s t : Server} {k : Nat} {site ready : Site} {line : Line} {mixer : Mixer}

theorem Fits.width {e : Endpoint} (h : s.Fits e) {key : Nat} (member : key ∈ e.registered) :
    ∃ c, s.channels[key]? = some c ∧ c.ring.channels = e.config.channels.toNat := by
  obtain ⟨c, present, width⟩ := h.2 key member
  exact ⟨c, present, by rw [← width, Channel.toNat_channels]⟩

theorem enrolled_of_tidy (tidy : s.Tidy) (enrols : s.Enrols k)
    (suits : ∀ line, site.endpoint.phase = .opened line →
      line.params.Suits site.endpoint.config)
    (found : s.site? k = some site) : site.Enrolled := by
  obtain ⟨there, channels⟩ := endpoint_of_site? found
  obtain ⟨shaped, fits⟩ := tidy k site.endpoint there
  have registered := roll_of_site found
  have present (key : Nat) (member : key ∈ site.endpoint.registered) :
      (site.channels[key]?).isSome = true := by
    obtain ⟨c, here, -⟩ := fits.2 key member
    rw [channels, here]
    rfl
  have known : site.ids.length = site.endpoint.registered.length := by
    rw [Site.ids, List.length_map, Site.registered, List.length_filterMap_eq_countP,
      List.countP_eq_length]
    exact present
  refine ⟨known, ?_, ?_, ?_, ?_, ?_⟩
  · have distinct := enrols.distinct
    rw [registered] at distinct
    rw [Site.ids, List.Nodup, List.pairwise_map, Site.registered, List.pairwise_filterMap]
    refine distinct.imp fun {j l} ne c first d second same => ne ?_
    rw [idOf?, idOf?, ← channels, first, second]
    exact congrArg some same
  · rw [known, ← registered]
    exact enrols.few site.endpoint there
  · intro c member
    obtain ⟨key, listed, here⟩ := List.mem_filterMap.mp member
    obtain ⟨d, same, width⟩ := fits.width listed
    rw [channels, same] at here
    cases here
    exact ⟨width, c.ring.channels_pos⟩
  · intro line opened
    exact Nat.pos_of_ne_zero fun zero => (suits line opened).burst (UInt64.toNat_inj.mp zero)
  · exact shaped

theorem suits_run (options : Options) (ops : List Operation) {e : Endpoint}
    (there : (run { options } ops).endpoints[k]? = some e) (opened : e.phase = .opened line) :
    line.params.Suits e.config := by
  obtain ⟨visits, engaged, -⟩ := ((converses_run options ops k).1 e there).engaged
  obtain ⟨before, buffer, writes, rfl, -⟩ := engaged.serving line opened
  exact (engaged.lawful (.served line.params buffer writes false) (by simp)).1

theorem wide_of_mixes (tidy : s.Tidy) (found : s.site? k = some site)
    (mixes : site.Mixes line mixer ready) :
    ∀ key ∈ ready.endpoint.registered, ∃ c, ready.channels[key]? = some c ∧
      c.ring.channels = mixer.channels.toNat := by
  obtain ⟨there, channels⟩ := endpoint_of_site? found
  obtain ⟨shaped, fits⟩ := tidy k site.endpoint there
  intro key member
  obtain ⟨c, present, wide⟩ := fits.width (mixes.registered ▸ member)
  have ring := mixes.rings key
  rw [channels, present] at ring
  obtain ⟨d, here, same⟩ := Option.map_eq_some_iff.mp ring
  exact ⟨d, here, by rw [same, wide, (shaped line mixer mixes.opened mixes.mixer).1]⟩

theorem whole_of_mixes (tidy : s.Tidy) (found : s.site? k = some site)
    (mixes : site.Mixes line mixer ready) :
    ∃ e line, s.mixing? (s.putSite k (ready.continueLoop mixer)) = some (k, e, line) ∧
      line.loop.mixer? ≠ none := by
  obtain ⟨there, -⟩ := endpoint_of_site? found
  obtain ⟨shaped, fits⟩ := tidy k site.endpoint there
  have own := Mixer.shaped_of_opened shaped mixes.opened mixes.mixer
  obtain ⟨next, mixing, has⟩ := mixing?_continueLoop found mixes
  have mixed := Site.mix_ne_none own (mixes.registered ▸ fits.1) (wide_of_mixes tidy found mixes)
  exact ⟨_, _, mixing, has ▸ mixed⟩

theorem perform_register_of_mem (found : s.site? k = some site) {key : Nat} {c : Channel}
    (present : s.channels[key]? = some c) (listed : c.id ∈ site.ids) :
    s.perform (.register k key) = s := by
  rw [perform_register, present]
  dsimp only
  rw [actOn_of_site found]
  rcases site.register_cases key c with eq | ⟨-, -, fresh, -⟩
  · rw [eq]
    exact putSite_self found
  · exact absurd listed fresh

theorem perform_unregister_of_not_mem (found : s.site? k = some site) {id : StreamId}
    (unlisted : id ∉ site.ids) : s.perform (.unregister k id) = s := by
  rw [perform_unregister, actOn_of_site found,
    Site.unregister_of_unknown (Site.find?_eq_none_iff.mpr unlisted)]
  exact putSite_self found

theorem enrolment_keeps_mixing_safe (options : Options) (ops : List Operation) :
    let s := run { options } ops
    (∀ k site, s.site? k = some site → site.Enrolled ∧
      site.endpoint.registered.Pairwise (Senior options ops k) ∧
      (∀ (key : Nat) (c : Channel), s.channels[key]? = some c → c.id ∈ site.ids →
        s.perform (.register k key) = s) ∧
      ∀ id, id ∉ site.ids → s.perform (.unregister k id) = s) ∧
    ∀ before op, before ++ [op] <+: ops.flatMap Operation.units →
      let t := run { options } before
      let u := run { options } (before ++ [op])
      ∀ k e line, t.mixing? u = some (k, e, line) → line.loop.mixer? ≠ none := by
  intro s
  refine ⟨fun k site found => ⟨?_, ?_, fun _ _ => perform_register_of_mem found,
    fun _ => perform_unregister_of_not_mem found⟩, ?_⟩
  · exact enrolled_of_tidy (tidy_run options ops) (enrols_run options ops k)
      (fun line opened => suits_run options ops (endpoint_of_site? found).1 opened) found
  · rw [← roll_of_site found]
    exact seniority_run options ops k
  · intro before op front t u k e line mixing
    have performed : u = t.perform op := by
      rw [show u = run { options } (before ++ [op]) from rfl, run_append]
      rfl
    rw [performed] at mixing
    have single : op.units = [op] := Operation.units_of_mem_flatMap
      (front.subset (List.mem_append_right _ List.mem_cons_self))
    rcases t.perform_quiet_or_mixes single with quiet | mixes
    · rw [quiet.mixing?_eq_none] at mixing
      cases mixing
    · obtain ⟨l, site, line', mixer, ready, found, mixes, eq⟩ := mixes
      obtain ⟨f, after, mixed, whole⟩ := whole_of_mixes (tidy_run options before) found mixes
      rw [eq, mixed] at mixing
      cases mixing
      exact whole

theorem enrolment_keeps_mixing_safe_after_a_return :
    let ops : List Operation := [.acquire {} {}, .addChannel ⟨7⟩ (.heap 8 2),
      .addChannel ⟨9⟩ (.heap 8 2), .register 0 0, .register 0 1, .unregister 0 ⟨7⟩, .register 0 0,
      .start 0 ⟨9⟩]
    let s := run { options := {} } ops
    Senior {} ops 0 1 0 ∧ s.perform (.register 0 1) = s ∧
      s.perform (.unregister 0 ⟨8⟩) = s ∧
      (∃ site, s.site? 0 = some site ∧ site.ids = [⟨9⟩, ⟨7⟩] ∧ site.Enrolled) ∧
      ∃ e line, (run { options := {} } ops.dropLast).mixing? s = some (0, e, line) ∧
        line.loop.mixer? ≠ none := by
  intro ops s
  obtain ⟨rolls, mixes⟩ := enrolment_keeps_mixing_safe {} ops
  have seen : (s.site? 0).map (fun site => (site.ids, site.endpoint.registered)) =
      some ([⟨9⟩, ⟨7⟩], [1, 0]) := by decide +kernel
  obtain ⟨site, found, eq⟩ := Option.map_eq_some_iff.mp seen
  obtain ⟨ids, registered⟩ := Prod.mk.inj eq
  obtain ⟨enrolled, order, again, absent⟩ := rolls 0 site found
  rw [registered] at order
  have one : s.channels[1]?.map (·.id) = some ⟨9⟩ := by decide +kernel
  obtain ⟨c, present, id⟩ := Option.map_eq_some_iff.mp one
  have mixing : ((run { options := {} } ops.dropLast).mixing? s).map (·.1) = some 0 := by
    decide +kernel
  obtain ⟨⟨_, e, line⟩, mixed, rfl⟩ := Option.map_eq_some_iff.mp mixing
  refine ⟨(List.pairwise_cons.mp order).1 0 List.mem_cons_self, ?_, ?_,
    ⟨site, found, ids, enrolled⟩, e, line, mixed, ?_⟩
  · exact again 1 c present (by rw [ids, id]; exact List.mem_cons_self)
  · exact absent ⟨8⟩ (by rw [ids]; decide)
  · exact mixes ops.dropLast (.start 0 ⟨9⟩) ⟨[], rfl⟩ 0 e line mixed

end Server

end SharedAudio

import Mathlib.Algebra.BigOperators.Group.Finset.Basic
import SharedAudio.Proofs.Endpoint.Deliveries
import SharedAudio.Proofs.Server.Ledger

namespace SharedAudio

theorem Ring.mixable_regular : Ring.Mixable Ring.Regular where
  heap := .heap
  share added regular := Mixer.regular_add? added regular

def Operation.Regular : Operation → Prop
  | .addChannel _ ring => ring.Regular
  | _ => True

theorem Operation.regular_of_mem_units {op unit : Operation} (regular : op.Regular)
    (h : unit ∈ op.units) : unit.Regular := by
  cases op with
  | grant k n =>
    rw [(List.mem_replicate.mp h).2]
    trivial
  | _ => rw [List.mem_singleton.mp h]; exact regular

theorem Operation.Regular.upholds {op : Operation} (h : op.Regular) : op.Upholds Ring.Regular := by
  refine ⟨fun id ring added => ?_, fun key act deed c regular => ?_⟩
  · subst added
    exact h
  · cases deed with
    | write key samples => exact regular.push samples .clock
    | pop key block => exact regular.pop block
    | retarget key threshold =>
      dsimp only
      cases moved : c.retarget? threshold with
      | none => exact regular
      | some other =>
        obtain ⟨ring, changed, rfl⟩ := Option.map_eq_some_iff.mp moved
        exact regular.retarget changed
    | setGain | drainEvents => exact regular
    | disconnect | fault => exact (congrArg Ring.Regular (c.ring_enter _)).mpr regular

namespace Server

variable {s t : Server} {k : Nat} {site ready : Site} {line : Line} {mixer : Mixer}

structure Books (s t : Server) (b : Burst) : Prop where
  total : ∀ k, t.underflowsAt k =
    s.underflowsAt k + if b.endpoint = k then .ofNat b.short.length else 0
  each : ∀ key, t.underflowsOf key = s.underflowsOf key + .ofNat (b.short.count key)
  known : ∀ key ∈ b.short, t.channels[key]? ≠ none
  stays : ∀ key : Nat, t.channels[key]? = none → s.channels[key]? = none

theorem matched_of_tidy (tidy : s.Tidy) (regular : s.Rings Ring.Regular)
    (found : s.site? k = some site) (mixes : site.Mixes line mixer ready) :
    ∀ key ∈ ready.endpoint.registered, ∃ c, ready.channels[key]? = some c ∧
      c.channels = mixer.channels ∧ c.ring.Regular := by
  obtain ⟨there, channels⟩ := endpoint_of_site? found
  obtain ⟨shaped, -, fits⟩ := tidy k site.endpoint there
  intro key member
  rw [mixes.registered] at member
  obtain ⟨c, present, width⟩ := fits key member
  have ring := mixes.rings key
  rw [channels, present] at ring
  obtain ⟨after, now, same⟩ := Option.map_eq_some_iff.mp ring
  have same : after.ring = c.ring := same
  refine ⟨after, now, ?_, same ▸ regular key c present⟩
  rw [Channel.channels, same, ← Channel.channels, width,
    (shaped line mixer mixes.opened mixes.mixer).1]

theorem short_of_mixes (tidy : s.Tidy) (found : s.site? k = some site)
    (mixes : site.Mixes line mixer ready) (loop : Loop) :
    (s.mixed (s.putSite k (ready.continueLoop mixer)) k (ready.continueLoop mixer).endpoint
      { line with loop }).short = shortOf ready.channels mixer.burst
        (runningOf ready.channels ready.endpoint.registered) := by
  obtain ⟨there, channels⟩ := endpoint_of_site? found
  obtain ⟨-, frames, -⟩ := (tidy k site.endpoint there).1 line mixer mixes.opened mixes.mixer
  have running : runningOf (s.putSite k (ready.continueLoop mixer)).channels
      (ready.continueLoop mixer).endpoint.registered =
        runningOf ready.channels ready.endpoint.registered := by
    rw [(ready.eases_continueLoop mixer).registered]
    refine runningOf_congr fun key => ?_
    rw [← ready.state_mix mixer key, ← Site.channels_continueLoop]
    rfl
  have rings (key : Nat) : ready.channels[key]?.map (·.ring) = s.channels[key]?.map (·.ring) := by
    rw [← channels]
    exact mixes.rings key
  rw [mixed, running, ← frames]
  exact (shortOf_congr rings).symm

theorem books_of_mixes (tidy : s.Tidy) (regular : s.Rings Ring.Regular)
    (found : s.site? k = some site) (mixes : site.Mixes line mixer ready) :
    let t := s.putSite k (ready.continueLoop mixer)
    ∃ e line, s.mixing? t = some (k, e, line) ∧ s.Books t (s.mixed t k e line) := by
  intro t
  obtain ⟨there, channels⟩ := endpoint_of_site? found
  obtain ⟨shaped, once, -⟩ := tidy k site.endpoint there
  have matched := matched_of_tidy tidy regular found mixes
  obtain ⟨next, mixing, -⟩ := mixing?_continueLoop found mixes
  refine ⟨_, _, mixing, ?_⟩
  have short := short_of_mixes tidy found mixes next
  have own : (s.mixed t k (ready.continueLoop mixer).endpoint { line with loop := next }).endpoint =
      k := rfl
  generalize s.mixed t k (ready.continueLoop mixer).endpoint { line with loop := next } = b at *
  obtain ⟨total, each⟩ := Site.counts_mix
    (Mixer.shaped_of_opened shaped mixes.opened mixes.mixer) (mixes.registered ▸ once) matched
  rw [← short, mixes.underflows] at total
  rw [← short] at each
  have now : t.channels = (ready.mix mixer).2.channels := Site.channels_continueLoop ready mixer
  have grown (key : Nat) : t.channels[key]?.map (·.underflows) =
      (s.channels[key]?.map (·.underflows)).map (· + .ofNat (b.short.count key)) := by
    rw [now, each key, ← channels, ← mixes.counts key, Option.map_map]
    rfl
  have present (key : Nat) : t.channels[key]? = none ↔ s.channels[key]? = none := by
    rw [← Option.map_eq_none_iff (f := (·.underflows)), grown key, Option.map_eq_none_iff,
      Option.map_eq_none_iff]
  have known : ∀ key ∈ b.short, t.channels[key]? ≠ none := by
    intro key member
    rw [short] at member
    have there := present_of_mem_runningOf (List.mem_of_mem_filter member)
    rwa [now, ne_eq, ← Option.map_eq_none_iff (f := (·.underflows)), each key,
      Option.map_eq_none_iff]
  refine ⟨fun l => ?_, fun key => ?_, known, fun key => (present key).mp⟩
  · rw [underflowsAt, endpoints_putSite, underflowsAt, own]
    split
    next same =>
      subst same
      rw [there]
      exact (ready.underflows_continueLoop mixer).trans total
    next => exact (UInt64.add_zero _).symm
  · rw [underflowsOf, grown key, underflowsOf]
    cases here : s.channels[key]? with
    | none =>
      have unheard : key ∉ b.short := fun member => known key member ((present key).mpr here)
      rw [List.count_eq_zero_of_not_mem unheard]
      rfl
    | some c => rfl

theorem native_accounted : Native Endpoint.Accounted where
  fresh _ _ _ unused := .fresh unused
  counted _ _ accounted := accounted.congr rfl rfl rfl
  opened _ := Site.accounted_opened
  worked _ _ work := work.steady Site.steady_accounted

theorem accounted_run (options : Options) (ops : List Operation) :
    (run { options } ops).Everywhere Endpoint.Accounted := by
  induction ops using List.reverseRecOn with
  | nil =>
    intro k e there
    simp at there
  | append_singleton ops op ih =>
    rw [run_append]
    exact fun k => native_accounted.perform (ih k) op fun _ id _ _ before =>
      Site.accounted_start before id

end Server

namespace Ledger

variable {x : Ledger} {op : Operation} {k key : Nat}

structure Exact (x : Ledger) : Prop where
  total : ∀ k, x.server.underflowsAt k = .ofNat (shorts (x.since k)).length
  each : ∀ key, x.server.underflowsOf key = .ofNat ((shorts x.bursts).count key)
  opened : ∀ k, x.opened k ≤ x.bursts.length
  grown : ∀ b ∈ x.bursts, ∀ key, b.grown key = .ofNat (b.short.count key)
  known : ∀ b ∈ x.bursts, ∀ key ∈ b.short, x.server.channels[key]? ≠ none

theorem shorts_append (first second : List Burst) :
    shorts (first ++ second) = shorts first ++ shorts second := List.flatMap_append

theorem since_mixed (opened : x.opened k ≤ x.bursts.length) (server : Server) (b : Burst) :
    since { x with server, bursts := x.bursts ++ [b] } k =
      x.since k ++ if b.endpoint = k then [b] else [] := by
  rw [since, since, List.drop_append_of_le_length opened, List.filter_append]
  congr 1
  by_cases same : b.endpoint = k <;> simp [same]

namespace Exact

theorem resumes (h : x.Exact) {t : Server} (resumes : x.server.Resumes t) :
    Exact { x with
      server := t
      opened := fun k =>
        if t.isOpenAt k && !x.server.isOpenAt k then x.bursts.length else x.opened k } where
  total k := by
    rw [resumes.total k, h.total k]
    dsimp only [since]
    split
    · rw [List.drop_length]
      rfl
    · rfl
  each key := (resumes.each key).trans (h.each key)
  opened k := by
    dsimp only
    split
    · exact Nat.le_refl _
    · exact h.opened k
  grown := h.grown
  known b member key inside := mt (resumes.stays key) (h.known b member key inside)

theorem books (h : x.Exact) {t : Server} {b : Burst} (books : x.server.Books t b)
    (grown : ∀ key, b.grown key = t.underflowsOf key - x.server.underflowsOf key) :
    Exact { x with server := t, bursts := x.bursts ++ [b] } where
  total k := by
    rw [books.total k, h.total k, since_mixed (h.opened k), shorts_append, List.length_append,
      UInt64.ofNat_add]
    split <;> simp [shorts]
  each key := by
    rw [books.each key, h.each key, shorts_append, List.count_append, UInt64.ofNat_add]
    simp [shorts]
  opened k := by
    rw [List.length_append]
    exact Nat.le_add_right_of_le (h.opened k)
  grown c member key := by
    rcases List.mem_append.mp member with earlier | last
    · exact h.grown c earlier key
    · rw [List.mem_singleton.mp last, grown key, books.each key, UInt64.add_comm,
        UInt64.add_sub_cancel]
  known c member key inside := by
    rcases List.mem_append.mp member with earlier | last
    · exact mt (books.stays key) (h.known c earlier key inside)
    · rw [List.mem_singleton.mp last] at inside
      exact books.known key inside

theorem step (h : x.Exact) (tidy : x.server.Tidy) (regular : x.server.Rings Ring.Regular)
    (single : op.units = [op]) : (x.step op).Exact := by
  have mixes (mixes : x.server.MixesTo (x.server.perform op)) : (x.step op).Exact := by
    obtain ⟨k, site, line, mixer, ready, found, mixes, eq⟩ := mixes
    obtain ⟨e, line, mixing, books⟩ := Server.books_of_mixes tidy regular found mixes
    rw [← eq] at mixing books
    rw [Ledger.step, mixing]
    exact h.books books fun _ => rfl
  rcases x.server.perform_resumes_or_mixes single with resumes | mixing
  · rcases x.server.perform_quiet_or_mixes single with quiet | mixing
    · rw [Ledger.step, quiet.mixing?_eq_none]
      exact h.resumes resumes
    · exact mixes mixing
  · exact mixes mixing

end Exact

theorem exact_run (options : Options) {ops : List Operation}
    (single : ∀ op ∈ ops, op.units = [op]) (regular : ∀ op ∈ ops, op.Regular) :
    (run options ops).Exact := by
  induction ops using List.reverseRecOn with
  | nil => exact ⟨fun _ => rfl, fun _ => rfl, fun _ => Nat.le_refl 0, by simp [run],
      by simp [run]⟩
  | append_singleton ops op ih =>
    have single' : ∀ other ∈ ops, other.units = [other] :=
      fun other member => single other (List.mem_append_left _ member)
    have regular' : ∀ other ∈ ops, other.Regular :=
      fun other member => regular other (List.mem_append_left _ member)
    rw [run_concat]
    refine (ih single' regular').step ?_ ?_ (single op (List.mem_append_right _ List.mem_cons_self))
    · rw [server_run]
      exact Server.tidy_run options ops
    · rw [server_run]
      exact Server.Rings.run Ring.mixable_regular options fun other member =>
        (regular' other member).upholds

section Sum

theorem ofNat_sum (counts : List Nat) :
    UInt64.ofNat counts.sum = (counts.map UInt64.ofNat).sum := by
  induction counts with
  | nil => rfl
  | cons n counts ih => rw [List.sum_cons, UInt64.ofNat_add, ih, List.map_cons, List.sum_cons]

theorem sum_count_range {keys : List Nat} {size : Nat} (inside : ∀ key ∈ keys, key < size) :
    ((List.range size).map fun key => keys.count key).sum = keys.length := by
  have counted := Multiset.sum_count_eq_card (s := Finset.range size) (m := (keys : Multiset Nat))
    fun key member => Finset.mem_range.mpr (inside key (Multiset.mem_coe.mp member))
  simpa [Finset.sum, Multiset.range] using counted

theorem sum_grown {bursts : List Burst} {key : Nat}
    (grown : ∀ b ∈ bursts, b.grown key = .ofNat (b.short.count key)) :
    (bursts.map (·.grown key)).sum = .ofNat ((shorts bursts).count key) := by
  rw [shorts, List.count_flatMap, ofNat_sum, List.map_map]
  congr 1
  exact List.map_congr_left grown

theorem Exact.shared (h : x.Exact) (k : Nat) : x.server.underflowsAt k =
    ((List.range x.server.channels.size).map (x.caused k)).sum := by
  have since : ∀ b ∈ x.since k, b ∈ x.bursts := fun b member =>
    List.mem_of_mem_drop (List.mem_of_mem_filter member)
  have known : ∀ key ∈ shorts (x.since k), key < x.server.channels.size := by
    intro key member
    obtain ⟨b, listed, inside⟩ := List.mem_flatMap.mp member
    have there := h.known b (since b listed) key inside
    exact Nat.lt_of_not_le fun outside => there (Array.getElem?_eq_none outside)
  rw [h.total k, ← sum_count_range known, ofNat_sum, List.map_map]
  congr 1
  refine List.map_congr_left fun key _ => ?_
  exact (sum_grown fun b listed => h.grown b (since b listed) key).symm

end Sum

end Ledger

namespace Server

theorem statistics_are_exact (options : Options) (ops : List Operation)
    (regular : ∀ op ∈ ops, op.Regular) :
    let x := Ledger.run options (ops.flatMap Operation.units)
    x.server = run { options } ops ∧
    (∀ (k : Nat) (e : Endpoint), x.server.endpoints[k]? = some e →
      e.bursts = .ofNat (e.device.recent.countP Write.delivers) ∧
      (∀ burst ∈ e.burst?, ∀ w ∈ e.device.recent, w.frames = burst) ∧
      e.underflows = .ofNat (shorts (x.since k)).length ∧
      e.underflows = ((List.range x.server.channels.size).map (x.caused k)).sum) ∧
    ∀ (key : Nat) (c : Channel), x.server.channels[key]? = some c →
      c.underflows = .ofNat ((shorts x.bursts).count key) := by
  intro x
  have server : x.server = run { options } ops := by rw [Ledger.server_run, run_units]
  have exact' : x.Exact := by
    refine Ledger.exact_run options (fun _ => Operation.units_of_mem_flatMap) fun unit member => ?_
    obtain ⟨op, given, inside⟩ := List.mem_flatMap.mp member
    exact Operation.regular_of_mem_units (regular op given) inside
  refine ⟨server, fun k e there => ?_, fun key c there => ?_⟩
  · have accounted := accounted_run options ops k e (server ▸ there)
    have shows : x.server.underflowsAt k = e.underflows := by
      rw [underflowsAt, there]
      rfl
    exact ⟨accounted.bursts, accounted.frames, shows ▸ exact'.total k, shows ▸ exact'.shared k⟩
  · have shows : x.server.underflowsOf key = c.underflows := by
      rw [underflowsOf, there]
      rfl
    exact shows ▸ exact'.each key

theorem statistics_are_exact_after_reopening :
    let ops : List Operation := [.acquire {} {}, .createChannel 0, .addChannel ⟨9⟩ (.heap 8 2),
      .register 0 0, .register 0 1, .write 1 (Array.replicate 8 1), .start 0 ⟨1⟩, .start 0 ⟨9⟩,
      .grant 0 1, .unregister 0 ⟨1⟩, .grant 0 1, .closeStream 0, .openStream 0, .register 0 1,
      .extendScript 0 [.full, .short 1], .start 0 ⟨9⟩, .grant 0 2]
    let x := Ledger.run {} (ops.flatMap Operation.units)
    (∀ op ∈ ops, op.Regular) ∧ shorts (x.since 0) = [1, 1] ∧ shorts x.bursts = [0, 0, 1, 1, 1] ∧
      (∃ e : Endpoint, x.server.endpoints[0]? = some e ∧ e.bursts = 1 ∧ e.underflows = 2) ∧
      (∃ c : Channel, x.server.channels[0]? = some c ∧ c.underflows = 2) ∧
      ∃ c : Channel, x.server.channels[1]? = some c ∧ c.underflows = 3 := by
  intro ops x
  have regular : ∀ op ∈ ops, op.Regular := by
    simpa [ops, Operation.Regular] using Ring.Regular.heap 8 2
  obtain ⟨-, endpoints, channels⟩ := statistics_are_exact {} ops regular
  have since : shorts (x.since 0) = [1, 1] := by decide +kernel
  have ever : shorts x.bursts = [0, 0, 1, 1, 1] := by decide +kernel
  have shown : x.server.endpoints[0]?.map (fun e => e.device.recent.countP Write.delivers) =
    some 1 := by decide +kernel
  obtain ⟨e, there, taken⟩ := Option.map_eq_some_iff.mp shown
  have present (key : Nat) (inside : key < x.server.channels.size) :=
    channels key _ (Array.getElem?_eq_getElem inside)
  have inside : 1 < x.server.channels.size := by decide +kernel
  obtain ⟨bursts, -, underflows, -⟩ := endpoints 0 e there
  have counts := ever ▸ present
  refine ⟨regular, since, ever, ⟨e, there, by rw [bursts, taken]; rfl, ?_⟩, ?_, ?_⟩
  · rw [underflows, since]
    rfl
  · exact ⟨_, Array.getElem?_eq_getElem (by omega), counts 0 (by omega)⟩
  · exact ⟨_, Array.getElem?_eq_getElem inside, counts 1 inside⟩

end Server

end SharedAudio

import SharedAudio.Proofs.Gain.Landing
import SharedAudio.Proofs.Server.Tuning

namespace SharedAudio

namespace Server

variable {s t : Server} {op : Operation} {k key : Nat} {site ready : Site} {line : Line}
  {mixer : Mixer}

structure Leads (voices : List Voice) (s t : Server) : Prop where
  heard : ∀ key gain, gainIn key voices = some gain →
    gain = (s.tuning key).1.next.current ∧ t.tuning key = ((s.tuning key).1.next, gain)
  others : ∀ key, gainIn key voices = none → t.tuning key = s.tuning key

theorem leads_of_mixes (tidy : s.Tidy) (found : s.site? k = some site)
    (mixes : site.Mixes line mixer ready) :
    let t := s.putSite k (ready.continueLoop mixer)
    ∃ e line, s.mixing? t = some (k, e, line) ∧ Leads (s.voices t e.registered) s t := by
  intro t
  obtain ⟨there, channels⟩ := endpoint_of_site? found
  obtain ⟨shaped, fits⟩ := tidy k site.endpoint there
  have own := Mixer.shaped_of_opened shaped mixes.opened mixes.mixer
  obtain ⟨next, mixing, -⟩ := mixing?_continueLoop found mixes
  have voices : s.voices t (ready.continueLoop mixer).endpoint.registered = ready.voices := by
    rw [(ready.eases_continueLoop mixer).registered, voices_continueLoop found mixes]
  have before (key : Nat) : s.tuning key = (ready.channels[key]?.map Channel.tuning).getD
      (.settled 1, 1) := by
    rw [tuning, ← channels, Channel.map_tuning_congr (mixes.ramps key) (mixes.applied key)]
  have after (key : Nat) : t.channels[key]?.map Channel.tuning = ready.channels[key]?.map fun c =>
      if (gainIn key ready.voices).isSome then c.stepGain.tuning else c.tuning := by
    rw [← Site.tuning_mix own (mixes.registered ▸ fits.1) (wide_of_mixes tidy found mixes) key,
      ← Site.channels_continueLoop]
    rfl
  refine ⟨_, _, mixing, fun key gain sung => ?_, fun key silent => ?_⟩
  · rw [voices] at sung
    obtain ⟨c, present, -, same⟩ := Site.voice_of_gainIn sung
    have now : s.tuning key = c.tuning := by
      rw [before, present]
      rfl
    rw [now]
    refine ⟨same, ?_⟩
    rw [tuning, after, present, sung, same]
    rfl
  · rw [voices] at silent
    rw [tuning, after, silent, before]
    rfl

def Leaves (key : Nat) : Server → List Operation → Prop
  | _, [] => True
  | s, op :: ops => s.aims? op ≠ some key ∧ Leaves key (s.perform op) ops

instance decidableLeaves (key : Nat) :
    (s : Server) → (ops : List Operation) → Decidable (s.Leaves key ops)
  | _, [] => inferInstanceAs (Decidable True)
  | s, op :: ops =>
    have := decidableLeaves key (s.perform op) ops
    inferInstanceAs (Decidable (s.aims? op ≠ some key ∧ (s.perform op).Leaves key ops))

theorem leaves_append (s : Server) (first second : List Operation) :
    s.Leaves key (first ++ second) ↔ s.Leaves key first ∧ (s.run first).Leaves key second := by
  induction first generalizing s with
  | nil => simp [Leaves]
  | cons op first ih => rw [List.cons_append, Leaves, Leaves, ih, and_assoc, run_cons]

theorem leaves_grants (s : Server) (k n : Nat) : s.Leaves key (List.replicate n (.grant k 1)) := by
  induction n generalizing s with
  | zero => trivial
  | succ n ih => exact ⟨nofun, ih _⟩

theorem Leaves.units {ops : List Operation} (h : s.Leaves key ops) :
    s.Leaves key (ops.flatMap Operation.units) := by
  induction ops generalizing s with
  | nil => trivial
  | cons op ops ih =>
    have unit : s.Leaves key op.units := by
      cases op with
      | grant k n => exact s.leaves_grants k n
      | _ => exact ⟨h.1, trivial⟩
    have after : s.run op.units = s.perform op := by
      simpa using s.run_units [op]
    rw [List.flatMap_cons, leaves_append, after]
    exact ⟨unit, ih h.2⟩

end Server

structure Score where
  server : Server
  bursts : List (List Voice) := []

namespace Score

def step (x : Score) (op : Operation) : Score :=
  let after := x.server.perform op
  match x.server.mixing? after with
  | some (_, e, _) =>
    { server := after, bursts := x.bursts ++ [x.server.voices after e.registered] }
  | none => { x with server := after }

def run (s : Server) (ops : List Operation) : Score := ops.foldl step { server := s }

def gains (x : Score) (key : Nat) : List Sample := x.bursts.filterMap (gainIn key)

theorem server_step (x : Score) (op : Operation) : (x.step op).server = x.server.perform op := by
  rw [step]
  split <;> rfl

theorem server_run (s : Server) (ops : List Operation) : (run s ops).server = s.run ops := by
  have folded (x : Score) : (ops.foldl step x).server = x.server.run ops := by
    induction ops generalizing x with
    | nil => rfl
    | cons op ops ih => rw [List.foldl_cons, ih, server_step, Server.run_cons]
  exact folded _

variable {x y : Score} {op : Operation} {ops : List Operation} {aimed : Option Nat} {key : Nat}

inductive Steps (x y : Score) (aimed : Option Nat) : Prop
  | tended (same : y.bursts = x.bursts) (tends : x.server.Tends y.server aimed)
  | mixed (voices : List Voice) (added : y.bursts = x.bursts ++ [voices])
      (leads : Server.Leads voices x.server y.server)

theorem steps_step (tidy : x.server.Tidy) (single : op.units = [op]) :
    x.Steps (x.step op) (x.server.aims? op) := by
  have mixed (mixes : x.server.MixesTo (x.server.perform op)) :
      x.Steps (x.step op) (x.server.aims? op) := by
    obtain ⟨k, site, line, mixer, ready, found, mixes, eq⟩ := mixes
    obtain ⟨e, line, mixing, leads⟩ := Server.leads_of_mixes tidy found mixes
    rw [← eq] at mixing leads
    rw [step, mixing]
    exact .mixed _ rfl leads
  rcases x.server.perform_tends_or_mixes single with tends | mixing
  · rcases x.server.perform_quiet_or_mixes single with quiet | mixing
    · rw [step, quiet.mixing?_eq_none]
      exact .tended rfl tends
    · exact mixed mixing
  · exact mixed mixing

theorem gains_of_added {voices : List Voice} (added : y.bursts = x.bursts ++ [voices]) (key : Nat) :
    y.gains key = x.gains key ++ (gainIn key voices).toList := by
  rw [gains, added, List.filterMap_append, gains]
  cases heard : gainIn key voices <;> simp [heard]

def Sings (x : Score) (first : Nat → Sample) : Prop :=
  ∀ key, (x.server.tuning key).2 = (x.gains key).getLast?.getD (first key)

theorem Sings.of_steps {first : Nat → Sample} (h : x.Sings first) (steps : x.Steps y aimed) :
    y.Sings first := by
  intro key
  cases steps with
  | tended same tends => rw [tends.applied, h key, gains, gains, same]
  | mixed voices added leads =>
    rw [gains_of_added added]
    cases heard : gainIn key voices with
    | none => rw [leads.others key heard, h key, Option.toList_none, List.append_nil]
    | some gain =>
      rw [(leads.heard key gain heard).2, Option.toList_some, List.getLast?_concat]
      rfl

structure Follows (x : Score) (key : Nat) (r : Ramp) : Prop where
  ramp : (x.server.tuning key).1 = Ramp.next^[(x.gains key).length] r
  gains : ∀ i gain, (x.gains key)[i]? = some gain → gain = (Ramp.next^[i + 1] r).current

theorem Follows.of_steps {r : Ramp} (h : x.Follows key r) (steps : x.Steps y aimed)
    (spared : aimed ≠ some key) : y.Follows key r := by
  cases steps with
  | tended same tends =>
    have gains : y.gains key = x.gains key := by rw [Score.gains, same, Score.gains]
    exact ⟨by rw [tends.others key spared, h.ramp, gains], by rw [gains]; exact h.gains⟩
  | mixed voices added leads =>
    have gains := gains_of_added added key
    cases heard : gainIn key voices with
    | none =>
      rw [heard, Option.toList_none, List.append_nil] at gains
      exact ⟨by rw [leads.others key heard, h.ramp, gains], by rw [gains]; exact h.gains⟩
    | some gain =>
      obtain ⟨next, moved⟩ := leads.heard key gain heard
      rw [heard, Option.toList_some] at gains
      rw [h.ramp, ← Function.iterate_succ_apply' Ramp.next] at next moved
      have longer : (y.gains key).length = (x.gains key).length + 1 := by
        rw [gains, List.length_append, List.length_singleton]
      refine ⟨by rw [moved, longer], fun i other at' => ?_⟩
      rw [gains, List.getElem?_append] at at'
      split at at'
      · exact h.gains i other at'
      next past =>
        rw [List.getElem?_singleton] at at'
        split at at'
        next last =>
          cases at'
          rw [next, show i = (x.gains key).length by omega]
        next => cases at'

theorem foldl_of_steps {P : Score → List Operation → Prop}
    (kept : ∀ x y op ops, y.server = x.server.perform op → x.Steps y (x.server.aims? op) →
      P x (op :: ops) → P y ops)
    (tidy : x.server.Tidy) (single : ∀ op ∈ ops, op.units = [op]) (h : P x ops) :
    P (ops.foldl step x) [] := by
  -- The induction is over the operations that are still to come, of which a property may speak too.
  induction ops generalizing x with
  | nil => exact h
  | cons op ops ih =>
    have alone := single op List.mem_cons_self
    have performed := tidy.perform alone
    rw [← server_step] at performed
    exact ih performed (fun other member => single other (List.mem_cons_of_mem op member))
      (kept _ _ _ _ (server_step ..) (steps_step tidy alone) h)

variable {s : Server} (tidy : s.Tidy)
include tidy

theorem sings_run (ops : List Operation) :
    (run s (ops.flatMap Operation.units)).Sings fun key => (s.tuning key).2 :=
  foldl_of_steps (P := fun x _ => x.Sings _) (fun _ _ _ _ _ steps h => h.of_steps steps) tidy
    (fun _ => Operation.units_of_mem_flatMap) fun _ => rfl

theorem follows_run (leaves : s.Leaves key ops) :
    (run s (ops.flatMap Operation.units)).Follows key (s.tuning key).1 := by
  refine (foldl_of_steps (P := fun x rest => x.Follows key _ ∧ x.server.Leaves key rest)
    (fun x y op rest server steps h => ?_) tidy (fun _ => Operation.units_of_mem_flatMap)
    ⟨⟨rfl, by simp [gains]⟩, leaves.units⟩).1
  exact ⟨h.1.of_steps steps h.2.1, server ▸ h.2.2⟩

end Score

namespace Server

theorem gains_land_on_time (options : Options) (earlier : List Operation) :
    let s := run { options } earlier
    let x := Score.run { options } (earlier.flatMap Operation.units)
    (x.server = s ∧ ∀ (key : Nat) (c : Channel), s.channels[key]? = some c →
      c.applied = (x.gains key).getLast?.getD 1) ∧
    ∀ k site id key c volume later, s.site? k = some site → site.find? id = some key →
      s.channels[key]? = some c →
      let t := s.perform (.setVolume k id volume)
      let y := Score.run t (later.flatMap Operation.units)
      let bursts := site.endpoint.options.rampBursts
      let target := Sample.positivePart volume
      let step := (target - c.ramp.current) / bursts.toFloat32
      t.Leaves key later →
      (s.perform? (.setVolume k id volume)).map (·.1) = some .done ∧
      y.server = t.run later ∧
      (∃ d, y.server.channels[key]? = some d ∧ d.volume = target ∧
        d.applied = (y.gains key).getLast?.getD c.applied) ∧
      ∀ i gain, (y.gains key)[i]? = some gain → gain =
        if i + 1 < bursts.toNat then (· + step)^[i + 1] c.ramp.current else target := by
  intro s x
  have tidy : s.Tidy := tidy_run options earlier
  refine ⟨?_, ?_⟩
  · have empty : Tidy { options } := tidy_run options []
    have sings := Score.sings_run empty earlier
    have server : x.server = s := (Score.server_run _ _).trans (run_units _ _)
    refine ⟨server, fun key c present => ?_⟩
    have shows := sings key
    rw [show (Score.run _ _).server = s from server, tuning_of_channel present] at shows
    exact shows
  · intro k site id key c volume later found aimed present t y bursts target step leaves
    have performed : t = s.putSite k (site.setVolume id volume).2 := by
      rw [show t = _ from perform_setVolume .., actOn_of_site found]
    have tidy' : t.Tidy := tidy.perform rfl
    have sent : t.channels[key]? = some (c.setVolume volume bursts) := by
      have after := site.getElem?_setVolume id volume key
      rw [if_pos aimed, (endpoint_of_site? found).2, present] at after
      rw [performed]
      exact after
    have begun := tuning_of_channel sent
    have sings := Score.sings_run tidy' later
    have follows := Score.follows_run tidy' leaves
    have server : y.server = t.run later := (Score.server_run _ _).trans (run_units _ _)
    rw [begun] at follows
    refine ⟨?_, server, ?_, fun i gain at' => ?_⟩
    · rw [perform?, onSite?, found]
      simp [onResult?, Site.setVolume, aimed]
      rfl
    · have known : t.idOf? key = some c.id := by rw [idOf?, sent]; rfl
      obtain ⟨d, there, -⟩ := Option.map_eq_some_iff.mp (t.keepsIds_run later key c.id known)
      rw [← server] at there
      have now : y.server.tuning key = d.tuning := tuning_of_channel there
      have ramp := follows.ramp
      have applied := sings key
      rw [show (Score.run _ _).server = y.server from rfl, now] at ramp applied
      refine ⟨d, there, ?_, ?_⟩
      · rw [Channel.volume, show d.ramp = _ from ramp, Ramp.target_iterate]
        exact Ramp.target_aim c.ramp volume bursts
      · dsimp only at applied
        rw [begun] at applied
        exact applied
    · rw [follows.gains i gain at']
      exact Ramp.current_iterate_aim c.ramp volume bursts i

theorem gains_land_on_time_across_a_stop :
    let earlier : List Operation := [.acquire {} {}, .createChannel 0, .register 0 0,
      .start 0 ⟨1⟩, .grant 0 1]
    let later : List Operation := [.grant 0 1, .stop 0 ⟨1⟩, .grant 0 1, .start 0 ⟨1⟩, .grant 0 1]
    let s := run { options := {} } earlier
    let t := s.perform (.setVolume 0 ⟨1⟩ 0.5)
    let y := Score.run t (later.flatMap Operation.units)
    t.Leaves 0 later ∧
      (y.gains 0).map (·.toBits) = [0x3f400000, 0x3f000000, 0x3f000000] ∧
      (∃ d, y.server.channels[0]? = some d ∧ d.volume = Sample.positivePart 0.5) ∧
      (y.gains 0)[2]? = some (Sample.positivePart 0.5) := by
  intro earlier later s t y
  have leaves : t.Leaves 0 later := by decide +kernel
  have gains : (y.gains 0).map (·.toBits) = [0x3f400000, 0x3f000000, 0x3f000000] := by
    decide +kernel
  have aims : (s.site? 0).map (fun site => (site.find? ⟨1⟩, site.endpoint.options.rampBursts)) =
      some (some 0, 2) := by decide +kernel
  obtain ⟨site, found, eq⟩ := Option.map_eq_some_iff.mp aims
  obtain ⟨aimed, bursts⟩ := Prod.mk.inj eq
  have inside : 0 < s.channels.size := by decide +kernel
  obtain ⟨-, -, ⟨d, there, volume, -⟩, landed⟩ := (gains_land_on_time {} earlier).2 0 site
    ⟨1⟩ 0 _ 0.5 later found aimed (Array.getElem?_eq_getElem inside) leaves
  have length := congrArg List.length gains
  rw [List.length_map] at length
  have three : 2 < (y.gains 0).length := by rw [length]; decide
  have last := landed 2 _ (List.getElem?_eq_getElem three)
  rw [bursts, if_neg (by decide)] at last
  refine ⟨leaves, gains, ?_, by rw [List.getElem?_eq_getElem three, last]⟩
  dsimp only [y, t, s]
  exact ⟨d, there, volume⟩

end Server

end SharedAudio

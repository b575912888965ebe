import SharedAudio.Proofs.Endpoint.Isolation
import SharedAudio.Proofs.Server.Clipping
import SharedAudio.Proofs.Server.Erasure
import SharedAudio.Proofs.Server.Near

namespace SharedAudio

inductive Operation.Shows : Operation → Nat → Prop
  | write (key : Nat) (samples : Array Sample) : Shows (.write key samples) key
  | pop (key : Nat) (block : Array Sample) : Shows (.pop key block) key
  | setGain (key : Nat) (volume : Sample) (bursts : UInt32) : Shows (.setGain key volume bursts) key

def Loop.hushed : Loop → Loop
  | .idle mixer => .idle mixer.clear
  | .writing mixer => .writing mixer.clear
  | .ended mixer => .ended mixer.clear
  | .panicked => .panicked
  | .lost flag => .lost flag

def Phase.hushed : Phase → Phase
  | .closed owned => .closed owned
  | .opened line => .opened { line with loop := line.loop.hushed }

def Endpoint.hushed (e : Endpoint) : Endpoint :=
  { e with
    device := { e.device with calls := e.device.calls.map Call.muted }
    phase := e.phase.hushed
    underflows := 0
    rms := 0 }

theorem Endpoint.Near.hushed {own k : Nat} {e f : Endpoint} (h : e.Near (.samples own) k f) :
    f.hushed = e.hushed := by
  have clear {m n : Mixer} (near : m.Near (.samples own) n) : n.clear = m.clear := by
    rw [Mixer.clear, Mixer.clear, near.channels, near.burst, near.sum]
  have phase : f.phase.hushed = e.phase.hushed := by
    rcases h.phases with ⟨owned, here, there⟩ | ⟨params, buffer, l, k, here, there, near⟩
    · rw [here, there]
    · rw [here, there]
      cases near with
      | idle near | writing near | ended near =>
        simp only [Phase.hushed, Loop.hushed, clear near]
      | panicked | lost => rfl
  simp only [Endpoint.hushed, phase, h.config, h.options, h.number, h.plan, h.script, h.health,
    h.lastExit, h.bursts, h.registered, show f.references = e.references from h.references,
    show f.device.calls.map Call.muted = e.device.calls.map Call.muted from h.output]

theorem Endpoint.Near.eq {own k : Nat} {e f : Endpoint} (h : e.Near (.silence own) k f) :
    f = e := by
  obtain ⟨calls, rms⟩ := h.output
  have references : f.references = e.references := h.references
  have device : f.device = e.device := by rw [← h.toAkin.device, ← calls]
  rw [← h.rest (Tolerance.strict_silence own), ← device, ← rms, ← references]

namespace Server

inductive Twin (s : Server) (own : Nat) : Operation → Operation → Prop
  | same (op : Operation) : Twin s own op op
  | write (samples others : Array Sample) : Twin s own (.write own samples) (.write own others)
  | setGain (volume other : Sample) (bursts others : UInt32) :
      Twin s own (.setGain own volume bursts) (.setGain own other others)
  | setVolume (k : Nat) (id : StreamId) (volume other : Sample)
      (aimed : ∀ site key, s.site? k = some site → site.find? id = some key → key = own) :
      Twin s own (.setVolume k id volume) (.setVolume k id other)
  | setLevel (id : StreamId) (level other : Sample)
      (aimed : ∀ k site key, s.find? id = some k → s.site? k = some site →
        site.find? id = some key → key = own) :
      Twin s own (.setLevel id level) (.setLevel id other)

-- Which channel an id stands for is told by the first session.
inductive Twins (own : Nat) : Server → List Operation → List Operation → Prop
  | nil (s : Server) : Twins own s [] []
  | cons {s : Server} {op other : Operation} {ops others : List Operation}
      (twin : s.Twin own op other) (rest : Twins own (s.perform op) ops others) :
      Twins own s (op :: ops) (other :: others)

variable {g : Tolerance} {s t : Server} {own : Nat} {op other : Operation}

structure Spares (g : Tolerance) (own : Nat) : Prop where
  lawful : g.Lawful
  channel : g.channel = Channel.Spared own
  references : ∀ k x y, g.references k x y ↔ y = x
  silent : ∀ k, g.output k #[] 0 #[] 0

theorem spares_samples (own : Nat) : Spares (.samples own) own :=
  ⟨Tolerance.lawful_samples own, rfl, fun _ _ _ => .rfl, fun _ => rfl⟩

theorem spares_silence (own : Nat) : Spares (.silence own) own :=
  ⟨Tolerance.lawful_silence own, rfl, fun _ _ _ => .rfl, fun _ => ⟨rfl, rfl⟩⟩

theorem Spares.apart (spares : Spares g own) {key : Nat} (ne : key ≠ own) (c d : Channel) :
    g.channel key c d ↔ d = c := by
  rw [spares.channel, Channel.Spared, if_neg ne]

theorem Near.spared (spares : Spares g own) (h : s.Near g t) {act other : Channel → Channel}
    (looks : ∀ c d : Channel, c.Looks d → (act c).Looks (other d)) :
    (s.actOnChannel own act).Near g (t.actOnChannel own other) := by
  refine h.actOnChannel own fun c d near => ?_
  rw [spares.channel] at near ⊢
  exact near.change act other (fun ne => absurd rfl ne) (looks c d)

theorem Near.onSpared? (spares : Spares g own) (h : s.Near g t) {act : Channel → Reply × Channel}
    (looks : ∀ c d : Channel, c.Looks d → (act d).1 = (act c).1 ∧ (act c).2.Looks (act d).2) :
    Option.Rel (Same g) (s.onChannel? own act) (t.onChannel? own act) := by
  refine h.onChannel? own fun c d near => ?_
  rw [spares.channel] at near ⊢
  obtain ⟨same, after⟩ := looks c d near.looks
  exact ⟨same, near.change (act · |>.2) (act · |>.2) (fun _ => rfl) fun _ => after⟩

theorem looks_retarget? {c d : Channel} (looks : c.Looks d) (threshold : Int) :
    Option.Rel Channel.Looks (c.retarget? threshold) (d.retarget? threshold) := by
  rw [Channel.retarget?, Channel.retarget?, Ring.retarget?, Ring.retarget?, looks.attachment]
  cases c.ring.attachment.retarget? threshold with
  | none => exact .none
  | some attachment => exact .some ⟨looks.id, looks.state, looks.events, looks.transferred, rfl⟩

theorem Near.write (spares : Spares g own) (h : s.Near g t) (samples others : Array Sample) :
    (s.perform (.write own samples)).Near g (t.perform (.write own others)) := by
  rw [perform_write, perform_write]
  exact h.spared spares fun c d looks =>
    ⟨looks.id, looks.state, looks.events, looks.transferred, looks.attachment⟩

theorem Near.setGain (spares : Spares g own) (h : s.Near g t) (volume other : Sample)
    (bursts others : UInt32) :
    (s.perform (.setGain own volume bursts)).Near g (t.perform (.setGain own other others)) := by
  rw [perform_setGain, perform_setGain]
  exact h.spared spares fun c d looks =>
    ⟨looks.id, looks.state, looks.events, looks.transferred, looks.attachment⟩

theorem Near.uses (spares : Spares g own) (h : s.Near g t) (uses : op.Uses own) :
    (¬ op.Shows own → t.reply? op = s.reply? op) ∧ (s.perform op).Near g (t.perform op) := by
  cases uses with
  | write _ samples =>
    exact ⟨fun hidden => absurd (.write own samples) hidden, h.write spares samples samples⟩
  | pop _ block =>
    rw [perform_pop, perform_pop]
    refine ⟨fun hidden => absurd (.pop own block) hidden, h.spared spares fun c d looks => ?_⟩
    exact ⟨looks.id, looks.state, looks.events, looks.transferred, looks.attachment⟩
  | setGain _ volume bursts =>
    exact ⟨fun hidden => absurd (.setGain own volume bursts) hidden,
      h.setGain spares volume volume bursts bursts⟩
  | retarget _ threshold =>
    have same : Option.Rel (Same g) (s.perform? (.retarget own threshold))
        (t.perform? (.retarget own threshold)) := by
      refine h.onSpared? spares fun c d looks => ?_
      have after := looks_retarget? looks threshold
      generalize c.retarget? threshold = first, d.retarget? threshold = second at after
      cases after with
      | none => exact ⟨rfl, looks⟩
      | some after => exact ⟨rfl, after⟩
    obtain ⟨replied, near⟩ := h.of_same same
    exact ⟨fun _ => replied, near⟩
  | drainEvents =>
    have same : Option.Rel (Same g) (s.perform? (.drainEvents own))
        (t.perform? (.drainEvents own)) := by
      simp only [Server.perform?]
      exact h.onSpared? spares fun c d looks => ⟨congrArg Reply.events looks.events,
        looks.id, looks.state, rfl, looks.transferred, looks.attachment⟩
    obtain ⟨replied, near⟩ := h.of_same same
    exact ⟨fun _ => replied, near⟩

theorem Near.twin (spares : Spares g own) (h : s.Near g t) (shaped : s.Everywhere Endpoint.Shaped)
    (twin : s.Twin own op other) (fit : s.Fit g) (after : (s.perform op).Fit g) :
    (¬ op.Shows own → t.reply? other = s.reply? op) ∧ (s.perform op).Near g (t.perform other) := by
  have gains {key : Nat} (volume other : Sample) (bursts : UInt32) (c d : Channel) (is : key = own)
      (near : g.channel key c d) :
      g.channel key (c.setVolume volume bursts) (d.setVolume other bursts) := by
    rw [spares.channel] at near ⊢
    exact near.change (·.setVolume volume bursts) (·.setVolume other bursts)
      (fun ne => absurd is ne) fun looks =>
        ⟨looks.id, looks.state, looks.events, looks.transferred, looks.attachment⟩
  cases twin with
  | same op =>
    by_cases uses : op.Uses own
    · exact h.uses spares uses
    · obtain ⟨replied, near⟩ := h.of_same (h.perform? spares.lawful shaped op fit after
        (fun key used => spares.apart fun is => uses (is ▸ used))
        fun _ k _ _ => spares.references k)
      exact ⟨fun _ => replied, near⟩
  | write samples others =>
    exact ⟨fun hidden => absurd (.write own samples) hidden, h.write spares samples others⟩
  | setGain volume other bursts others =>
    exact ⟨fun hidden => absurd (.setGain own volume bursts) hidden,
      h.setGain spares volume other bursts others⟩
  | setVolume k id volume other aimed =>
    have same : Option.Rel (Same g) (s.perform? (.setVolume k id volume))
        (t.perform? (.setVolume k id other)) := by
      refine Same.map (h.onSite? k fun u v found near => ?_) _
      exact near.setVolume spares.lawful id volume other fun key bursts c d here =>
        gains volume other bursts c d (aimed u key found here)
    obtain ⟨replied, near⟩ := h.of_same same
    exact ⟨fun _ => replied, near⟩
  | setLevel id level other aimed =>
    obtain ⟨same, near⟩ := h.setLevel spares.lawful id level other
      fun k u key bursts c d listed found here =>
        gains _ _ bursts c d (aimed k u key listed found here)
    exact ⟨fun _ => congrArg (fun set => some (Reply.flag set)) same, near⟩

theorem Near.twins (spares : Spares g own) (h : s.Near g t) (shaped : s.Everywhere Endpoint.Shaped)
    {ops others : List Operation} (twins : Twins own s ops others)
    (fit : ∀ n, (s.run (ops.take n)).Fit g) (n : Nat) :
    (s.run (ops.take n)).Near g (t.run (others.take n)) ∧
      ∀ op, ops[n]? = some op → ¬ op.Shows own →
        (t.replies others)[n]? = (s.replies ops)[n]? := by
  induction twins generalizing t n with
  | nil s =>
    simp only [List.take_nil]
    exact ⟨h, fun op there => by cases there⟩
  | @cons s op other ops others twin rest ih =>
    have begin := fit 0
    have first := fit 1
    obtain ⟨replied, near⟩ := h.twin spares shaped twin begin first
    cases n with
    | zero =>
      refine ⟨h, fun op there hidden => ?_⟩
      cases there
      exact congrArg some (replied hidden)
    | succ n =>
      exact ih near (lasting_shaped.perform shaped op) (fun n => fit (n + 1)) n

structure Isolated (own : Nat) (s t : Server) : Prop where
  endpoints : t.endpoints.map Endpoint.hushed = s.endpoints.map Endpoint.hushed
  others : ∀ key, key ≠ own → t.channels[key]? = s.channels[key]?
  own : Option.Rel Channel.Looks s.channels[own]? t.channels[own]?
  rest : { t with endpoints := s.endpoints, channels := s.channels } = s

theorem Tidy.fit (tidy : s.Tidy) : s.Fit (.samples own) := by
  intro k site found key member c there
  obtain ⟨e, channels⟩ := endpoint_of_site? found
  obtain ⟨-, -, fits⟩ := tidy k site.endpoint e
  obtain ⟨d, present, width⟩ := fits key member
  rw [channels, present] at there
  cases there
  exact width

theorem fit_of_not_runs (still : ¬ s.Runs own) : s.Fit (.silence own) := by
  intro k site found key member c there is
  subst is
  rw [(endpoint_of_site? found).2] at there
  exact Bool.eq_false_iff.mpr fun runs => still ⟨c, there, runs⟩

theorem Near.isolated (h : s.Near (.samples own) t) : Isolated own s t where
  endpoints := by
    apply Array.ext_getElem?
    intro k
    rw [Array.getElem?_map, Array.getElem?_map]
    rcases h.endpoint k with ⟨here, there⟩ | ⟨e, f, here, there, near⟩
    · rw [here, there]
    · rw [here, there, Option.map_some, Option.map_some, near.hushed]
  others key ne := by
    rcases Tolerance.channels_cases h.channels key with ⟨here, there⟩ | ⟨c, d, here, there, near⟩
    · rw [here, there]
    · rw [here, there, near.eq_of_ne ne]
  own := by
    rcases Tolerance.channels_cases h.channels own with ⟨here, there⟩ | ⟨c, d, here, there, near⟩
    · rw [here, there]
      exact .none
    · rw [here, there]
      exact .some near.looks
  rest := by
    rw [h.options, h.held, h.handles, h.nextStream, h.log, h.refused]

theorem Near.endpoints_eq (h : s.Near (.silence own) t) : t.endpoints = s.endpoints := by
  apply Array.ext_getElem?
  intro k
  rcases h.endpoint k with ⟨here, there⟩ | ⟨e, f, here, there, near⟩
  · rw [here, there]
  · rw [here, there, near.eq]

theorem Spares.near (spares : Spares g own) (options : Options) :
    Near g { options } { options } where
  options := rfl
  held := rfl
  handles := rfl
  nextStream := rfl
  log := rfl
  refused := rfl
  channels key := by simp only [Array.getElem?_empty]; exact .none
  endpoints k := by simp only [Array.getElem?_empty]; exact .none
  later k _ := ⟨spares.silent k, fun count => (spares.references k count count).mpr rfl⟩

theorem channels_are_isolated {options : Options} {own : Nat} {ops others : List Operation}
    (twins : Twins own { options } ops others) (n : Nat) :
    let s := run { options } (ops.take n)
    let t := run { options } (others.take n)
    Isolated own s t ∧
    (∀ op, ops[n]? = some op → ¬ op.Shows own →
      (replies { options } others)[n]? = (replies { options } ops)[n]?) ∧
    ((∀ n, ¬ (run { options } (ops.take n)).Runs own) → t.endpoints = s.endpoints) := by
  have shaped : Everywhere { options } Endpoint.Shaped := lasting_shaped.run options []
  have spares := spares_samples own
  obtain ⟨near, replied⟩ :=
    (spares.near options).twins spares shaped twins
      (fun n => (tidy_run options (ops.take n)).fit) n
  refine ⟨near.isolated, replied, fun still => ?_⟩
  have silent := spares_silence own
  have near := (silent.near options).twins silent shaped twins
    (fun n => fit_of_not_runs (still n)) n
  exact near.1.endpoints_eq

theorem channels_are_isolated_in_two_bursts :
    let ops (samples : Array Sample) (volume : Sample) : List Operation := [.acquire {} {},
      .createChannel 0, .createChannel 0, .register 0 0, .register 0 1, .write 0 samples,
      .setGain 0 volume 2, .write 1 #[0.5, 0.25], .start 0 ⟨1⟩, .start 0 ⟨2⟩, .grant 0 2]
    let loud := ops #[1, 1, 1, 1] 3
    let soft := ops #[0.125] 0
    Twins 0 { options := {} } loud soft ∧
      Isolated 0 (run { options := {} } loud) (run { options := {} } soft) ∧
      (replies { options := {} } soft)[10]? = (replies { options := {} } loud)[10]? := by
  intro ops loud soft
  have twins : Twins 0 { options := {} } loud soft :=
    .cons (.same _) <| .cons (.same _) <| .cons (.same _) <| .cons (.same _) <| .cons (.same _) <|
      .cons (.write ..) <| .cons (.setGain ..) <| .cons (.same _) <| .cons (.same _) <|
      .cons (.same _) <| .cons (.same _) <| .nil _
  obtain ⟨isolated, -⟩ := channels_are_isolated twins 11
  obtain ⟨-, replied, -⟩ := channels_are_isolated twins 10
  exact ⟨twins, isolated, replied _ rfl (by intro shows; cases shows)⟩

end Server

end SharedAudio

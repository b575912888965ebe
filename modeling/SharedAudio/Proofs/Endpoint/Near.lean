import SharedAudio.Proofs.Endpoint.Hearing
import SharedAudio.Proofs.Endpoint.Tolerance

namespace SharedAudio

variable {g : Tolerance} {i : Nat}

theorem rel_map {α β : Type} {r : α → α → Prop} {q : β → β → Prop} {f k : α → β}
    (step : ∀ x y, r x y → q (f x) (k y)) {a b : Option α} (h : Option.Rel r a b) :
    Option.Rel q (a.map f) (b.map k) := by
  cases h with
  | none => exact .none
  | some near => exact .some (step _ _ near)

namespace Tolerance

variable {all others : Array Channel}

theorem channels_cases (h : g.channels all others) (key : Nat) :
    all[key]? = none ∧ others[key]? = none ∨
      ∃ c d, all[key]? = some c ∧ others[key]? = some d ∧ g.channel key c d := by
  have there := h key
  generalize all[key]? = c, others[key]? = d at there
  cases there with
  | none => exact .inl ⟨rfl, rfl⟩
  | some near => exact .inr ⟨_, _, rfl, rfl, near⟩

theorem channels_modify (h : g.channels all others) (key : Nat) {change changed : Channel → Channel}
    (near : ∀ c d, g.channel key c d → g.channel key (change c) (changed d)) :
    g.channels (all.modify key change) (others.modify key changed) := by
  intro other
  rw [Array.getElem?_modify, Array.getElem?_modify]
  split
  next same =>
    subst same
    exact rel_map near (h key)
  next => exact h other

theorem channels_foldl_modify (h : g.channels all others) (keys : List Nat)
    {change : Channel → Channel}
    (near : ∀ key c d, g.channel key c d → g.channel key (change c) (change d)) :
    g.channels (keys.foldl (fun all key => all.modify key change) all)
      (keys.foldl (fun all key => all.modify key change) others) := by
  induction keys generalizing all others with
  | nil => exact h
  | cons key keys ih => exact ih (channels_modify h key (near key))

theorem size_channels (h : g.channels all others) : others.size = all.size := by
  have ends (key : Nat) : all[key]? = none ↔ others[key]? = none := by
    rcases channels_cases h key with ⟨here, there⟩ | ⟨c, d, here, there, -⟩ <;> simp [here, there]
  simp only [Array.getElem?_eq_none_iff] at ends
  exact Nat.le_antisymm ((ends all.size).mp (Nat.le_refl _))
    ((ends others.size).mpr (Nat.le_refl _))

theorem channels_set (h : g.channels all others) {key : Nat} {c d : Channel}
    (near : g.channel key c d) :
    g.channels (all.setIfInBounds key c) (others.setIfInBounds key d) := by
  intro other
  rw [Array.getElem?_setIfInBounds, Array.getElem?_setIfInBounds, size_channels h]
  split
  next same =>
    subst same
    split
    · exact .some near
    · exact .none
  next => exact h other

theorem channels_push (h : g.channels all others) {c d : Channel}
    (near : g.channel all.size c d) : g.channels (all.push c) (others.push d) := by
  intro key
  rw [Array.getElem?_push, Array.getElem?_push, size_channels h]
  split
  next same =>
    subst same
    exact .some near
  next => exact h key

structure Strict (g : Tolerance) : Prop where
  sums : ∀ p q, g.sums p q ↔ q = p
  counts : ∀ x y, g.counts x y ↔ y = x

end Tolerance

theorem Mixer.Near.eq (strict : g.Strict) {m n : Mixer} (h : m.Near g n) : n = m := by
  obtain ⟨channels, burst, sum⟩ := h
  have same := (strict.sums _ _).mp sum
  cases m
  cases n
  cases channels
  cases burst
  cases same
  rfl

namespace Endpoint.Near

variable {e f : Endpoint}

theorem phases (h : e.Near g i f) :
    (∃ owned, e.phase = .closed owned ∧ f.phase = .closed owned) ∨
    ∃ params buffer l k, e.phase = .opened ⟨params, buffer, l⟩ ∧
      f.phase = .opened ⟨params, buffer, k⟩ ∧ l.Near g k := by
  have phase := h.phase
  generalize e.phase = p, f.phase = q at phase
  cases phase with
  | closed owned => exact .inl ⟨owned, rfl, rfl⟩
  | opened params buffer near => exact .inr ⟨params, buffer, _, _, rfl, rfl, near⟩

theorem line? (h : e.Near g i f) : f.line?.map (fun l => (l.params, l.buffer)) =
    e.line?.map fun l => (l.params, l.buffer) := by
  rcases h.phases with ⟨owned, here, there⟩ | ⟨params, buffer, l, k, here, there, -⟩
  · rw [Endpoint.line?, Endpoint.line?, here, there]
  · rw [Endpoint.line?, Endpoint.line?, here, there]
    rfl

theorem isOpen (h : e.Near g i f) : f.isOpen = e.isOpen := by
  have line := congrArg Option.isSome h.line?
  rwa [Option.isSome_map, Option.isSome_map] at line

theorem ailment? (h : e.Near g i f) : f.ailment? = e.ailment? := by
  rw [Endpoint.ailment?, Endpoint.ailment?, h.health, h.lastExit]

theorem setLoop (h : e.Near g i f) {l k : Loop} (near : l.Near g k) :
    (e.setLoop l).Near g i (f.setLoop k) := by
  rw [Endpoint.setLoop_eq e, Endpoint.setLoop_eq f]
  refine { h with phase := ?_ }
  rcases h.phases with ⟨owned, here, there⟩ | ⟨params, buffer, _, _, here, there, -⟩
  · simpa only [Endpoint.setLoop, here, there] using Phase.Near.closed owned
  · simpa only [Endpoint.setLoop, here, there] using Phase.Near.opened params buffer near

theorem rest (strict : g.Strict) (h : e.Near g i f) :
    { f with device := e.device, rms := e.rms, references := e.references } = e := by
  have phase : f.phase = e.phase := by
    rcases h.phases with ⟨owned, here, there⟩ | ⟨params, buffer, l, k, here, there, near⟩
    · rw [here, there]
    · rw [here, there]
      cases near with
      | idle near | writing near | ended near => rw [near.eq strict]
      | panicked | lost => rfl
  rw [h.config, h.options, phase, h.health, h.lastExit, h.bursts,
    (strict.counts _ _).mp h.underflows, h.registered]

theorem refl (strict : g.Strict) (e : Endpoint)
    (output : g.output i e.device.calls e.rms e.device.calls e.rms)
    (references : g.references i e.references e.references) : e.Near g i e where
  config := rfl
  options := rfl
  number := rfl
  plan := rfl
  script := rfl
  output := output
  registered := rfl
  references := references
  phase := by
    have same (m : Mixer) : m.Near g m := ⟨rfl, rfl, (strict.sums _ _).mpr rfl⟩
    match e.phase with
    | .closed owned => exact .closed owned
    | .opened ⟨params, buffer, .idle m⟩ => exact .opened params buffer (.idle (same m))
    | .opened ⟨params, buffer, .writing m⟩ => exact .opened params buffer (.writing (same m))
    | .opened ⟨params, buffer, .ended m⟩ => exact .opened params buffer (.ended (same m))
    | .opened ⟨params, buffer, .panicked⟩ => exact .opened params buffer .panicked
    | .opened ⟨params, buffer, .lost flag⟩ => exact .opened params buffer (.lost flag)
  health := rfl
  lastExit := rfl
  bursts := rfl
  underflows := (strict.counts _ _).mpr rfl

end Endpoint.Near

theorem Endpoint.Akin.device {e f : Endpoint} (h : e.Akin g i f) :
    { f.device with calls := e.device.calls } = e.device := by
  simp only [h.number, h.plan, h.script]

theorem Endpoint.Akin.note (lawful : g.Lawful) {e f : Endpoint} (h : e.Akin g i f) (call : Call)
    (quiet : call.burst? = none) : { e with device := e.device.note call }.Akin g i
      { f with device := f.device.note call } :=
  { h with output := lawful.noted call quiet h.output }

namespace Site.Fit

variable {s t : Site}

theorem mono (lawful : g.Lawful) (fit : s.Fit g) (config : t.endpoint.config = s.endpoint.config)
    (registered : t.endpoint.registered = s.endpoint.registered)
    (channels : ∀ (key : Nat) d, t.channels[key]? = some d → ∃ c, s.channels[key]? = some c ∧
      (d.isRunning = true → c.isRunning = true) ∧ d.ring.attachment = c.ring.attachment) :
    t.Fit g := by
  intro key member d there
  obtain ⟨c, here, running, attachment⟩ := channels key d there
  rw [registered] at member
  rw [config]
  exact lawful.fit running attachment (fit key member c here)

theorem setLoop (fit : s.Fit g) (l : Loop) : (s.setLoop l).Fit g := by
  intro key member c there
  rw [endpoint_setLoop, Endpoint.registered_setLoop] at member
  rw [endpoint_setLoop, Endpoint.config_setLoop]
  exact fit key member c there

theorem finish (lawful : g.Lawful) (fit : s.Fit g) (exit : LoopExit) : (s.finish exit).Fit g := by
  obtain ⟨health, endpoint⟩ := s.endpoint_finish exit
  refine fit.mono lawful (by rw [endpoint]) (by rw [endpoint]) fun key d there => ?_
  have struck (e : StreamEvent) (stops : e ≠ .started)
      (there : (s.modifyRegistered (·.enter e)).channels[key]? = some d) :
      ∃ c, s.channels[key]? = some c ∧ (d.isRunning = true → c.isRunning = true) ∧
        d.ring.attachment = c.ring.attachment := by
    rw [getElem?_modifyRegistered fun c => c.enter_enter e] at there
    split at there
    · obtain ⟨c, here, rfl⟩ := Option.map_eq_some_iff.mp there
      exact ⟨c, here, Channel.isRunning_enter stops, by rw [c.ring_enter]⟩
    · exact ⟨d, there, id, rfl⟩
  cases exit with
  | stopped => exact ⟨d, there, id, rfl⟩
  | disconnected => exact struck .disconnected (by simp) there
  | shortWrite written requested => exact struck (.faulted _) (by simp) there
  | writeFailed reason => exact struck (.faulted _) (by simp) there

theorem delivered (lawful : g.Lawful) (fit : s.Fit g) {params : HardwareParams} {m : Mixer}
    {delivery : Delivery} (went : s.Delivered params m delivery t) : t.Fit g := by
  obtain ⟨device, bursts, rms, rfl⟩ := went.rest
  exact fit.mono lawful rfl rfl fun key d there => ⟨d, there, id, rfl⟩

theorem form_mix (s : Site) (m : Mixer) (key : Nat) :
    (s.mix m).2.channels[key]?.map (fun c => (c.state, c.ring.attachment)) =
      s.channels[key]?.map fun c => (c.state, c.ring.attachment) :=
  Mixing.form_foldl_take ⟨some m.clear, s.channels, s.endpoint.underflows⟩ _ key

theorem of_form {all others : Array Channel} {key : Nat} {d : Channel}
    (same : others[key]?.map (fun c => (c.state, c.ring.attachment)) =
      all[key]?.map fun c => (c.state, c.ring.attachment)) (there : others[key]? = some d) :
    ∃ c, all[key]? = some c ∧ (d.isRunning = true → c.isRunning = true) ∧
      d.ring.attachment = c.ring.attachment := by
  rw [there] at same
  obtain ⟨c, here, form⟩ := Option.map_eq_some_iff.mp same.symm
  simp only [Prod.mk.injEq] at form
  exact ⟨c, here, by rw [Channel.isRunning, Channel.isRunning, form.1]; exact id, form.2.symm⟩

theorem continueLoop (lawful : g.Lawful) (fit : s.Fit g) (m : Mixer) :
    (s.continueLoop m).Fit g := by
  have mixed : (s.mix m).2.Fit g :=
    fit.mono lawful rfl rfl fun key d => of_form (form_mix s m key)
  rw [Site.continueLoop]
  split
  next eq =>
    rw [eq] at mixed
    exact mixed.setLoop _
  next eq =>
    rw [eq] at mixed
    exact mixed.setLoop _

theorem of_continueLoop (lawful : g.Lawful) {m : Mixer} (fit : (s.continueLoop m).Fit g) :
    s.Fit g := by
  have eases := s.eases_continueLoop m
  refine fit.mono lawful eases.config.symm eases.registered.symm fun key d => of_form ?_
  rw [channels_continueLoop]
  exact (form_mix s m key).symm

theorem granted (lawful : g.Lawful) (fit : s.Fit g) (granted : s.Granted t) : t.Fit g := by
  cases granted with
  | delivered line m u opened loop went => exact (fit.delivered lawful went).continueLoop lawful m
  | failed line m exit u opened loop went =>
    exact ((fit.delivered lawful went).finish lawful exit).setLoop _
  | died line m u opened loop went => exact (fit.delivered lawful went).setLoop _

end Site.Fit

namespace Site.Near

variable {s t : Site}

theorem announce (h : s.Near g i t) (what : String) :
    (s.announce what).Near g i (t.announce what) := by
  refine ⟨?_, ?_, ?_⟩
  · rw [endpoint_announce, endpoint_announce]
    exact h.endpoint
  · rw [channels_announce, channels_announce]
    exact h.channels
  · rw [Site.announce, Site.announce, Site.note, Site.note, h.log, h.endpoint.config]

theorem setLoop (h : s.Near g i t) {l k : Loop} (near : l.Near g k) :
    (s.setLoop l).Near g i (t.setLoop k) :=
  ⟨h.endpoint.setLoop near, h.channels, h.log⟩

theorem modifyChannel (h : s.Near g i t) (key : Nat) {change changed : Channel → Channel}
    (near : ∀ c d, g.channel key c d → g.channel key (change c) (changed d)) :
    (s.modifyChannel key change).Near g i (t.modifyChannel key changed) :=
  ⟨h.endpoint, Tolerance.channels_modify h.channels key near, h.log⟩

theorem enterAll (lawful : g.Lawful) (h : s.Near g i t) (e : StreamEvent) :
    (s.modifyRegistered (·.enter e)).Near g i (t.modifyRegistered (·.enter e)) := by
  refine ⟨h.endpoint, ?_, h.log⟩
  rw [modifyRegistered, modifyRegistered, h.endpoint.registered]
  exact Tolerance.channels_foldl_modify h.channels _ fun _ _ _ => lawful.enter e

theorem map_channel (h : s.Near g i t) (key : Nat) {β : Type} {view : Channel → β}
    (same : ∀ c d, g.channel key c d → view d = view c) :
    t.channels[key]?.map view = s.channels[key]?.map view := by
  rcases Tolerance.channels_cases h.channels key with ⟨here, there⟩ | ⟨c, d, here, there, near⟩
  · rw [here, there]
  · rw [here, there]
    exact congrArg some (same c d near)

theorem map_registered (h : s.Near g i t) {β : Type} {view : Channel → β}
    (same : ∀ key c d, g.channel key c d → view d = view c) :
    t.registered.map view = s.registered.map view := by
  simp only [registered, List.map_filterMap, h.endpoint.registered]
  congr 1
  funext key
  exact h.map_channel key (same key)

theorem ids (lawful : g.Lawful) (h : s.Near g i t) : t.ids = s.ids :=
  h.map_registered fun _ _ _ => lawful.id

theorem find? (lawful : g.Lawful) (h : s.Near g i t) (id : StreamId) : t.find? id = s.find? id := by
  rw [Site.find?, Site.find?, h.endpoint.registered]
  congr 1
  funext key
  rw [idOf?, idOf?, h.map_channel key fun _ _ => lawful.id]

theorem isRunning (lawful : g.Lawful) {key : Nat} {c d : Channel} (near : g.channel key c d) :
    d.isRunning = c.isRunning := by
  rw [Channel.isRunning, Channel.isRunning, lawful.state near]

theorem running (lawful : g.Lawful) (h : s.Near g i t) : t.running.isEmpty = s.running.isEmpty := by
  have flags := h.map_registered fun _ _ _ => isRunning lawful
  have any (u : Site) : u.running.isEmpty = !(u.registered.map Channel.isRunning).any id := by
    rw [Bool.eq_iff_iff]
    simp [Site.running, List.isEmpty_iff, List.filter_eq_nil_iff]
  rw [any, any, flags]

theorem mix (lawful : g.Lawful) (h : s.Near g i t) {m n : Mixer} (near : m.Near g n)
    (shaped : m.Shaped)
    (fit : ∀ key ∈ s.endpoint.registered, ∀ c, s.channels[key]? = some c →
      g.fit key m.channels c) :
    Option.Rel (Mixer.Near g) (s.mix m).1 (t.mix n).1 ∧ (s.mix m).2.Near g i (t.mix n).2 := by
  have begun : Mixing.Near g ⟨some m.clear, s.channels, s.endpoint.underflows⟩
      ⟨some n.clear, t.channels, t.endpoint.underflows⟩ :=
    ⟨.some ⟨near.channels, near.burst, lawful.cleared near.sum⟩, h.channels,
      h.endpoint.underflows⟩
  have fits : ∀ key ∈ s.endpoint.registered,
      Mixing.Fit g ⟨some m.clear, s.channels, s.endpoint.underflows⟩ key := by
    intro key member mixer c is there
    cases is
    exact ⟨by rw [Mixer.Shaped, Mixer.size_clear]; exact shaped, fit key member c there⟩
  have done := begun.foldl lawful fits
  rw [Site.mix, Site.mix, h.endpoint.registered, h.endpoint.options]
  refine ⟨?_, { h.endpoint with underflows := done.underflows }, done.channels, h.log⟩
  exact rel_map (fun _ _ mixed => ⟨mixed.channels, mixed.burst, lawful.limited _ mixed.sum⟩)
    done.mixer

theorem continueLoop (lawful : g.Lawful) (h : s.Near g i t) {m n : Mixer} (near : m.Near g n)
    {line : Line} (opened : s.endpoint.phase = .opened line) (has : line.loop.mixer? = some m)
    (shaped : s.endpoint.Shaped) (fit : s.Fit g) :
    (s.continueLoop m).Near g i (t.continueLoop n) := by
  have width := (shaped line m opened has).1
  have own := Mixer.shaped_of_opened shaped opened has
  obtain ⟨mixed, rest⟩ := h.mix lawful near own fun key member c there =>
    width ▸ fit key member c there
  rw [Site.continueLoop, Site.continueLoop]
  generalize s.mix m = first, t.mix n = second at mixed rest
  obtain ⟨p, s⟩ := first
  obtain ⟨q, t⟩ := second
  cases mixed with
  | none => exact rest.setLoop .panicked
  | some mixed => exact rest.setLoop (.writing mixed)

theorem deliver (lawful : g.Lawful) (h : s.Near g i t) {m n : Mixer} (near : m.Near g n)
    (params : HardwareParams) : ∃ delivery u v, s.deliver params m = (delivery, u) ∧
      t.deliver params n = (delivery, v) ∧ u.Near g i v := by
  have timeout : t.endpoint.writeTimeout params = s.endpoint.writeTimeout params := by
    rw [Endpoint.writeTimeout, Endpoint.writeTimeout, h.endpoint.options]
  simp only [Site.deliver, Device.write, h.endpoint.script, timeout]
  generalize (s.endpoint.device.script.head?.getD .full).answer params.burst = answer
  by_cases delivered : answer = .accepted params.burst
  · rw [Delivery.ofAnswer_eq_delivered.mpr delivered, delivered]
    exact ⟨_, _, _, rfl, rfl, { h.endpoint with
      script := rfl
      output := lawful.delivered _ _ near.sum h.endpoint.output
      bursts := congrArg (· + 1) h.endpoint.bursts }, h.channels, h.log⟩
  · have other : Delivery.ofAnswer params.burst answer ≠ .delivered :=
      mt Delivery.ofAnswer_eq_delivered.mp delivered
    have output := lawful.wrote params.burst (s.endpoint.writeTimeout params) answer delivered
      near.sum h.endpoint.output
    cases went : Delivery.ofAnswer params.burst answer with
    | delivered => exact absurd went other
    | failed exit =>
      exact ⟨_, _, _, rfl, rfl, { h.endpoint with script := rfl, output }, h.channels, h.log⟩
    | died =>
      exact ⟨_, _, _, rfl, rfl, { h.endpoint with script := rfl, output }, h.channels, h.log⟩

theorem finish (lawful : g.Lawful) (h : s.Near g i t) (exit : LoopExit) :
    (s.finish exit).Near g i (t.finish exit) := by
  have struck (e : StreamEvent) := h.enterAll lawful e
  cases exit with
  | stopped => exact ⟨{ h.endpoint with lastExit := rfl }, h.channels, h.log⟩
  | disconnected =>
    exact ⟨{ (struck .disconnected).endpoint with health := rfl, lastExit := rfl },
      (struck .disconnected).channels, congrArg (Log.push · _) h.log⟩
  | shortWrite written requested =>
    exact ⟨{ (struck _).endpoint with health := rfl, lastExit := rfl }, (struck _).channels,
      congrArg (Log.push · _) h.log⟩
  | writeFailed reason =>
    exact ⟨{ (struck _).endpoint with health := rfl, lastExit := rfl }, (struck _).channels,
      congrArg (Log.push · _) h.log⟩

theorem joinPanicked (lawful : g.Lawful) (h : s.Near g i t) (flag : Bool) :
    (s.joinPanicked flag).Near g i (t.joinPanicked flag) := by
  have faulted := h.enterAll lawful (.faulted panicReason)
  have ill : Site.Near g i
      { s.faultAll panicReason with endpoint := { s.endpoint with
        health := .faulted
        lastExit := some (.writeFailed panicReason) } }
      { t.faultAll panicReason with endpoint := { t.endpoint with
        health := .faulted
        lastExit := some (.writeFailed panicReason) } } :=
    ⟨{ faulted.endpoint with health := rfl, lastExit := rfl }, faulted.channels, faulted.log⟩
  exact ill.setLoop (.lost flag)

end Site.Near

end SharedAudio

import Mathlib.Algebra.GroupWithZero.Nat
import Mathlib.Data.List.Induction
import SharedAudio.Hardware.NullSink

namespace SharedAudio

inductive SinkCall
  | create
  | start (sink : Nat) (config : StreamConfig)
  | write (sink : Nat) (samples : Array Sample) (frames : UInt64)
  | unplug
  | close (sink : Nat)

inductive SinkEvent
  | created (sink : Nat)
  | started (sink : Nat) (config : StreamConfig) (answer : Except HardwareError HardwareParams)
  | wrote (sink : Nat) (samples : Array Sample) (frames : UInt64)
      (answer : Except NullSink.Overflow (Except HardwareError UInt64))
  | unplugged
  | closed (sink : Nat)

namespace SinkEvent

def takes : SinkEvent → Bool
  | .wrote _ _ _ (.ok (.error .disconnected)) => true
  | _ => false

def turns (sink : Nat) : SinkEvent → Bool
  | .started i _ (.ok _) => i == sink
  | .wrote i _ _ (.ok (.error .disconnected)) => i == sink
  | .closed i => i == sink
  | _ => false

-- The probe counts a burst before it is known how long that lasts.
def counted? : SinkEvent → Option UInt64
  | .wrote _ _ frames (.ok (.ok _)) => some frames
  | .wrote _ _ frames (.error .period) => some frames
  | _ => none

def Since (e : SinkEvent) (ends : SinkEvent → Bool) (past : List SinkEvent) : Prop :=
  ∃ before later, past = before ++ e :: later ∧ ∀ x ∈ later, ends x = false

def Pending (past : List SinkEvent) : Prop := Since .unplugged takes past

def OpenWith (sink : Nat) (config : StreamConfig) (past : List SinkEvent) : Prop :=
  ∃ params, Since (.started sink config (.ok params)) (turns sink) past

def Opened (sink : Nat) (past : List SinkEvent) : Prop := ∃ config, OpenWith sink config past

def Heard (past : List SinkEvent) (samples : Array Sample) (size : Nat) : Prop :=
  ∃ before sink config frames answer later,
    past = before ++ .wrote sink samples frames answer :: later ∧
    (wrote sink samples frames answer).counted? = some frames ∧
    (∀ x ∈ later, x.counted? = none) ∧ OpenWith sink config before ∧
    size = frames.toNat * config.channels.toNat

variable {e x : SinkEvent} {ends : SinkEvent → Bool} {past : List SinkEvent} {sink : Nat}
  {config : StreamConfig}

theorem split_concat {before later : List SinkEvent}
    (eq : past ++ [x] = before ++ e :: later) :
    past = before ∧ x = e ∧ later = [] ∨
      ∃ rest, later = rest ++ [x] ∧ past = before ++ e :: rest := by
  rcases List.eq_nil_or_concat later with rfl | ⟨rest, y, rfl⟩
  · obtain ⟨same, last⟩ := List.append_inj' eq rfl
    exact .inl ⟨same, List.singleton_inj.mp last, rfl⟩
  · rw [List.concat_eq_append, ← List.cons_append, ← List.append_assoc] at eq
    obtain ⟨same, last⟩ := List.append_inj' eq rfl
    exact .inr ⟨rest, by rw [List.concat_eq_append, last], same⟩

theorem forall_mem_concat {P : SinkEvent → Prop} (h : ∀ y ∈ past, P y) (last : P x) :
    ∀ y ∈ past ++ [x], P y :=
  List.forall_mem_append.mpr ⟨h, List.forall_mem_singleton.mpr last⟩

theorem not_since_nil : ¬ Since e ends [] := by
  rintro ⟨before, later, eq, -⟩
  exact List.append_ne_nil_of_right_ne_nil before (List.cons_ne_nil e later) eq.symm

theorem since_concat : Since e ends (past ++ [x]) ↔ x = e ∨ ends x = false ∧ Since e ends past := by
  constructor
  · rintro ⟨before, later, eq, still⟩
    rcases split_concat eq with ⟨-, same, -⟩ | ⟨rest, rfl, same⟩
    · exact .inl same
    · exact .inr ⟨still x (by simp), before, rest, same, fun y member => still y (by simp [member])⟩
  · rintro (rfl | ⟨still, before, later, rfl, none⟩)
    · exact ⟨past, [], rfl, List.forall_mem_nil _⟩
    · exact ⟨before, later ++ [x], by simp, forall_mem_concat none still⟩

theorem openWith_concat : OpenWith sink config (past ++ [x]) ↔
    (∃ params, x = .started sink config (.ok params)) ∨
      x.turns sink = false ∧ OpenWith sink config past := by
  simp only [OpenWith, since_concat, exists_or, exists_and_left]

theorem openWith_concat_of_still (still : x.turns sink = false) :
    OpenWith sink config (past ++ [x]) ↔ OpenWith sink config past := by
  rw [openWith_concat]
  refine ⟨?_, fun kept => .inr ⟨still, kept⟩⟩
  rintro (⟨params, rfl⟩ | ⟨-, kept⟩)
  · simp [turns] at still
  · exact kept

theorem pending_concat_of_still (other : x ≠ .unplugged) (still : x.takes = false) :
    Pending (past ++ [x]) ↔ Pending past := by
  rw [Pending, since_concat, still]
  simp [other, Pending]

theorem Heard.concat {samples : Array Sample} {size : Nat} (h : Heard past samples size)
    (still : x.counted? = none) : Heard (past ++ [x]) samples size := by
  obtain ⟨before, sink, config, frames, answer, later, rfl, counted, none, opened, rfl⟩ := h
  exact ⟨before, sink, config, frames, answer, later ++ [x], by simp, counted,
    forall_mem_concat none still, opened, rfl⟩

theorem heard_concat {samples : Array Sample} {frames : UInt64}
    {answer : Except NullSink.Overflow (Except HardwareError UInt64)}
    (counted : (wrote sink samples frames answer).counted? = some frames)
    (opened : OpenWith sink config past) :
    Heard (past ++ [.wrote sink samples frames answer]) samples
      (frames.toNat * config.channels.toNat) :=
  ⟨past, sink, config, frames, answer, [], rfl, counted, List.forall_mem_nil _, opened, rfl⟩

theorem unplugged_mem_of_pending {before between : List SinkEvent} (takes : e.takes = true)
    (pending : Pending (before ++ e :: between)) : .unplugged ∈ between := by
  induction between using List.reverseRecOn with
  | nil =>
    rcases since_concat.mp pending with rfl | ⟨still, -⟩
    · cases takes
    · rw [takes] at still
      cases still
  | append_singleton between x ih =>
    rw [← List.cons_append, ← List.append_assoc] at pending
    rcases since_concat.mp pending with rfl | ⟨-, pending⟩
    · exact List.mem_append_right _ (List.mem_singleton.mpr rfl)
    · exact List.mem_append_left _ (ih pending)

end SinkEvent

namespace NullFactory

def serve? (f : NullFactory) : SinkCall → Option (SinkEvent × NullFactory)
  | .create =>
    let (i, next) := f.create
    some (.created i, next)
  | .start i config => f.onSink i fun sink probe =>
    let (answer, sink) := sink.start config
    (.started i config answer, sink, probe)
  | .write i samples frames => f.onSink i fun sink probe =>
    let (answer, sink, probe) := sink.write probe samples frames
    (.wrote i samples frames answer, sink, probe)
  | .unplug => some (.unplugged, { f with probe := f.probe.unplug })
  | .close i => f.onSink i fun sink probe => (.closed i, sink.close, probe)

def setSink (f : NullFactory) (i : Nat) (s : NullSink) : NullFactory :=
  { f with sinks := f.sinks.setIfInBounds i s }

def hear (f : NullFactory) (s : NullSink) (samples : Array Sample) (frames : UInt64) :
    NullFactory :=
  { f with probe := { f.probe with
    framesWritten := f.probe.framesWritten + frames
    lastRms := Sample.rms (samples.extract 0 (frames.toNat * s.channels.toNat)) } }

inductive Step (f : NullFactory) : SinkEvent → NullFactory → Prop
  | created : Step f (.created f.sinks.size) { f with sinks := f.sinks.push {} }
  | started {i : Nat} {s : NullSink} {config : StreamConfig} (found : f.sinks[i]? = some s)
      (suits : NullSink.objection? config = none) :
      Step f (.started i config (.ok (NullSink.params config)))
        (f.setSink i ⟨config.channels, true⟩)
  | rejected {i : Nat} {s : NullSink} {config : StreamConfig} {reason : String}
      (found : f.sinks[i]? = some s) (objection : NullSink.objection? config = some reason) :
      Step f (.started i config (.error (.unsupported reason))) f
  | refused {i : Nat} {s : NullSink} {samples : Array Sample} {frames : UInt64}
      (found : f.sinks[i]? = some s) (shut : s.isOpen = false) :
      Step f (.wrote i samples frames (.ok (.error (.device "stream not open")))) f
  | taken {i : Nat} {s : NullSink} {samples : Array Sample} {frames : UInt64}
      (found : f.sinks[i]? = some s) (opened : s.isOpen = true)
      (pending : f.probe.unplugged = true) :
      Step f (.wrote i samples frames (.ok (.error .disconnected)))
        { f.setSink i s.close with probe := { f.probe with unplugged := false } }
  | uncounted {i : Nat} {s : NullSink} {samples : Array Sample} {frames : UInt64}
      (found : f.sinks[i]? = some s) (opened : s.isOpen = true)
      (plugged : f.probe.unplugged = false)
      (large : UInt64.size ≤ frames.toNat * s.channels.toNat) :
      Step f (.wrote i samples frames (.error .samples)) f
  | overran {i : Nat} {s : NullSink} {samples : Array Sample} {frames : UInt64}
      (found : f.sinks[i]? = some s) (opened : s.isOpen = true)
      (plugged : f.probe.unplugged = false)
      (fits : frames.toNat * s.channels.toNat < UInt64.size)
      (long : UInt64.size ≤ frames.toNat * 1000000000) :
      Step f (.wrote i samples frames (.error .period)) (f.hear s samples frames)
  | accepted {i : Nat} {s : NullSink} {samples : Array Sample} {frames : UInt64}
      (found : f.sinks[i]? = some s) (opened : s.isOpen = true)
      (plugged : f.probe.unplugged = false)
      (fits : frames.toNat * s.channels.toNat < UInt64.size)
      (short : frames.toNat * 1000000000 < UInt64.size) :
      Step f (.wrote i samples frames (.ok (.ok frames))) (f.hear s samples frames)
  | unplugged : Step f .unplugged { f with probe := f.probe.unplug }
  | closed {i : Nat} {s : NullSink} (found : f.sinks[i]? = some s) :
      Step f (.closed i) (f.setSink i s.close)

variable {f g : NullFactory} {i : Nat} {s : NullSink} {event : SinkEvent}

theorem setSink_of_found (found : f.sinks[i]? = some s) : f.setSink i s = f := by
  obtain ⟨inside, rfl⟩ := Array.getElem?_eq_some_iff.mp found
  rw [setSink, Array.setIfInBounds_def, dif_pos inside, Array.set_getElem_self]

theorem step_start (found : f.sinks[i]? = some s) (config : StreamConfig) :
    ∃ answer next, f.serve? (.start i config) = some (.started i config answer, next) ∧
      f.Step (.started i config answer) next := by
  have served : f.serve? (.start i config) = some (.started i config (s.start config).1,
      f.setSink i (s.start config).2) := by
    rw [serve?, onSink, found]
    rfl
  refine ⟨_, _, served, ?_⟩
  cases objection : NullSink.objection? config with
  | none =>
    rw [NullSink.start, objection]
    exact .started found objection
  | some reason =>
    rw [NullSink.start_of_objection objection, setSink_of_found found]
    exact .rejected found objection

theorem step_write (found : f.sinks[i]? = some s) (samples : Array Sample) (frames : UInt64) :
    ∃ answer next, f.serve? (.write i samples frames) =
        some (.wrote i samples frames answer, next) ∧
      f.Step (.wrote i samples frames answer) next := by
  have served : f.serve? (.write i samples frames) =
      some (.wrote i samples frames (s.write f.probe samples frames).1,
        { f.setSink i (s.write f.probe samples frames).2.1 with
          probe := (s.write f.probe samples frames).2.2 }) := by
    rw [serve?, onSink, found]
    rfl
  refine ⟨_, _, served, ?_⟩
  cases opened : s.isOpen with
  | false =>
    rw [NullSink.write_closed opened, setSink_of_found found]
    exact .refused found opened
  | true =>
    cases pending : f.probe.unplugged with
    | true =>
      simp only [NullSink.write, opened, pending, Bool.not_true, Bool.false_eq_true, if_false,
        if_true]
      exact .taken found opened pending
    | false =>
      simp only [NullSink.write, opened, pending, Bool.not_true, Bool.false_eq_true, if_false]
      cases counted : Word.mul? frames s.channels with
      | none =>
        rw [setSink_of_found found]
        exact .uncounted found opened pending (Word.mul?_eq_none.mp counted)
      | some count =>
        have count := Word.mul?_eq_some.mp counted
        have fits : frames.toNat * s.channels.toNat < UInt64.size := count ▸ UInt64.toNat_lt _
        cases lasts : Word.mul? frames 1000000000 with
        | none =>
          simp only [setSink_of_found found, count]
          exact pending ▸ .overran found opened pending fits (Word.mul?_eq_none.mp lasts)
        | some period =>
          have short := Word.mul?_eq_some.mp lasts
          simp only [setSink_of_found found, count]
          exact pending ▸ .accepted found opened pending fits (short ▸ UInt64.toNat_lt _)

theorem step_of_serve? {call : SinkCall} (served : f.serve? call = some (event, g)) :
    f.Step event g := by
  cases call with
  | create =>
    cases served
    exact .created
  | start i config =>
    obtain ⟨s, found, -⟩ := Option.map_eq_some_iff.mp served
    obtain ⟨answer, next, same, step⟩ := step_start found config
    cases served.symm.trans same
    exact step
  | write i samples frames =>
    obtain ⟨s, found, -⟩ := Option.map_eq_some_iff.mp served
    obtain ⟨answer, next, same, step⟩ := step_write found samples frames
    cases served.symm.trans same
    exact step
  | unplug =>
    cases served
    exact .unplugged
  | close i =>
    obtain ⟨s, found, same⟩ := Option.map_eq_some_iff.mp served
    cases same
    exact .closed found

def sink (f : NullFactory) (i : Nat) : NullSink := (f.sinks[i]?).getD {}

theorem sink_of_found (found : f.sinks[i]? = some s) : f.sink i = s := by
  rw [sink, found, Option.getD_some]

theorem sink_push (f : NullFactory) (j : Nat) :
    ({ f with sinks := f.sinks.push {} } : NullFactory).sink j = f.sink j := by
  rw [sink, sink, Array.getElem?_push]
  split
  next last => rw [last, Array.getElem?_eq_none (Nat.le_refl _)]; rfl
  next => rfl

theorem sink_setSink (found : f.sinks[i]? = some s) (t : NullSink) (j : Nat) :
    (f.setSink i t).sink j = if i = j then t else f.sink j := by
  have inside := (Array.getElem?_eq_some_iff.mp found).1
  rw [sink, setSink, Array.getElem?_setIfInBounds]
  split
  next => rfl
  next => rfl

end NullFactory

open SinkEvent

structure NullSink.Shown (s : NullSink) (i : Nat) (past : List SinkEvent) : Prop where
  isOpen : s.isOpen = true ↔ Opened i past
  channels : ∀ config, OpenWith i config past → s.channels = config.channels

namespace NullSink.Shown

variable {s : NullSink} {i : Nat} {past : List SinkEvent} {x : SinkEvent}

theorem still (h : s.Shown i past) (still : x.turns i = false) : s.Shown i (past ++ [x]) := by
  constructor
  · simp only [Opened, openWith_concat_of_still still]
    exact h.isOpen
  · simp only [openWith_concat_of_still still]
    exact h.channels

theorem started (config : StreamConfig) (params : HardwareParams) (past : List SinkEvent) :
    Shown ⟨config.channels, true⟩ i (past ++ [.started i config (.ok params)]) := by
  have turns : (SinkEvent.started i config (.ok params)).turns i = true := beq_self_eq_true i
  have own : OpenWith i config (past ++ [.started i config (.ok params)]) :=
    openWith_concat.mpr (.inl ⟨params, rfl⟩)
  refine ⟨iff_of_true rfl ⟨config, own⟩, fun other opened => ?_⟩
  rcases openWith_concat.mp opened with ⟨_, same⟩ | ⟨still, -⟩
  · cases same
    rfl
  · rw [turns] at still
    cases still

theorem of_not_openWith (shut : s.isOpen = false) (none : ∀ config, ¬ OpenWith i config past) :
    s.Shown i past where
  isOpen := iff_of_false (Bool.eq_false_iff.mp shut) fun ⟨config, opened⟩ => none config opened
  channels config opened := absurd opened (none config)

theorem shut (turns : x.turns i = true)
    (other : ∀ config params, x ≠ .started i config (.ok params)) (s : NullSink)
    (past : List SinkEvent) : s.close.Shown i (past ++ [x]) := by
  refine of_not_openWith rfl fun config opened => ?_
  rcases openWith_concat.mp opened with ⟨params, same⟩ | ⟨still, -⟩
  · exact other config params same
  · rw [turns] at still
    cases still

end NullSink.Shown

structure Probe.Metered (p : Probe) (past : List SinkEvent) : Prop where
  frames : p.framesWritten.toNat =
    ((past.filterMap counted?).map UInt64.toNat).sum % 2 ^ 64
  level : ((∀ x ∈ past, x.counted? = none) ∧ p.lastRms = 0) ∨
    ∃ samples size, Heard past samples size ∧ p.lastRms = Sample.rms (samples.extract 0 size)

namespace Probe.Metered

variable {p q : Probe} {past : List SinkEvent} {x : SinkEvent}

theorem still (h : p.Metered past) (still : x.counted? = none)
    (frames : q.framesWritten = p.framesWritten) (level : q.lastRms = p.lastRms) :
    q.Metered (past ++ [x]) := by
  constructor
  · rw [frames, h.frames, List.filterMap_append]
    simp [still]
  · rw [level]
    rcases h.level with ⟨silent, zero⟩ | ⟨samples, size, heard, rms⟩
    · exact .inl ⟨forall_mem_concat silent still, zero⟩
    · exact .inr ⟨samples, size, heard.concat still, rms⟩

theorem hear (h : p.Metered past) {i : Nat} {config : StreamConfig}
    (opened : OpenWith i config past) {samples : Array Sample} {frames : UInt64}
    {answer : Except NullSink.Overflow (Except HardwareError UInt64)}
    (counted : (SinkEvent.wrote i samples frames answer).counted? = some frames) :
    Metered { p with
      framesWritten := p.framesWritten + frames
      lastRms := Sample.rms (samples.extract 0 (frames.toNat * config.channels.toNat)) }
      (past ++ [.wrote i samples frames answer]) := by
  constructor
  · rw [UInt64.toNat_add, h.frames, List.filterMap_append, List.map_append, List.sum_append]
    simp [counted]
  · exact .inr ⟨samples, _, heard_concat counted opened, rfl⟩

end Probe.Metered

namespace NullFactory

structure Sound (f : NullFactory) (past : List SinkEvent) : Prop where
  shown : ∀ i, (f.sink i).Shown i past
  pending : f.probe.unplugged = true ↔ Pending past
  metered : f.probe.Metered past

variable {f g : NullFactory} {i : Nat} {s t : NullSink} {event x : SinkEvent}
  {past : List SinkEvent}

theorem sound_new : ({} : NullFactory).Sound [] where
  shown _ := .of_not_openWith rfl fun _ ⟨_, since⟩ => not_since_nil since
  pending := iff_of_false Bool.false_ne_true not_since_nil
  metered := ⟨rfl, .inl ⟨List.forall_mem_nil _, rfl⟩⟩

theorem Sound.setSink (h : f.Sound past) (found : f.sinks[i]? = some s)
    (own : t.Shown i (past ++ [x])) (others : ∀ j, i ≠ j → x.turns j = false) (j : Nat) :
    ((f.setSink i t).sink j).Shown j (past ++ [x]) := by
  rw [sink_setSink found]
  split
  next same => exact same ▸ own
  next other => exact (h.shown j).still (others j other)

theorem Sound.quiet (h : f.Sound past) (probe : g.probe = f.probe)
    (shown : ∀ i, (g.sink i).Shown i (past ++ [x])) (other : x ≠ .unplugged)
    (still : x.takes = false) (silent : x.counted? = none) : g.Sound (past ++ [x]) := by
  refine ⟨shown, ?_, ?_⟩
  · rw [probe, pending_concat_of_still other still]
    exact h.pending
  · rw [probe]
    exact h.metered.still silent rfl rfl

theorem Sound.hear (h : f.Sound past) (found : f.sinks[i]? = some s) (opened : s.isOpen = true)
    {samples : Array Sample} {frames : UInt64}
    {answer : Except NullSink.Overflow (Except HardwareError UInt64)}
    (counted : (SinkEvent.wrote i samples frames answer).counted? = some frames)
    (takes : (SinkEvent.wrote i samples frames answer).takes = false)
    (still : ∀ j, (SinkEvent.wrote i samples frames answer).turns j = false) :
    (f.hear s samples frames).Sound (past ++ [.wrote i samples frames answer]) := by
  have shown := h.shown i
  rw [sink_of_found found] at shown
  obtain ⟨config, last⟩ := shown.isOpen.mp opened
  refine ⟨fun j => (h.shown j).still (still j), ?_, ?_⟩
  · rw [pending_concat_of_still (by simp) takes]
    exact h.pending
  · rw [NullFactory.hear, shown.channels config last]
    exact h.metered.hear last counted

theorem Sound.step (h : f.Sound past) (step : f.Step event g) : g.Sound (past ++ [event]) := by
  cases step with
  | created =>
    refine h.quiet rfl (fun i => ?_) (by simp) rfl rfl
    rw [sink_push]
    exact (h.shown i).still rfl
  | @started i s config found suits =>
    have own := NullSink.Shown.started (i := i) config (NullSink.params config) past
    exact h.quiet rfl (h.setSink found own fun j other => beq_false_of_ne other) (by simp) rfl rfl
  | rejected found objection =>
    exact h.quiet rfl (fun j => (h.shown j).still rfl) (by simp) rfl rfl
  | refused found shut =>
    exact h.quiet rfl (fun j => (h.shown j).still rfl) (by simp) rfl rfl
  | @taken i s samples frames found opened pending =>
    have turns : (SinkEvent.wrote i samples frames (.ok (.error .disconnected))).turns i = true :=
      beq_self_eq_true i
    have own := NullSink.Shown.shut turns (by simp) s past
    refine ⟨h.setSink found own fun j other => beq_false_of_ne other, ?_,
      h.metered.still rfl rfl rfl⟩
    refine iff_of_false Bool.false_ne_true fun still => ?_
    rcases since_concat.mp still with same | ⟨still, -⟩
    · cases same
    · cases still
  | uncounted => exact h.quiet rfl (fun j => (h.shown j).still rfl) (by simp) rfl rfl
  | overran found opened => exact h.hear found opened rfl rfl fun j => rfl
  | accepted found opened => exact h.hear found opened rfl rfl fun j => rfl
  | unplugged =>
    exact ⟨fun j => (h.shown j).still rfl, iff_of_true rfl (since_concat.mpr (.inl rfl)),
      h.metered.still rfl rfl rfl⟩
  | @closed i s found =>
    have turns : (SinkEvent.closed i).turns i = true := beq_self_eq_true i
    have own := NullSink.Shown.shut turns (by simp) s past
    exact h.quiet rfl (h.setSink found own fun j other => beq_false_of_ne other) (by simp) rfl rfl

theorem Sound.pending_of_takes (h : f.Sound past) (step : f.Step event g)
    (takes : event.takes = true) : Pending past := by
  cases step with
  | taken found opened pending => exact h.pending.mp pending
  | created | started | rejected | refused | uncounted | overran | accepted | unplugged
  | closed => cases takes

structure Chronicle where
  factory : NullFactory := {}
  past : List SinkEvent := []

namespace Chronicle

def serve (c : Chronicle) (call : SinkCall) : Chronicle :=
  match c.factory.serve? call with
  | some (event, next) => ⟨next, c.past ++ [event]⟩
  | none => c

def after (calls : List SinkCall) : Chronicle := calls.foldl serve {}

variable {c : Chronicle}

structure Sound (c : Chronicle) : Prop where
  factory : c.factory.Sound c.past
  told : ∀ before x later, c.past = before ++ x :: later → x.takes = true → Pending before

theorem Sound.serve (h : c.Sound) (call : SinkCall) : (c.serve call).Sound := by
  rw [Chronicle.serve]
  split
  next event next served =>
    have step := step_of_serve? served
    refine ⟨h.factory.step step, fun before x later eq takes => ?_⟩
    rcases split_concat eq with ⟨rfl, rfl, -⟩ | ⟨rest, -, same⟩
    · exact h.factory.pending_of_takes step takes
    · exact h.told before x rest same takes
  next => exact h

theorem sound_after (calls : List SinkCall) : (after calls).Sound := by
  induction calls using List.reverseRecOn with
  | nil =>
    refine ⟨sound_new, fun before x later eq => ?_⟩
    exact absurd eq.symm (List.append_ne_nil_of_right_ne_nil before (List.cons_ne_nil x later))
  | append_singleton calls call ih =>
    rw [after, List.foldl_append]
    exact ih.serve call

def Ready (c : Chronicle) (i : Nat) (frames : UInt64) : Prop :=
  ¬ Pending c.past ∧
    ∃ config, OpenWith i config c.past ∧ frames.toNat * config.channels.toNat < 2 ^ 64

theorem Ready.opened {i : Nat} {frames : UInt64} (h : c.Ready i frames) : Opened i c.past :=
  let ⟨_, config, last, _⟩ := h
  ⟨config, last⟩

structure Answers (c : Chronicle) (i : Nat) (frames : UInt64)
    (answer : Except NullSink.Overflow (Except HardwareError UInt64)) (next : NullFactory) :
    Prop where
  accepted : answer = .ok (.ok frames) ↔ c.Ready i frames ∧ frames.toNat * 1000000000 < 2 ^ 64
  overran : answer = .error .period ↔ c.Ready i frames ∧ 2 ^ 64 ≤ frames.toNat * 1000000000
  uncounted : answer = .error .samples ↔
    Opened i c.past ∧ ¬ Pending c.past ∧ ¬ c.Ready i frames
  taken : answer = .ok (.error .disconnected) ↔ Opened i c.past ∧ Pending c.past
  refused : answer = .ok (.error (.device "stream not open")) ↔ ¬ Opened i c.past
  closes : answer = .ok (.error .disconnected) → ∃ s, c.factory.sinks[i]? = some s ∧
    next = { c.factory.setSink i s.close with probe := { c.factory.probe with unplugged := false } }
  keeps : answer = .ok (.error (.device "stream not open")) → next = c.factory

theorem Sound.plugged (h : c.Sound) {i : Nat} {s : NullSink} (found : c.factory.sinks[i]? = some s)
    (opened : s.isOpen = true) (plugged : c.factory.probe.unplugged = false) (frames : UInt64) :
    Opened i c.past ∧ ¬ Pending c.past ∧
      (c.Ready i frames ↔ frames.toNat * s.channels.toNat < UInt64.size) := by
  have shown := h.factory.shown i
  rw [sink_of_found found] at shown
  have none : ¬ Pending c.past := fun waiting => by
    rw [h.factory.pending.mpr waiting] at plugged
    cases plugged
  refine ⟨shown.isOpen.mp opened, none, fun ⟨_, config, last, fits⟩ => ?_, fun fits => ?_⟩
  · rwa [shown.channels config last]
  · obtain ⟨config, last⟩ := shown.isOpen.mp opened
    exact ⟨none, config, last, shown.channels config last ▸ fits⟩

theorem Sound.answers (h : c.Sound) {i : Nat} {samples : Array Sample} {frames : UInt64}
    {answer : Except NullSink.Overflow (Except HardwareError UInt64)} {next : NullFactory}
    (step : c.factory.Step (.wrote i samples frames answer) next) :
    c.Answers i frames answer next := by
  have isOpen := (h.factory.shown i).isOpen
  have pending := h.factory.pending
  cases step with
  | refused found shut =>
    rw [sink_of_found found, shut] at isOpen
    have closed : ¬ Opened i c.past := fun opened => Bool.false_ne_true (isOpen.mpr opened)
    have unready : ¬ c.Ready i frames := fun ready => closed ready.opened
    constructor <;> simp [closed, unready]
  | taken found opened unplugged =>
    rw [sink_of_found found] at isOpen
    have there := isOpen.mp opened
    have waiting := pending.mp unplugged
    have unready : ¬ c.Ready i frames := fun ready => ready.1 waiting
    constructor <;> simp [there, waiting, unready, found]
  | uncounted found opened plugged large =>
    obtain ⟨there, none, ready⟩ := h.plugged found opened plugged frames
    have unready : ¬ c.Ready i frames := fun fits => Nat.not_lt.mpr large (ready.mp fits)
    constructor <;> simp [there, none, unready]
  | overran found opened plugged fits long =>
    obtain ⟨there, none, ready⟩ := h.plugged found opened plugged frames
    have long : 18446744073709551616 ≤ frames.toNat * 1000000000 := long
    constructor <;> simp [there, none, ready.mpr fits, long]
  | accepted found opened plugged fits short =>
    obtain ⟨there, none, ready⟩ := h.plugged found opened plugged frames
    have short : frames.toNat * 1000000000 < 18446744073709551616 := short
    constructor <;> simp [there, none, ready.mpr fits, short]

end Chronicle

theorem sinks_are_accounted (calls : List SinkCall) :
    let c := Chronicle.after calls
    (∀ i samples frames, i < c.factory.sinks.size → ∃ answer next,
      c.factory.serve? (.write i samples frames) =
        some (.wrote i samples frames answer, next) ∧ c.Answers i frames answer next) ∧
    (∀ before first between second later,
      c.past = before ++ first :: between ++ second :: later →
        first.takes = true → second.takes = true → .unplugged ∈ between) ∧
    (∀ i config error next, c.factory.serve? (.start i config) =
      some (.started i config (.error error), next) → next = c.factory) ∧
    c.factory.probe.framesWritten.toNat =
      ((c.past.filterMap counted?).map UInt64.toNat).sum % 2 ^ 64 ∧
    ((∀ x ∈ c.past, x.counted? = none) ∧ c.factory.probe.lastRms = 0 ∨
      ∃ samples size, Heard c.past samples size ∧
        c.factory.probe.lastRms = Sample.rms (samples.extract 0 size)) := by
  intro c
  have h : c.Sound := Chronicle.sound_after calls
  refine ⟨fun i samples frames made => ?_, fun before first between second later eq takes again =>
    ?_, fun i config error next served => ?_, h.factory.metered.frames, ?_⟩
  · obtain ⟨answer, next, served, step⟩ :=
      step_write (Array.getElem?_eq_getElem made) samples frames
    exact ⟨answer, next, served, h.answers step⟩
  · exact unplugged_mem_of_pending takes (h.told _ second later eq again)
  · cases step_of_serve? served
    rfl
  · exact h.factory.metered.level

theorem sinks_are_accounted_after_two_unplugs :
    let burst : Array Sample := #[1, 1, 1]
    let calls := [.create, .create, .start 0 {}, .write 0 burst 1, .unplug, .unplug]
    let c := Chronicle.after calls
    (∃ next, c.factory.serve? (.write 0 #[1] 1) =
        some (.wrote 0 #[1] 1 (.ok (.error .disconnected)), next) ∧
      c.Answers 0 1 (.ok (.error .disconnected)) next) ∧
    c.factory.probe.lastRms = Sample.rms (burst.extract 0 2) := by
  intro burst calls c
  have past : c.past = [.created 0, .created 1, .started 0 {} (.ok (NullSink.params {})),
    .wrote 0 burst 1 (.ok (.ok 1)), .unplugged, .unplugged] := rfl
  obtain ⟨answered, -, -, -, level⟩ := sinks_are_accounted calls
  constructor
  · obtain ⟨answer, next, served, answers⟩ := answered 0 #[1] 1 Nat.two_pos
    have opened : Opened 0 c.past := ⟨{}, NullSink.params {}, [.created 0, .created 1],
      [.wrote 0 burst 1 (.ok (.ok 1)), .unplugged, .unplugged], rfl, by simp [turns]⟩
    have pending : Pending c.past := ⟨[.created 0, .created 1,
      .started 0 {} (.ok (NullSink.params {})), .wrote 0 burst 1 (.ok (.ok 1)), .unplugged], [],
      rfl, List.forall_mem_nil _⟩
    obtain rfl := answers.taken.mpr ⟨opened, pending⟩
    exact ⟨next, served, answers⟩
  · rcases level with ⟨silent, -⟩ | ⟨samples, size, heard, rms⟩
    · exact absurd (silent (.wrote 0 burst 1 (.ok (.ok 1))) (by simp [c, past]))
        (by simp [counted?])
    · obtain ⟨before, sink, config, frames, answer, later, eq, -, -, ⟨params, since⟩, rfl⟩ := heard
      obtain ⟨early, between, rfl, -⟩ := since
      have wrote : .wrote sink samples frames answer ∈ c.past := by simp [c, eq]
      have started : .started sink config (.ok params) ∈ c.past := by simp [c, eq]
      simp only [past, List.mem_cons, List.not_mem_nil, reduceCtorEq, false_or, or_false,
        SinkEvent.wrote.injEq, SinkEvent.started.injEq] at wrote started
      obtain ⟨-, rfl, rfl, -⟩ := wrote
      obtain ⟨-, rfl, -⟩ := started
      exact rms

theorem burst_is_not_counted :
    let c := Chronicle.after [.create, .start 0 {}]
    Opened 0 c.past ∧ ¬ Pending c.past ∧
      (c.factory.serve? (.write 0 #[1, 1] 9223372036854775808)).map (·.1) =
        some (.wrote 0 #[1, 1] 9223372036854775808 (.error .samples)) := by
  intro c
  have h := Chronicle.sound_after [.create, .start 0 {}]
  obtain ⟨there, none, -⟩ := h.plugged (i := 0) rfl rfl rfl 0
  exact ⟨there, none, rfl⟩

end NullFactory

end SharedAudio

import SharedAudio.Proofs.Endpoint.Shape
import SharedAudio.Proofs.Mixing.Bounds

namespace SharedAudio

-- `fit` tells which channels may have a share in bursts of a certain width.
structure Tolerance where
  output : Nat → Array Call → Sample → Array Call → Sample → Prop
  sums : Array Sample → Array Sample → Prop
  counts : UInt64 → UInt64 → Prop
  references : Nat → UInt64 → UInt64 → Prop
  channel : Nat → Channel → Channel → Prop
  fit : Nat → UInt64 → Channel → Prop

variable (g : Tolerance)

structure Mixer.Near (m n : Mixer) : Prop where
  channels : n.channels = m.channels
  burst : n.burst = m.burst
  sum : g.sums m.sum n.sum

inductive Loop.Near : Loop → Loop → Prop
  | idle {m n : Mixer} (h : m.Near g n) : Near (.idle m) (.idle n)
  | writing {m n : Mixer} (h : m.Near g n) : Near (.writing m) (.writing n)
  | ended {m n : Mixer} (h : m.Near g n) : Near (.ended m) (.ended n)
  | panicked : Near .panicked .panicked
  | lost (flag : Bool) : Near (.lost flag) (.lost flag)

inductive Phase.Near : Phase → Phase → Prop
  | closed (owned : Bool) : Near (.closed owned) (.closed owned)
  | opened (params : HardwareParams) (buffer : UInt64) {l k : Loop} (h : l.Near g k) :
      Near (.opened ⟨params, buffer, l⟩) (.opened ⟨params, buffer, k⟩)

structure Endpoint.Akin (i : Nat) (e f : Endpoint) : Prop where
  config : f.config = e.config
  options : f.options = e.options
  number : f.device.number = e.device.number
  plan : f.device.plan = e.device.plan
  script : f.device.script = e.device.script
  output : g.output i e.device.calls e.rms f.device.calls f.rms
  registered : f.registered = e.registered
  references : g.references i e.references f.references

structure Endpoint.Near (i : Nat) (e f : Endpoint) : Prop extends e.Akin g i f where
  phase : e.phase.Near g f.phase
  health : f.health = e.health
  lastExit : f.lastExit = e.lastExit
  bursts : f.bursts = e.bursts
  underflows : g.counts e.underflows f.underflows

def Tolerance.channels (all others : Array Channel) : Prop :=
  ∀ key : Nat, Option.Rel (g.channel key) all[key]? others[key]?

structure Mixing.Near (m n : Mixing) : Prop where
  mixer : Option.Rel (Mixer.Near g) m.mixer n.mixer
  channels : g.channels m.channels n.channels
  underflows : g.counts m.underflows n.underflows

structure Site.Near (i : Nat) (s t : Site) : Prop where
  endpoint : s.endpoint.Near g i t.endpoint
  channels : g.channels s.channels t.channels
  log : t.log = s.log

def Mixing.Fit (m : Mixing) (key : Nat) : Prop := ∀ mixer c, m.mixer = some mixer →
  m.channels[key]? = some c → mixer.Shaped ∧ g.fit key mixer.channels c

def Site.Fit (s : Site) : Prop := ∀ key ∈ s.endpoint.registered, ∀ c, s.channels[key]? = some c →
  g.fit key s.endpoint.config.channels c

def Site.Same {α : Type} (i : Nat) (a b : α × Site) : Prop := b.1 = a.1 ∧ a.2.Near g i b.2

structure Tolerance.Lawful : Prop where
  noted : ∀ {i : Nat} {a b : Array Call} {x y : Sample} (call : Call), call.burst? = none →
    g.output i a x b y → g.output i (a.push call) x (b.push call) y
  wrote : ∀ {i : Nat} {a b : Array Call} {x y : Sample} {p q : Array Sample}
    (frames timeout : UInt64) (answer : Answer), answer ≠ .accepted frames → g.sums p q →
    g.output i a x b y →
    g.output i (a.push (.wrote p frames timeout answer)) x
      (b.push (.wrote q frames timeout answer)) y
  delivered : ∀ {i : Nat} {a b : Array Call} {x y : Sample} {p q : Array Sample}
    (frames timeout : UInt64), g.sums p q → g.output i a x b y →
    g.output i (a.push (.wrote p frames timeout (.accepted frames))) (Sample.rms p)
      (b.push (.wrote q frames timeout (.accepted frames))) (Sample.rms q)
  same : ∀ sum, g.sums sum sum
  cleared : ∀ {p q : Array Sample}, g.sums p q →
    g.sums (Array.replicate p.size 0) (Array.replicate q.size 0)
  limited : ∀ {p q : Array Sample} (l : Limiter), g.sums p q → g.sums (l.apply p) (l.apply q)
  none : g.counts 0 0
  counted : ∀ {i : Nat} {x y : UInt64}, g.references i x y → g.references i (x + 1) (y + 1)
  id : ∀ {key : Nat} {c d : Channel}, g.channel key c d → d.id = c.id
  state : ∀ {key : Nat} {c d : Channel}, g.channel key c d → d.state = c.state
  width : ∀ {key : Nat} {c d : Channel}, g.channel key c d → d.channels = c.channels
  enter : ∀ {key : Nat} {c d : Channel} (e : StreamEvent), g.channel key c d →
    g.channel key (c.enter e) (d.enter e)
  aim : ∀ {key : Nat} {c d : Channel} (volume : Sample) (bursts : UInt32), g.channel key c d →
    g.channel key (c.setVolume volume bursts) (d.setVolume volume bursts)
  newborn : ∀ (key : Nat) (id : StreamId) (ring : Ring), g.channel key { id, ring } { id, ring }
  take : ∀ {m n : Mixing} {key : Nat}, m.Near g n → m.Fit g key → (m.take key).Near g (n.take key)
  fit : ∀ {key : Nat} {width : UInt64} {c d : Channel},
    (d.isRunning = true → c.isRunning = true) → d.ring.attachment = c.ring.attachment →
    g.fit key width c → g.fit key width d

variable {g}

namespace Mixing

theorem form_foldl_take (m : Mixing) (keys : List Nat) (key : Nat) :
    (keys.foldl take m).channels[key]?.map (fun c => (c.state, c.ring.attachment)) =
      m.channels[key]?.map fun c => (c.state, c.ring.attachment) := by
  refine map_foldl_take (fun _ => rfl) (fun c mixer share added => ?_) keys
  simp only [Mixer.add?] at added
  split at added <;> cases added
  rfl

theorem Fit.take (lawful : g.Lawful) {m : Mixing} {key : Nat} (h : m.Fit g key) (other : Nat) :
    (m.take other).Fit g key := by
  intro next d has there
  obtain ⟨mixer, was, alike⟩ := alike_take has
  have form := m.form_foldl_take [other] key
  rw [List.foldl_cons, List.foldl_nil, there] at form
  obtain ⟨c, before, same⟩ := Option.map_eq_some_iff.mp form.symm
  simp only [Prod.mk.injEq] at same
  obtain ⟨shaped, fit⟩ := h mixer c was before
  refine ⟨alike.shaped shaped, ?_⟩
  rw [alike.channels]
  exact lawful.fit (by rw [Channel.isRunning, Channel.isRunning, same.1]; exact id) same.2.symm fit

theorem Near.foldl (lawful : g.Lawful) {m n : Mixing} (h : m.Near g n) {keys : List Nat}
    (fit : ∀ key ∈ keys, m.Fit g key) : (keys.foldl take m).Near g (keys.foldl take n) := by
  induction keys generalizing m n with
  | nil => exact h
  | cons key keys ih =>
    have first := lawful.take h (fit key List.mem_cons_self)
    exact ih first fun other member =>
      (fit other (List.mem_cons_of_mem key member)).take lawful key

end Mixing

end SharedAudio

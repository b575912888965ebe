import SharedAudio.Proofs.Mixing.Mixdown
import SharedAudio.Proofs.Server.Calm

namespace SharedAudio

namespace Operation

def Plain : Operation → Prop
  | .pop .. | .retarget .. => False
  | .addChannel _ ring => ring.counters = {}
  | _ => True

def units : Operation → List Operation
  | .grant endpoint writes => List.replicate writes (.grant endpoint 1)
  | op => [op]

end Operation

theorem Server.run_grants (s : Server) (k n : Nat) :
    s.run (List.replicate n (.grant k 1)) = s.perform (.grant k n) := by
  induction n generalizing s with
  | zero =>
    rw [perform_grant]
    exact (s.actOn_self k).symm
  | succ n ih =>
    rw [List.replicate_succ, run_cons, ih, perform_grant, perform_grant, perform_grant, actOn_actOn]
    congr 1
    funext site
    exact site.grantUpTo_one n

theorem Server.run_units (s : Server) (ops : List Operation) :
    s.run (ops.flatMap Operation.units) = s.run ops := by
  induction ops generalizing s with
  | nil => rfl
  | cons op ops ih =>
    have unit : s.run op.units = s.perform op := by
      cases op with
      | grant k n => exact s.run_grants k n
      | _ => rfl
    rw [List.flatMap_cons, run_append, unit, ih, run_cons]

namespace Operation

variable {op unit : Operation}

theorem units_of_mem_units (h : unit ∈ op.units) : unit.units = [unit] := by
  cases op with
  | grant k n =>
    rw [(List.mem_replicate.mp h).2]
    rfl
  | _ => rw [List.mem_singleton.mp h]; rfl

theorem units_of_mem_flatMap {ops : List Operation} (h : unit ∈ ops.flatMap units) :
    unit.units = [unit] := by
  obtain ⟨op, -, inside⟩ := List.mem_flatMap.mp h
  exact units_of_mem_units inside

theorem eq_one_of_units {k n : Nat} (single : (grant k n).units = [grant k n]) : n = 1 := by
  rw [units] at single
  simpa using congrArg List.length single

theorem plain_of_mem_units (plain : op.Plain) (h : unit ∈ op.units) : unit.Plain := by
  cases op with
  | grant k n =>
    rw [(List.mem_replicate.mp h).2]
    trivial
  | _ => rw [List.mem_singleton.mp h]; exact plain

end Operation

def Endpoint.mixes (before after : Endpoint) : Bool :=
  after.runs && (!before.runs || after.bursts != before.bursts)

namespace Server

def mixing? (before after : Server) : Option (Nat × Endpoint × Line) :=
  (List.range before.endpoints.size).findSome? fun k => do
    let e ← before.endpoints[k]?
    let f ← after.endpoints[k]?
    let line ← f.line?
    if e.mixes f then some (k, f, line) else none

def voices (before after : Server) (registered : List Nat) : List Voice :=
  registered.filterMap fun key => before.channels[key]?.bind fun c =>
    if after.channels[key]?.any Channel.isRunning then some ⟨key, c.ramp.next.current⟩ else none

end Server

structure Session where
  server : Server
  tapes : Nat → Tape := fun _ => {}
  bursts : Nat → List (Array Sample) := fun _ => []

namespace Session

def written (x : Session) : Operation → Nat → Tape
  | .write key samples =>
    match x.server.channels[key]? with
    | some c => Function.update x.tapes key
        ((x.tapes key).write (framesOf c.ring.channels (c.write samples).1 samples.toList))
    | none => x.tapes
  | _ => x.tapes

def mix (x : Session) (key : Nat) (e : Endpoint) (line : Line) (voices : List Voice) : Session :=
  let size := e.config.channels.toNat * line.params.burst.toNat
  let done := Mixdown.ofVoices size line.params.burst.toNat x.tapes voices
  let burst := e.options.limiter.apply done.sum.toArray
  { x with
    tapes := done.tapes
    bursts := Function.update x.bursts key (x.bursts key ++ [burst]) }

def step (x : Session) (op : Operation) : Session :=
  let after := x.server.perform op
  let next := { x with server := after, tapes := x.written op }
  match x.server.mixing? after with
  | none => next
  | some (key, e, line) => next.mix key e line (x.server.voices after e.registered)

def run (options : Options) (ops : List Operation) : Session :=
  ops.foldl step { server := { options } }

def Sized (x : Session) : Prop := ∀ (key : Nat) (c : Channel), x.server.channels[key]? = some c →
  c.ring.Backed ∧ (x.tapes key).given.length < 2 ^ 64

instance (x : Session) : Decidable x.Sized :=
  decidable_of_iff (∀ (key : Nat) (inside : key < x.server.channels.size),
    let ring := x.server.channels[key].ring
    ring.capacity.toNat * ring.channels ≤ ring.memory.cells.size ∧
      (x.tapes key).given.length < 2 ^ 64) <| by
    constructor
    · intro sized key c there
      obtain ⟨inside, rfl⟩ := Array.getElem?_eq_some_iff.mp there
      exact sized key inside
    · intro sized key inside
      exact sized key _ (Array.getElem?_eq_getElem inside)

@[simp] theorem server_mix (x : Session) (key : Nat) (e : Endpoint) (line : Line)
    (voices : List Voice) : (x.mix key e line voices).server = x.server := rfl

@[simp] theorem server_step (x : Session) (op : Operation) :
    (x.step op).server = x.server.perform op := by
  simp only [step]
  split
  · rfl
  · rw [server_mix]

theorem server_run (options : Options) (ops : List Operation) :
    (run options ops).server = Server.run { options } ops := by
  have folded (x : Session) : (ops.foldl step x).server = x.server.run ops := by
    induction ops generalizing x with
    | nil => rfl
    | cons op ops ih => rw [List.foldl_cons, ih, server_step, Server.run_cons]
  exact folded _

end Session

end SharedAudio

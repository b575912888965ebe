import SharedAudio.Endpoint.Mixing

namespace SharedAudio

inductive Delivery
  | delivered
  | failed (exit : LoopExit)
  | died
deriving DecidableEq, Repr

def Delivery.ofAnswer (burst : UInt64) : Answer → Delivery
  | .accepted frames => if frames = burst then .delivered else .failed (.shortWrite frames burst)
  | .refused .disconnected => .failed .disconnected
  | .refused error => .failed (.writeFailed error.message)
  | .panicked => .died

namespace Site

def deliver (s : Site) (params : HardwareParams) (mixer : Mixer) : Delivery × Site :=
  let e := s.endpoint
  let (answer, device) := e.device.write mixer.sum params.burst (e.writeTimeout params)
  let e := { e with device }
  match Delivery.ofAnswer params.burst answer with
  | .delivered =>
    let rms := Sample.rms mixer.sum
    (.delivered, { s with endpoint := { e with bursts := e.bursts + 1, rms } })
  | other => (other, { s with endpoint := e })

-- Channels first, then health, then the reason.
def finish (s : Site) (exit : LoopExit) : Site :=
  let s := match exit with
    | .stopped => s
    | .disconnected =>
      let s := s.disconnectAll
      { s with endpoint := { s.endpoint with health := .disconnected } }.note
        "hardware disconnected, streams notified"
    | fault =>
      let s := s.faultAll fault.message
      { s with endpoint := { s.endpoint with health := .faulted } }.note
        s!"endpoint faulted: {fault.message}"
  { s with endpoint := { s.endpoint with lastExit := some exit } }

def continueLoop (s : Site) (mixer : Mixer) : Site :=
  match s.mix mixer with
  | (some mixer, s) => s.setLoop (.writing mixer)
  | (none, s) => s.setLoop .panicked

def grant? (s : Site) : Option Site :=
  match s.endpoint.phase with
  | .opened ⟨params, _, .writing mixer⟩ =>
    match s.deliver params mixer with
    | (.delivered, s) => some (s.continueLoop mixer)
    | (.failed exit, s) => some ((s.finish exit).setLoop (.ended mixer))
    | (.died, s) => some (s.setLoop .panicked)
  | _ => none

def grantUpTo (s : Site) (n : Nat) (granted : Nat) : Nat × Site :=
  match n with
  | 0 => (granted, s)
  | n + 1 =>
    match s.grant? with
    | some s => s.grantUpTo n (granted + 1)
    | none => (granted, s)

def panicReason : String := "mixing thread panicked"

def joinPanicked (s : Site) (flag : Bool) : Site :=
  let s := s.faultAll panicReason
  { s with
    endpoint := { s.endpoint with
      health := .faulted
      lastExit := some (.writeFailed panicReason) } }.setLoop (.lost flag)

def halt (s : Site) : Site :=
  match s.endpoint.phase with
  | .closed _ => s
  | .opened line =>
    match line.loop with
    | .idle _ => s
    | .lost _ => s.setLoop (.lost false)
    | .ended mixer => (s.setLoop (.idle mixer)).announce "idle"
    | .panicked => (s.joinPanicked false).announce "idle"
    | .writing mixer =>
      match s.deliver line.params mixer with
      | (.delivered, s) => ((s.finish .stopped).setLoop (.idle mixer)).announce "idle"
      | (.failed exit, s) => ((s.finish exit).setLoop (.idle mixer)).announce "idle"
      | (.died, s) => (s.joinPanicked false).announce "idle"

def begin? (s : Site) (params : HardwareParams) (mixer : Mixer) :
    Option (Except EndpointError Unit × Site) :=
  (s.endpoint.options.writeTimeout? params.burst params.sampleRate).map fun _ =>
    match s.endpoint.device.plan.spawnError with
    | some reason => (.error (.spawn reason), s)
    | none => (.ok (), (s.announce "streaming").continueLoop mixer)

def launch? (s : Site) : Option (Except EndpointError Unit × Site) :=
  match s.endpoint.phase with
  | .closed _ => some (.error .notOpen, s)
  | .opened line =>
    match line.loop with
    | .writing _ => some (.ok (), s)
    | .idle mixer => s.begin? line.params mixer
    | .lost _ => some (.error .streamLost, s)
    | .ended mixer =>
      let s := s.setLoop (.idle mixer)
      match s.endpoint.ailment? with
      | some error => some (.error error, s)
      | none => s.begin? line.params mixer
    | .panicked =>
      let s := s.joinPanicked true
      some (.error (s.endpoint.ailment?.getD .streamLost), s)

theorem grant?_eq_none {s : Site} (h : ∀ line mixer, s.endpoint.phase = .opened line →
    line.loop ≠ .writing mixer) : s.grant? = none := by
  unfold grant?
  split
  · rename_i params buffer mixer phase
    exact absurd rfl (h _ mixer phase)
  · rfl

end Site

theorem Delivery.ofAnswer_eq_delivered {burst : UInt64} {answer : Answer} :
    ofAnswer burst answer = .delivered ↔ answer = .accepted burst := by
  cases answer with
  | accepted frames => by_cases h : frames = burst <;> simp [ofAnswer, h]
  | refused error => cases error <;> simp [ofAnswer]
  | panicked => simp [ofAnswer]

end SharedAudio

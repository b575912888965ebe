import SharedAudio.Hardware.Stream

namespace SharedAudio

structure Plan where
  openError : Option HardwareError := none
  sampleRate : Option UInt32 := none
  burst : Option UInt64 := none
  mask : Option UInt32 := none
  buffer : Option UInt64 := none
  spawnError : Option String := none
deriving DecidableEq, Repr

inductive Outcome
  | full
  | short (frames : UInt64)
  | fail (error : HardwareError)
  | panic
deriving DecidableEq, Repr

def Outcome.answer (requested : UInt64) : Outcome → Answer
  | .full => .accepted requested
  | .short frames => .accepted frames
  | .fail error => .refused error
  | .panic => .panicked

-- After the script every write is full.
structure Device where
  number : Nat
  plan : Plan := {}
  script : List Outcome := []
  calls : Array Call := #[]

namespace Device

def note (d : Device) (call : Call) : Device := { d with calls := d.calls.push call }

def defaultBurst : UInt64 := 4

def params (d : Device) (config : StreamConfig) : HardwareParams where
  sampleRate := d.plan.sampleRate.getD config.sampleRate
  burst := d.plan.burst.getD (config.burst.getD defaultBurst)
  mask := d.plan.mask.getD (channelMask config.channels)

def start (d : Device) (config : StreamConfig) : Except HardwareError HardwareParams × Device :=
  match d.plan.openError with
  | some error => (.error error, d.note .opened)
  | none => (.ok (d.params config), d.note .opened)

def setBuffer (d : Device) (frames : UInt64) : UInt64 × Device :=
  (d.plan.buffer.getD frames, d.note (.buffer frames))

def write (d : Device) (samples : Array Sample) (frames timeout : UInt64) : Answer × Device :=
  let answer := (d.script.head?.getD .full).answer frames
  (answer, { d with script := d.script.tail }.note (.wrote samples frames timeout answer))

def close (d : Device) : Device := d.note .closed

@[simp] theorem calls_note (d : Device) (call : Call) :
    (d.note call).calls = d.calls.push call := rfl

@[simp] theorem calls_start (d : Device) (config : StreamConfig) :
    (d.start config).2.calls = d.calls.push .opened := by
  simp only [start]
  split <;> rfl

@[simp] theorem calls_setBuffer (d : Device) (frames : UInt64) :
    (d.setBuffer frames).2.calls = d.calls.push (.buffer frames) := rfl

@[simp] theorem calls_close (d : Device) : d.close.calls = d.calls.push .closed := rfl

theorem calls_write (d : Device) (samples : Array Sample) (frames timeout : UInt64) :
    (d.write samples frames timeout).2.calls =
      d.calls.push (.wrote samples frames timeout (d.write samples frames timeout).1) := rfl

end Device

end SharedAudio

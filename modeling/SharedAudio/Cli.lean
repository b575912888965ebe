import SharedAudio.Console.Screen
import SharedAudio.Demo
import SharedAudio.Text.Lines

namespace SharedAudio

inductive Command
  | status
  | help
  | console
  | unknown (argument : String)
deriving DecidableEq, Repr

def Command.ofArguments : List String → Command
  | [] => .console
  | argument :: _ =>
    if argument = "--status" ∨ argument = "-s" then .status
    else if argument = "--help" ∨ argument = "-h" then .help
    else .unknown argument

structure Report where
  code : UInt32 := 0
  output : List String := []
  errors : List String := []
deriving DecidableEq, Repr

def Report.outputLines (r : Report) : List String := r.output.flatMap linesOf

def Report.errorLines (r : Report) : List String := r.errors.flatMap linesOf

namespace Cli

def complaint (text : String) : String := s!"endpointctl: {text}"

def usage : List String := [
  "Usage: endpointctl [--status]",
  "",
  s!"Starts a demo endpoint fed by {Demo.tones.length} tone streams on a null device.",
  "Without arguments the interactive console launches."]

def streamLine (c : ChannelStatus) : String :=
  s!"  [{c.id.text}] {c.state.name} | gain={c.level} dB | fill={c.percent}% | " ++
    s!"underflows={c.underflows} | frames={c.framesMixed}"

def endpointLines (e : EndpointStatus) : List String :=
  [s!"Device      : {e.device}",
    s!"Sample Rate : {e.sampleRate} Hz",
    s!"Channels    : {e.channels}",
    s!"Burst       : {e.burst} frames",
    s!"Buffer Size : {e.buffer} frames",
    s!"References  : {e.references}",
    s!"Health      : {e.health.name}",
    "Streaming   : " ++ (if e.streaming then "yes" else "no"),
    s!"Bursts      : {e.bursts}",
    s!"Output RMS  : {Decimal.fixed 3 e.rms}"] ++
    (e.lastExit.map fun exit => s!"Last Exit   : {exit.message}").toList ++
    "Streams:" :: e.streams.map streamLine

def statusBursts : Nat := 62

def statusReport (statuses : List EndpointStatus) (complaints : List String) : Report :=
  let errors := complaints.map complaint
  if statuses.isEmpty then { code := 1, errors := errors ++ [complaint "no open endpoints"] }
  else { output := statuses.flatMap endpointLines, errors }

def run? (options : Options) : Command → Option Report
  | .help => some { output := usage }
  | .unknown argument => some { code := 1, errors := [complaint s!"unknown argument '{argument}'"] }
  | .status => do
    match ← (Demo.start options).run with
    | .error reason => return { code := 1, errors := [complaint reason] }
    | .ok demo =>
      let demo ← demo.play? statusBursts
      return statusReport demo.server.statuses demo.complaints
  | .console => some {}

end Cli

end SharedAudio

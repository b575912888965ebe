import SharedAudio.Cli

namespace SharedAudio.Cli

def panicked : IO.Error := .userError "panicked"

partial def drive (demo : Demo) (console : Console) : IO Unit := do
  let some demo := demo.play? 1 | throw panicked
  let (line, log) := demo.server.log.pop
  let demo := { demo with server := { demo.server with log } }
  let console := console.refresh demo.server.statuses
  let console := { console with message := line.or console.message }
  for row in console.draw 140 24 do
    IO.println row
  let input ← (← IO.getStdin).getLine
  if input.isEmpty then return
  let key := Key.ofName (String.ofList (input.toList.filter (· ≠ '\n')))
  let some (quit, console, server) := console.press? demo.server key | throw panicked
  if quit then return
  drive { demo with server } console

def interact (options : Options) : IO UInt32 := do
  match (Demo.start options).run with
  | none => throw panicked
  | some (.error reason) =>
    IO.eprintln (complaint reason)
    return 1
  | some (.ok demo) =>
    drive demo {}
    return 0

end SharedAudio.Cli

open SharedAudio in
def main (arguments : List String) : IO UInt32 := do
  let options := Options.ofSetting ((← IO.getEnv Options.burstsVariable).map String.toUTF8)
  match Command.ofArguments arguments with
  | .console => Cli.interact options
  | command =>
    let some report := Cli.run? options command | throw Cli.panicked
    for line in report.output do
      IO.println line
    for line in report.errors do
      IO.eprintln line
    return report.code

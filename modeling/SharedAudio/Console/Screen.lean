import SharedAudio.Console.Basic
import SharedAudio.Text.Cell
import SharedAudio.Text.Wrap

namespace SharedAudio

def pane (title : String) (width height : Nat) (body : List Strip) : List (List Cell) :=
  let inner := width - 2
  let top := ['┌'] :: fitRow inner ['─'] (cellsOf title) ++ [['┐']]
  let bottom := ['└'] :: List.replicate inner ['─'] ++ [['┘']]
  let line (strip : Strip) := ['│'] :: strip.drawOn (List.replicate inner blankCell ++ [['│']])
  let filled := body.take (height - 2) ++ List.replicate (height - 2 - body.length) []
  ((top :: filled.map line ++ [bottom]).take height).map (fitRow width blankCell)

namespace EndpointStatus

def streamingName (e : EndpointStatus) : String := if e.streaming then "streaming" else "idle"

def line (e : EndpointStatus) : String :=
  s!"Device {e.device}  {e.sampleRate} Hz x{e.channels}  Burst: {e.burst} frames  " ++
  s!"Buffer: {e.buffer} frames  Refs: {e.references}  Bursts: {e.bursts}  " ++
  s!"Underflows: {e.underflows}  RMS: {Decimal.fixed 3 e.rms}  " ++
  s!"{e.health.name}  {e.streamingName}"

end EndpointStatus

namespace ChannelStatus

def percent (c : ChannelStatus) : String := Decimal.fixed 1 (c.fill * 100)

def level (c : ChannelStatus) : String := Decimal.fixed 1 (Decibel.shown c.volume)

def columns (c : ChannelStatus) (device : UInt32) (selected : Bool) : List String :=
  [if selected then ">" else "", c.id.text, toString device, c.state.name, c.level, c.percent,
    toString c.underflows, toString c.framesMixed]

end ChannelStatus

namespace Console

def columnWidths : List Nat := [2, 12, 8, 14, 10, 10, 12, 14]

def columnGap : Nat := 2

def columnTitles : List String :=
  ["", "Stream", "Device", "State", "Gain (dB)", "Buffer %", "Underflows", "Frames mixed"]

def columnStages : List (List Nat) := [
  List.replicate 8 0,
  List.replicate 8 2,
  [2, 8, 8, 8, 8, 8, 8, 8],
  [2, 8, 8, 10, 10, 10, 10, 10],
  [2, 8, 8, 10, 10, 10, 12, 12],
  [2, 8, 8, 10, 10, 10, 12, 14],
  [2, 8, 8, 14, 10, 10, 12, 14],
  columnWidths]

def spansFrom (parts start : Nat) : List Nat → List (Nat × Nat)
  | [] => []
  | width :: rest =>
    let cell (position : Nat) := (2 * position + parts) / (2 * parts)
    (cell start, cell (start + width)) :: spansFrom parts (start + width + columnGap * parts) rest

def totalWidth (widths : List Nat) : Nat := widths.foldl (· + ·) 0

def columnSpans (width : Nat) : List (Nat × Nat) :=
  let room := width - columnGap * (columnWidths.length - 1)
  match (columnStages.zip columnStages.tail).find? fun (_, next) => room < totalWidth next with
  | none => spansFrom 1 0 columnWidths
  | some (last, next) =>
    let parts := totalWidth next - totalWidth last
    spansFrom parts 0
      (last.zipWith (fun low high => low * parts + (high - low) * (room - totalWidth last)) next)

def tableRow (width : Nat) (texts : List String) : List Cell :=
  (texts.zip (columnSpans width)).foldl
    (fun row (text, start, stop) =>
      fitRow start blankCell row ++ fitRow (stop - start) blankCell (cellsOf text)) []

def endpointLines (c : Console) : List String :=
  if c.snapshot.isEmpty then ["No open endpoints"] else c.snapshot.map EndpointStatus.line

def streamRows (c : Console) : List (List String) :=
  c.streams.mapIdx fun i (e, stream) => stream.columns e.device (i == c.selected.toNat)

def helpLines (c : Console) : List String :=
  "Up/Down: Select  |  Space: Start/stop  |  g: Set gain  |  q: Quit" :: c.message.toList

def editorTitle : String := "Set Gain (dB): Enter to apply, Esc to cancel"

-- The streams take eight rows first, then the endpoints what they need up to eight, then the help
-- four, then the endpoints the rest of their need. What is left goes to the streams.
def paneHeights (endpoints height : Nat) : Nat × Nat × Nat :=
  let wanted := 3 + max 1 endpoints
  let room := height - 8
  let help := min 4 (room - min wanted 8)
  let top := min wanted (room - help)
  (top, height - top - help, help)

def panes (c : Console) (width height : Nat) : List (List Cell) :=
  let inner := width - 2
  let (top, middle, bottom) := paneHeights c.snapshot.length height
  let table := (columnTitles :: c.streamRows).map (tableRow inner)
  let help := c.helpLines.flatMap fun line => wrap inner (glyphs line.toList)
  let endpoints := c.endpointLines.map fun line => Strip.ofCells inner (cellsOf line)
  pane "Shared Endpoints" width top endpoints ++
    pane "Streams" width middle (table.map (.ofCells inner)) ++
    pane "Help" width bottom (help.map .ofGlyphs)

def screen (c : Console) (width height : Nat) : List (List Cell) :=
  let rows := c.panes width height
  match c.editor? with
  | none => rows
  | some text =>
    let covered := min 3 height
    let lines := chunks (width - 2) (cellsOf (String.ofList text))
    rows.take (height - covered) ++
      pane editorTitle width covered (lines.map (.ofCells (width - 2)))

def rowText (row : List Cell) : String :=
  String.ofList ((row.flatten.reverse.dropWhile (· == ' ')).reverse)

def draw (c : Console) (width height : Nat) : List String := (c.screen width height).map rowText

end Console

theorem Console.length_spansFrom (parts start : Nat) (widths : List Nat) :
    (spansFrom parts start widths).length = widths.length := by
  induction widths generalizing start with
  | nil => rfl
  | cons width rest ih => simp [spansFrom, ih]

example : Console.columnSpans 78 =
    [(0, 2), (4, 12), (14, 22), (24, 33), (35, 44), (46, 56), (58, 67), (69, 78)] := by decide

@[simp] theorem length_pane (title : String) (width height : Nat) (body : List Strip) :
    (pane title width height body).length = height := by
  simp only [pane, List.length_map, List.length_take, List.length_append, List.length_cons,
    List.length_nil, List.length_replicate]
  omega

theorem length_row_pane {title : String} {width height : Nat} {body : List Strip} :
    ∀ row ∈ pane title width height body, row.length = width := by
  intro row member
  obtain ⟨line, _, rfl⟩ := List.mem_map.mp member
  exact length_fitRow width blankCell line

theorem Console.sum_paneHeights (endpoints height : Nat) :
    let (top, middle, bottom) := paneHeights endpoints height
    top + middle + bottom = height := by
  simp only [paneHeights]
  omega

theorem Console.length_panes (c : Console) (width height : Nat) :
    (c.panes width height).length = height := by
  simpa [panes, Nat.add_assoc] using sum_paneHeights c.snapshot.length height

theorem Console.length_screen (c : Console) (width height : Nat) :
    (c.screen width height).length = height := by
  unfold screen
  cases c.editor? with
  | none => exact length_panes c width height
  | some text =>
    simp only [List.length_append, List.length_take, length_pane, length_panes]
    omega

end SharedAudio

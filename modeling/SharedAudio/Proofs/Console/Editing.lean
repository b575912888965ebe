import Mathlib.Data.List.Induction
import SharedAudio.Console.Basic
import SharedAudio.Proofs.Endpoint.Effects
import SharedAudio.Proofs.Server.Effects
import SharedAudio.Proofs.Server.Roll

namespace SharedAudio

theorem Site.getElem?_setVolume_of_ne {s : Site} {id : StreamId} {key : Nat} {c : Channel}
    (present : s.channels[key]? = some c) (other : c.id ≠ id) (volume : Sample) :
    (s.setVolume id volume).2.channels[key]? = some c := by
  rw [setVolume]
  split
  next => exact present
  next changed found =>
    have apart : changed ≠ key := by
      rintro rfl
      have same := idOf?_of_find? found
      rw [idOf?, present] at same
      exact other (Option.some.inj same)
    rw [getElem?_modifyChannel, if_neg apart]
    exact present

theorem Server.getElem?_setLevel_of_ne {s : Server} {id : StreamId} {key : Nat} {c : Channel}
    (present : s.channels[key]? = some c) (other : c.id ≠ id) (level : Sample) :
    (s.setLevel id level).2.channels[key]? = some c := by
  have performed : (s.setLevel id level).2 = s.perform (.setLevel id level) := rfl
  rw [performed]
  rcases s.perform_setLevel id level with ⟨-, eq⟩ | ⟨k, -, eq⟩
  · rwa [eq]
  rw [eq]
  cases there : s.site? k with
  | none => rwa [actOn_of_none there]
  | some site =>
    have same : site.channels = s.channels := by
      obtain ⟨e, -, rfl⟩ := Option.map_eq_some_iff.mp there
      rfl
    rw [actOn_of_site there]
    exact Site.getElem?_setVolume_of_ne (same ▸ present) other _

namespace Console

def pressed (c : Console) (s : Server) (key : Key) : Bool × Console × Server :=
  (c.press? s key).getD (false, c, s)

def toggledCurrent (c : Console) (s : Server) : Console × Server := (c.toggleCurrent? s).getD (c, s)

inductive Event
  | press (key : Key)
  | refresh (snapshot : List EndpointStatus)
  | operate (op : Operation)

structure Desk where
  console : Console := {}
  server : Server

namespace Desk

def attend (d : Desk) : Event → Desk
  | .press key => let (_, console, server) := d.console.pressed d.server key; ⟨console, server⟩
  | .refresh snapshot => { d with console := d.console.refresh snapshot }
  | .operate op => { d with server := d.server.perform op }

def after (d : Desk) (events : List Event) : Desk := events.foldl attend d

theorem after_concat (d : Desk) (events : List Event) (e : Event) :
    d.after (events ++ [e]) = (d.after events).attend e := List.foldl_append

end Desk

def idsOf (snapshot : List EndpointStatus) : List StreamId :=
  (snapshot.flatMap (·.streams)).map (·.id)

structure View where
  place : Nat
  snapshot : List EndpointStatus

namespace View

def id? (v : View) : Option StreamId := (idsOf v.snapshot)[v.place]?

def next (v : View) : Event → View
  | .refresh snapshot => ⟨min v.place ((idsOf snapshot).length - 1), snapshot⟩
  | .press _ | .operate _ => v

end View

theorem View.id?_foldl_next {v : View} {id : StreamId} {events : List Event}
    (shown : v.id? = some id)
    (still : ∀ snapshot, .refresh snapshot ∈ events → View.id? ⟨v.place, snapshot⟩ = some id) :
    (events.foldl View.next v).id? = some id := by
  induction events generalizing v with
  | nil => exact shown
  | cons e events ih =>
    have later : ∀ snapshot, .refresh snapshot ∈ events → View.id? ⟨v.place, snapshot⟩ = some id :=
      fun snapshot member => still snapshot (List.mem_cons_of_mem e member)
    cases e with
    | press | operate => exact ih shown later
    | refresh snapshot =>
      have here := still snapshot List.mem_cons_self
      obtain ⟨inside, -⟩ := List.getElem?_eq_some_iff.mp here
      have stays : min v.place ((idsOf snapshot).length - 1) = v.place :=
        Nat.min_eq_left (by dsimp only at inside; omega)
      have next : v.next (.refresh snapshot) = ⟨v.place, snapshot⟩ := by rw [View.next, stays]
      rw [List.foldl_cons, next]
      exact ih here later

def view (c : Console) : View := ⟨c.selected.toNat, c.snapshot⟩

def order? (c : Console) : Option (StreamId × Sample) := do
  let text ← c.editor?
  let stream ← c.current?
  let level ← Decimal.read? (trimBlanks text)
  pure (stream.id, level)

variable {c : Console} {s : Server} {key : Key} {text : List Char}

theorem map_id_current? (c : Console) : c.current?.map (·.id) = c.view.id? := by
  have all : c.streams.map (·.2) = c.snapshot.flatMap (·.streams) := by
    simp [streams, List.map_flatMap, Function.comp_def]
  rw [current?, ← List.getElem?_map, all, ← List.getElem?_map]
  rfl

theorem length_idsOf (c : Console) : (idsOf c.snapshot).length = c.streamCount := by
  rw [idsOf, List.length_map]
  rfl

theorem view_refresh (c : Console) (snapshot : List EndpointStatus) :
    (c.refresh snapshot).view = c.view.next (.refresh snapshot) := by
  have bound := c.selected.toNat_lt
  have count : (c.load snapshot).streamCount = (idsOf snapshot).length :=
    ((c.load snapshot).length_idsOf).symm
  have selected : (c.refresh snapshot).selected =
      UInt64.ofNat (min c.selected.toNat ((c.load snapshot).streamCount - 1)) := rfl
  simp only [view, View.next, selected, count, UInt64.toNat_ofNat']
  rw [Nat.mod_eq_of_lt (by omega)]
  rfl

def Event.leaves : Event → Bool
  | .press .enter | .press .escape => true
  | _ => false

theorem editor?_enterGain (c : Console) (s : Server) (text : List Char) :
    (c.enterGain s text).1.editor? = none := by
  simp only [enterGain]
  split
  · split <;> rfl
  · rfl

theorem pressed_of_editing (editing : c.mode = .gainInput text) :
    c.pressed s key = (false, c.pressEditing s text key) := by
  rw [pressed, press?, editing]
  rfl

theorem pressed_of_normal (normal : c.mode = .normal) :
    c.pressed s key = (c.pressNormal? s key).getD (false, c, s) := by
  rw [pressed, press?, normal]

theorem pressNormal?_space (c : Console) (s : Server) :
    (c.pressNormal? s (.char ' ')).getD (false, c, s) = (false, c.toggledCurrent s) := by
  rw [pressNormal?, toggledCurrent]
  cases c.toggleCurrent? s <;> rfl

theorem moveDown?_cases (c : Console) :
    Word.add? c.selected 1 = none ∧ c.moveDown? = none ∨ c.moveDown? = some c ∨
      ∃ next : UInt64, next.toNat < c.streamCount ∧
        c.moveDown? = some { c with selected := next } := by
  rw [moveDown?]
  cases sum : Word.add? c.selected 1 with
  | none => exact .inl ⟨rfl, rfl⟩
  | some next =>
    rw [Option.map_some]
    split
    next inside => exact .inr (.inr ⟨next, inside, rfl⟩)
    next => exact .inr (.inl rfl)

theorem pressed_down (normal : c.mode = .normal) :
    c.pressed s .down = (false, c.moveDown?.getD c, s) := by
  rw [pressed_of_normal normal, pressNormal?]
  cases c.moveDown? <;> rfl

theorem editor?_moveDown (c : Console) : (c.moveDown?.getD c).editor? = c.editor? := by
  rcases c.moveDown?_cases with ⟨-, eq⟩ | eq | ⟨next, -, eq⟩ <;> rw [eq] <;> rfl

theorem view_pressed_of_editing {next : List Char} (editing : c.mode = .gainInput text)
    (still : (c.pressed s key).2.1.editor? = some next) :
    (Event.press key).leaves = false ∧ (c.pressed s key).2.1.view = c.view := by
  rw [pressed_of_editing editing] at still ⊢
  cases key with
  | escape => cases still
  | enter =>
    rw [pressEditing, editor?_enterGain] at still
    cases still
  | char x =>
    refine ⟨rfl, ?_⟩
    rw [pressEditing]
    dsimp only
    split <;> rfl
  | backspace | up | down | other => exact ⟨rfl, rfl⟩

theorem editor?_toggledCurrent (c : Console) (s : Server) :
    (c.toggledCurrent s).1.editor? = c.editor? := by
  rw [toggledCurrent, toggleCurrent?]
  split
  · rfl
  · rcases s.toggle? _ with _ | ⟨_ | _, t⟩ <;> rfl

theorem view_pressed_of_normal {next : List Char} (normal : c.mode = .normal)
    (opens : (c.pressed s key).2.1.editor? = some next) :
    key = .char 'g' ∧ (∃ stream, c.current? = some stream) ∧
      (c.pressed s key).2.1.view = c.view := by
  have closed : c.editor? = none := by rw [editor?, normal]
  by_cases down : key = .down
  · rw [down, pressed_down normal, editor?_moveDown, closed] at opens
    cases opens
  rw [pressed_of_normal normal] at opens ⊢
  by_cases space : key = .char ' '
  · rw [space, pressNormal?_space, editor?_toggledCurrent, closed] at opens
    cases opens
  unfold pressNormal? at opens ⊢
  split at opens
  next =>
    dsimp only [Option.getD_some] at opens
    split at opens <;> cases closed.symm.trans opens
  next => exact absurd rfl down
  next => cases closed.symm.trans opens
  next => exact absurd rfl space
  next =>
    dsimp only [editGain, Option.getD_some] at opens ⊢
    cases stream : c.current? with
    | none =>
      rw [stream] at opens
      cases closed.symm.trans opens
    | some opened => exact ⟨rfl, ⟨opened, rfl⟩, rfl⟩
  next => cases closed.symm.trans opens

namespace Desk

variable {d : Desk} {e : Event}

theorem attend_of_editing {next : List Char} (editing : (d.attend e).console.editor? = some next) :
    (d.console.mode = .normal ∧ e = .press (.char 'g') ∧
      (∃ stream, d.console.current? = some stream) ∧ (d.attend e).console.view = d.console.view) ∨
    (∃ text, d.console.editor? = some text) ∧ e.leaves = false ∧
      (d.attend e).console.view = d.console.view.next e := by
  cases e with
  | press key =>
    cases mode : d.console.mode with
    | normal =>
      obtain ⟨rfl, selected, view⟩ := view_pressed_of_normal mode editing
      exact .inl ⟨rfl, rfl, selected, view⟩
    | gainInput text =>
      obtain ⟨stays, view⟩ := view_pressed_of_editing mode editing
      exact .inr ⟨⟨text, by rw [editor?, mode]⟩, stays, view⟩
  | refresh snapshot => exact .inr ⟨⟨next, editing⟩, rfl, view_refresh ..⟩
  | operate op => exact .inr ⟨⟨next, editing⟩, rfl, rfl⟩

structure Edits (start : Desk) (events : List Event) (before between : List Event)
    (opened : ChannelStatus) : Prop where
  split : events = before ++ .press (.char 'g') :: between
  normal : (start.after before).console.mode = .normal
  selected : (start.after before).console.current? = some opened
  stays : ∀ e ∈ between, e.leaves = false
  view : (start.after events).console.view =
    between.foldl View.next (start.after before).console.view

theorem edits_of_editing {start : Desk} (closed : start.console.mode = .normal)
    {events : List Event} {text : List Char}
    (editing : (start.after events).console.editor? = some text) :
    ∃ before between opened, start.Edits events before between opened := by
  -- The induction is from the last event on: either it has opened the editor, or it was open
  -- before.
  induction events using List.reverseRecOn generalizing text with
  | nil =>
    rw [show start.after [] = start from rfl, editor?, closed] at editing
    cases editing
  | append_singleton events e ih =>
    rw [after_concat] at editing
    rcases attend_of_editing editing with
      ⟨normal, rfl, ⟨opened, selected⟩, view⟩ | ⟨⟨earlier, open'⟩, stays, view⟩
    · refine ⟨events, [], opened, rfl, normal, selected, by simp, ?_⟩
      rw [after_concat, view]
      rfl
    · obtain ⟨before, between, opened, edits⟩ := ih open'
      refine ⟨before, between ++ [e], opened, by rw [edits.split]; simp, edits.normal,
        edits.selected, fun other member => ?_, ?_⟩
      · rcases List.mem_append.mp member with old | new
        · exact edits.stays other old
        · rw [List.mem_singleton.mp new]
          exact stays
      · rw [after_concat, view, edits.view, List.foldl_append]
        rfl

end Desk

theorem server_pressed_enter (c : Console) (s : Server) : (c.pressed s .enter).2.2 =
    match c.order? with
    | none => s
    | some (id, level) => (s.setLevel id level).2 := by
  cases mode : c.mode with
  | normal => simp [pressed_of_normal mode, order?, editor?, mode, pressNormal?]
  | gainInput text =>
    have same : current? { c with mode := .normal } = c.current? := rfl
    rw [pressed_of_editing mode]
    simp only [order?, editor?, mode, pressEditing, enterGain, same, Option.bind_eq_bind,
      Option.bind_some]
    cases c.current? with
    | none => rfl
    | some stream =>
      generalize Decimal.read? (trimBlanks text) = typed
      cases typed with
      | none => rfl
      | some level =>
        simp only [Option.bind_some, Option.pure_def]
        rcases s.setLevel stream.id level with ⟨_ | _, t⟩ <;> rfl

theorem of_order? {id : StreamId} {level : Sample} (c : Console)
    (order : c.order? = some (id, level)) :
    ∃ text, c.editor? = some text ∧ ∃ stream, c.current? = some stream ∧ stream.id = id := by
  obtain ⟨text, editing, rest⟩ := Option.bind_eq_some_iff.mp order
  obtain ⟨stream, current, rest⟩ := Option.bind_eq_some_iff.mp rest
  obtain ⟨typed, -, same⟩ := Option.bind_eq_some_iff.mp rest
  cases same
  exact ⟨text, editing, stream, current, rfl⟩

theorem gain_goes_to_the_place (s : Server) (events : List Event) :
    let start : Desk := { server := s }
    let d := start.after events
    let after := (d.attend (.press .enter)).server
    match d.console.order? with
    | none => after = d.server
    | some (id, level) =>
      after = (d.server.setLevel id level).2 ∧ (d.server.find? id = none → after = d.server) ∧
      (∀ (key : Nat) (c : Channel), d.server.channels[key]? = some c → c.id ≠ id →
        after.channels[key]? = some c) ∧
      ∃ before between opened, start.Edits events before between opened ∧
        let view := (start.after before).console.view
        (between.foldl View.next view).id? = some id ∧
        ((∀ snapshot, .refresh snapshot ∈ between →
          View.id? ⟨view.place, snapshot⟩ = some opened.id) → id = opened.id) := by
  intro start d after
  have entered : after = match d.console.order? with
      | none => d.server
      | some (id, level) => (d.server.setLevel id level).2 :=
    d.console.server_pressed_enter d.server
  cases order : d.console.order? with
  | none => rw [entered, order]
  | some ordered =>
    obtain ⟨id, level⟩ := ordered
    rw [order] at entered
    dsimp only at entered ⊢
    obtain ⟨text, editing, stream, current, selected⟩ := d.console.of_order? order
    have closed : start.console.mode = .normal := rfl
    obtain ⟨before, between, opened, edits⟩ := Desk.edits_of_editing closed editing
    have place : (between.foldl View.next (start.after before).console.view).id? = some id := by
      rw [← edits.view, ← map_id_current?, current, Option.map_some, selected]
    have shown : (start.after before).console.view.id? = some opened.id := by
      rw [← map_id_current?, edits.selected, Option.map_some]
    refine ⟨entered, fun unknown => ?_, fun key c present other => ?_,
      before, between, opened, edits, place, fun still => ?_⟩
    · rw [entered, Server.setLevel_of_unknown unknown]
    · rw [entered]
      exact Server.getElem?_setLevel_of_ne present other level
    · exact Option.some.inj (place.symm.trans (View.id?_foldl_next shown still))

theorem gain_lands_on_another_stream :
    let opens : List Event := [.operate (.acquire {} {}), .operate (.createChannel 0),
      .operate (.createChannel 0), .operate (.register 0 0), .operate (.register 0 1),
      .operate (.setVolume 0 ⟨1⟩ 0)]
    let d := Desk.after { server := { options := {} } } opens
    let open' := d.after [.refresh d.server.statuses, .press (.char 'g')]
    let gone := open'.after [.operate (.unregister 0 ⟨1⟩)]
    let shown := gone.after [.refresh gone.server.statuses]
    let entered := shown.after [.press .enter]
    open'.console.current?.map (·.id) = some ⟨1⟩ ∧ open'.console.editor?.isSome = true ∧
      shown.console.order?.map (fun (id, level) => (id, level.toBits)) = some (⟨2⟩, 0xc2f00000) ∧
      shown.server.channels.toList.map (·.volume.toBits) = [0, 0x3f800000] ∧
      entered.server.channels.toList.map (·.volume.toBits) = [0, 0] := by
  decide +kernel

end Console

end SharedAudio

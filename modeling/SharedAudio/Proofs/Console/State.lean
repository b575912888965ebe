import SharedAudio.Proofs.Console.Editing
import SharedAudio.Proofs.Server.Work

namespace SharedAudio

theorem Channel.enduring_volume : Enduring Channel.volume where
  enter c e := congrArg Ramp.target (c.ramp_enter e)
  gain c := c.ramp.target_next
  share _ _ _ _ := rfl

namespace Server

variable (s : Server) (id : StreamId)

theorem keeps_volume_toggle :
    Keeps Channel.volume s.channels (s.perform (.toggle id)).channels := by
  have enduring := Channel.enduring_volume
  rcases s.perform_toggle id with eq | ⟨k, eq | ⟨-, eq, -⟩⟩
  · rw [eq]
    exact .refl _
  · rw [eq]
    exact s.keeps_actOn k fun site => site.keeps_stop enduring.enter id
  · rw [eq]
    exact s.keeps_actOn k fun site => site.keeps_start enduring id

theorem keeps_state_setLevel (level : Sample) :
    Keeps Channel.state s.channels (s.perform (.setLevel id level)).channels := by
  rcases s.perform_setLevel id level with ⟨-, eq⟩ | ⟨k, -, eq⟩
  · rw [eq]
    exact .refl _
  · rw [eq]
    exact s.keeps_actOn k fun site => site.keeps_setVolume (fun _ _ => rfl) id _

theorem endpoints_setLevel (level : Sample) :
    (s.perform (.setLevel id level)).endpoints = s.endpoints := by
  rcases s.perform_setLevel id level with ⟨-, eq⟩ | ⟨k, -, eq⟩
  · rw [eq]
  rw [eq]
  refine Array.ext_getElem? fun l => ?_
  rw [endpoints_actOn]
  split
  · simp only [Site.endpoint_setVolume, site?, Option.map_map, Function.comp_def, Option.map_id']
  · rfl

end Server

namespace Console

def shownGain (stream : ChannelStatus) : List Char :=
  (Decimal.fixed 1 (Decibel.shown stream.volume)).toList

-- Here the mode and the editor are two values, each written by itself.
structure Panel where
  editing : Bool := false
  editor : Option (List Char) := none

namespace Panel

def press (p : Panel) (current : Option ChannelStatus) (key : Key) :
    Bool × Panel × Option Operation :=
  if p.editing then
    match key with
    | .escape => (false, { editing := false, editor := none }, none)
    | .enter => (false, { editing := false, editor := none }, do
      let text ← p.editor
      let stream ← current
      let level ← Decimal.read? (trimBlanks text)
      pure (.setLevel stream.id level))
    | .backspace => (false, { p with editor := p.editor.map List.dropLast }, none)
    | .char x =>
      (false, if isGainChar x then { p with editor := p.editor.map (· ++ [x]) } else p, none)
    | _ => (false, p, none)
  else
    match key with
    | .char 'q' => (true, p, none)
    | .char ' ' => (false, p, current.map fun stream => .toggle stream.id)
    | .char 'g' =>
      (false, current.elim p fun stream => { editing := true, editor := some (shownGain stream) },
        none)
    | _ => (false, p, none)

end Panel

def panel (c : Console) : Panel := { editing := c.editor?.isSome, editor := c.editor? }

variable (c : Console) (s : Server) (key : Key)

theorem server_toggledCurrent : (c.toggledCurrent s).2 =
    (c.current?.map fun stream => Operation.toggle stream.id).elim s s.perform := by
  rw [toggledCurrent, toggleCurrent?]
  cases c.current? with
  | none => rfl
  | some stream =>
    simp only [Option.map_some, Option.elim_some, Server.perform_toggle_eq]
    rcases s.toggle? stream.id with _ | ⟨_ | _, t⟩ <;> rfl

theorem panel_toggledCurrent : (c.toggledCurrent s).1.panel = c.panel := by
  rw [panel, editor?_toggledCurrent, panel]

theorem panel_of_normal (normal : c.mode = .normal) : c.panel = {} := by
  rw [panel, editor?, normal]
  rfl

theorem panel_of_editing {text : List Char} (editing : c.mode = .gainInput text) :
    c.panel = { editing := true, editor := some text } := by
  rw [panel, editor?, editing]
  rfl

structure Answers (answer : Bool × Console × Server) (told : Bool × Panel × Option Operation) :
    Prop where
  quits : answer.1 = told.1
  panel : answer.2.1.panel = told.2.1
  server : answer.2.2 = told.2.2.elim s s.perform

variable {c s key}

theorem answers_of_normal (mode : c.mode = .normal) :
    Answers s (c.pressed s key) (c.panel.press c.current? key) := by
  have closed := c.panel_of_normal mode
  rw [closed]
  dsimp only [Panel.press]
  rw [if_neg Bool.false_ne_true]
  by_cases down : key = .down
  · subst down
    rw [pressed_down mode]
    refine ⟨rfl, ?_, rfl⟩
    rw [panel, editor?_moveDown]
    exact closed
  rw [pressed_of_normal mode]
  cases key with
  | down => exact absurd rfl down
  | up =>
    refine ⟨rfl, ?_, rfl⟩
    dsimp only [pressNormal?, Option.getD_some]
    split <;> exact closed
  | char x =>
    by_cases quits : x = 'q'
    · subst quits
      exact ⟨rfl, closed, rfl⟩
    by_cases toggles : x = ' '
    · subst toggles
      rw [pressNormal?_space]
      exact ⟨rfl, (c.panel_toggledCurrent s).trans closed, c.server_toggledCurrent s⟩
    by_cases opens : x = 'g'
    · subst opens
      refine ⟨rfl, ?_, rfl⟩
      dsimp only [pressNormal?, editGain, Option.getD_some]
      cases c.current? with
      | none => exact closed
      | some stream => rfl
    · have still : Answers s (false, c, s) (false, {}, none) := ⟨rfl, closed, rfl⟩
      simpa [pressNormal?, quits, toggles, opens] using still
  | enter | escape | backspace | other => exact ⟨rfl, closed, rfl⟩

theorem answers_of_editing {text : List Char} (mode : c.mode = .gainInput text) :
    Answers s (c.pressed s key) (c.panel.press c.current? key) := by
  have opened := c.panel_of_editing mode
  rw [pressed_of_editing mode, opened]
  cases key with
  | enter =>
    have left : (c.enterGain s text).1.panel = {} := by
      rw [panel, editor?_enterGain]
      rfl
    have entered := c.server_pressed_enter s
    rw [pressed_of_editing mode] at entered
    refine ⟨rfl, left, entered.trans ?_⟩
    simp only [order?, editor?, mode, Panel.press, if_true, Option.bind_eq_bind, Option.bind_some]
    generalize Decimal.read? (trimBlanks text) = typed
    cases c.current? <;> cases typed <;> rfl
  | char x =>
    refine ⟨rfl, ?_, rfl⟩
    dsimp only [pressEditing, Panel.press]
    split
    · rfl
    · exact opened
  | escape | backspace => exact ⟨rfl, rfl, rfl⟩
  | up | down | other => exact ⟨rfl, opened, rfl⟩

theorem answers (c : Console) (s : Server) (key : Key) :
    Answers s (c.pressed s key) (c.panel.press c.current? key) := by
  cases mode : c.mode with
  | normal => exact answers_of_normal mode
  | gainInput text => exact answers_of_editing mode

def Typed (shown text : List Char) : Prop :=
  ∃ kept typed, text = shown.take kept ++ typed ∧
    ∀ x ∈ typed, x.isDigit = true ∨ x = '.' ∨ x = '-' ∨ x = '+'

def retyped (text : List Char) : Event → List Char
  | .press .backspace => text.dropLast
  | .press (.char x) => if isGainChar x then text ++ [x] else text
  | _ => text

theorem isGainChar_iff {x : Char} :
    isGainChar x = true ↔ x.isDigit = true ∨ x = '.' ∨ x = '-' ∨ x = '+' := by
  simp [isGainChar, or_assoc]

theorem Typed.refl (shown : List Char) : Typed shown shown :=
  ⟨shown.length, [], by simp, by simp⟩

theorem Typed.dropLast {shown text : List Char} (h : Typed shown text) :
    Typed shown text.dropLast := by
  obtain ⟨kept, typed, rfl, gain⟩ := h
  cases typed using List.reverseRecOn with
  | nil =>
    refine ⟨min ((shown.take kept).length - 1) kept, [], ?_, by simp⟩
    rw [List.append_nil, List.append_nil, List.dropLast_eq_take, List.take_take]
  | append_singleton typed x =>
    refine ⟨kept, typed, ?_, fun y member => gain y (List.mem_append_left _ member)⟩
    rw [← List.append_assoc, List.dropLast_concat]

theorem Typed.concat {shown text : List Char} {x : Char} (h : Typed shown text)
    (gain : isGainChar x = true) : Typed shown (text ++ [x]) := by
  obtain ⟨kept, typed, rfl, gains⟩ := h
  refine ⟨kept, typed ++ [x], by rw [List.append_assoc], fun y member => ?_⟩
  rcases List.mem_append.mp member with old | new
  · exact gains y old
  · rw [List.mem_singleton.mp new]
    exact isGainChar_iff.mp gain

theorem Typed.retyped {shown text : List Char} (h : Typed shown text) (e : Event) :
    Typed shown (retyped text e) := by
  unfold Console.retyped
  split
  · exact h.dropLast
  · split
    next gain => exact h.concat gain
    next => exact h
  · exact h

theorem Typed.foldl_retyped {shown text : List Char} (h : Typed shown text) (events : List Event) :
    Typed shown (events.foldl Console.retyped text) := by
  induction events generalizing text with
  | nil => exact h
  | cons e events ih => exact ih (h.retyped e)

namespace Panel

def next (p : Panel) (d : Desk) : Event → Panel
  | .press key => (p.press d.console.current? key).2.1
  | .refresh _ | .operate _ => p

def after (p : Panel) (d : Desk) : List Event → Panel
  | [] => p
  | e :: events => (p.next d e).after (d.attend e) events

end Panel

namespace Desk

variable {d : Desk} {e : Event}

theorem panel_attend (d : Desk) (e : Event) :
    (d.attend e).console.panel = d.console.panel.next d e := by
  cases e with
  | press key => exact (d.console.answers d.server key).panel
  | refresh | operate => rfl

theorem panel_after (d : Desk) (events : List Event) :
    (d.after events).console.panel = d.console.panel.after d events := by
  induction events generalizing d with
  | nil => rfl
  | cons e events ih =>
    rw [Panel.after, ← panel_attend]
    exact ih (d.attend e)

theorem editor?_attend {text : List Char} (editing : d.console.editor? = some text)
    (stays : e.leaves = false) : (d.attend e).console.editor? = some (retyped text e) := by
  have open' : d.console.panel = { editing := true, editor := some text } := by
    rw [panel, editing]
    rfl
  have next : (d.attend e).console.editor? = (d.console.panel.next d e).editor :=
    congrArg Panel.editor (d.panel_attend e)
  rw [next, open']
  cases e with
  | press key =>
    cases key with
    | escape | enter => cases stays
    | char x =>
      simp only [Panel.next, Panel.press, retyped, if_true]
      split <;> rfl
    | backspace | up | down | other => rfl
  | refresh | operate => rfl

theorem editor?_after {text : List Char} {events : List Event}
    (editing : d.console.editor? = some text) (stay : ∀ e ∈ events, e.leaves = false) :
    (d.after events).console.editor? = some (events.foldl retyped text) := by
  induction events generalizing d text with
  | nil => exact editing
  | cons e events ih =>
    exact ih (editor?_attend editing (stay e List.mem_cons_self))
      fun other member => stay other (List.mem_cons_of_mem e member)

theorem Edits.text {start : Desk} {events before between : List Event} {opened : ChannelStatus}
    (edits : start.Edits events before between opened) :
    (start.after events).console.editor? = some (between.foldl retyped (shownGain opened)) := by
  have shown : ((start.after before).attend (.press (.char 'g'))).console.editor? =
      some (shownGain opened) := by
    have next := congrArg Panel.editor ((start.after before).panel_attend (.press (.char 'g')))
    rw [panel_of_normal _ edits.normal, Panel.next, edits.selected] at next
    exact next
  have all : start.after events =
      ((start.after before).attend (.press (.char 'g'))).after between := by
    rw [edits.split]
    exact List.foldl_append
  rw [all]
  exact editor?_after shown edits.stays

end Desk

def Selects (c : Console) : Prop := c.selected = 0 ∨ c.selected.toNat < c.streamCount

theorem Selects.of_view {d : Console} (h : c.Selects) (same : d.view = c.view) : d.Selects := by
  obtain ⟨place, snapshot⟩ := View.mk.inj same
  have selected : d.selected = c.selected := UInt64.toNat_inj.mp place
  rw [Selects, streamCount, selected, snapshot]
  exact h

theorem view_toggledCurrent (c : Console) (s : Server) :
    (c.toggledCurrent s).1.view = c.view := by
  rw [toggledCurrent, toggleCurrent?]
  split
  · rfl
  · rcases s.toggle? _ with _ | ⟨_ | _, t⟩ <;> rfl

theorem view_editGain (c : Console) : c.editGain.view = c.view := by
  rw [editGain]
  split <;> rfl

theorem view_enterGain (c : Console) (s : Server) (text : List Char) :
    (c.enterGain s text).1.view = c.view := by
  rw [enterGain]
  dsimp only
  split
  · split <;> rfl
  · rfl

theorem Selects.pressed (h : c.Selects) (s : Server) (key : Key) :
    (c.pressed s key).2.1.Selects := by
  cases mode : c.mode with
  | normal =>
    by_cases down : key = .down
    · rw [down, pressed_down mode]
      rcases c.moveDown?_cases with ⟨-, eq⟩ | eq | ⟨next, inside, eq⟩ <;> rw [eq]
      · exact h
      · exact h
      · exact .inr inside
    rw [pressed_of_normal mode]
    by_cases space : key = .char ' '
    · rw [space, pressNormal?_space]
      exact h.of_view (c.view_toggledCurrent s)
    unfold pressNormal?
    split
    next =>
      dsimp only [Option.getD_some]
      split
      next => exact h
      next moves =>
        have inside : c.selected.toNat < c.streamCount := h.resolve_left moves
        have positive : 1 ≤ c.selected := UInt64.pos_iff_ne_zero.mpr moves
        refine .inr (Nat.lt_of_le_of_lt ?_ inside)
        dsimp only
        rw [UInt64.toNat_sub_of_le _ _ positive]
        exact Nat.sub_le ..
    next => exact absurd rfl down
    next => exact h
    next => exact absurd rfl space
    next => exact h.of_view c.view_editGain
    next => exact h
  | gainInput text =>
    rw [pressed_of_editing mode]
    cases key with
    | enter => exact h.of_view (c.view_enterGain s text)
    | char x =>
      refine h.of_view ?_
      dsimp only [pressEditing]
      split <;> rfl
    | escape | backspace | up | down | other => exact h

theorem Desk.selects_after (d : Desk) (events : List Event) (h : d.console.Selects) :
    (d.after events).console.Selects := by
  induction events generalizing d with
  | nil => exact h
  | cons e events ih =>
    refine ih (d.attend e) ?_
    cases e with
    | press key => exact h.pressed d.server key
    | refresh snapshot => exact d.console.selected_refresh snapshot
    | operate op => exact h

def Toggles (c : Console) (key : Key) (stream : ChannelStatus) : Prop :=
  c.mode = .normal ∧ key = .char ' ' ∧ c.current? = some stream

def Sets (c : Console) (key : Key) (stream : ChannelStatus) (level : Sample) : Prop :=
  ∃ text, c.mode = .gainInput text ∧ key = .enter ∧ c.current? = some stream ∧
    Decimal.read? (trimBlanks text) = some level

theorem quits_iff : (c.panel.press c.current? key).1 = true ↔
    c.mode = .normal ∧ key = .char 'q' := by
  cases mode : c.mode with
  | normal =>
    rw [c.panel_of_normal mode]
    unfold Panel.press
    rw [if_neg Bool.false_ne_true]
    split <;> simp_all
  | gainInput text =>
    rw [c.panel_of_editing mode]
    unfold Panel.press
    rw [if_pos rfl]
    split <;> simp

theorem tells_iff {op : Operation} : (c.panel.press c.current? key).2.2 = some op ↔
    (∃ stream, c.Toggles key stream ∧ op = .toggle stream.id) ∨
      ∃ stream level, c.Sets key stream level ∧ op = .setLevel stream.id level := by
  cases mode : c.mode with
  | normal =>
    have sets : ∀ stream level, ¬ c.Sets key stream level := by
      rintro stream level ⟨text, editing, -⟩
      rw [mode] at editing
      cases editing
    rw [c.panel_of_normal mode]
    by_cases space : key = .char ' '
    · subst space
      simp [Panel.press, Toggles, mode, sets, eq_comm (b := op)]
    · have silent : (Panel.press {} c.current? key).2.2 = none := by
        unfold Panel.press
        rw [if_neg Bool.false_ne_true]
        split <;> first | rfl | exact absurd rfl space
      simp [silent, Toggles, space, sets]
  | gainInput text =>
    have toggles : ∀ stream, ¬ c.Toggles key stream := by
      rintro stream ⟨normal, -⟩
      rw [mode] at normal
      cases normal
    rw [c.panel_of_editing mode]
    by_cases enter : key = .enter
    · subst enter
      simp [Panel.press, Sets, mode, toggles, Option.bind_eq_some_iff, eq_comm (b := op), and_assoc]
    · have silent : (Panel.press ⟨true, some text⟩ c.current? key).2.2 = none := by
        unfold Panel.press
        rw [if_pos rfl]
        split <;> first | rfl | exact absurd rfl enter
      simp [silent, Sets, enter, toggles]

theorem server_of_tells {op : Operation} (s : Server)
    (tells : (c.panel.press c.current? key).2.2 = some op) :
    (c.pressed s key).2.2 = s.perform op := by
  rw [(c.answers s key).server, tells]
  rfl

theorem server_pressed_cases (c : Console) (s : Server) (key : Key) :
    (∃ stream, c.Toggles key stream ∧ (c.pressed s key).2.2 = s.perform (.toggle stream.id)) ∨
    (∃ stream level, c.Sets key stream level ∧
      (c.pressed s key).2.2 = s.perform (.setLevel stream.id level)) ∨
    (c.pressed s key).2.2 = s := by
  cases tells : (c.panel.press c.current? key).2.2 with
  | none =>
    refine .inr (.inr ?_)
    rw [(c.answers s key).server, tells]
    rfl
  | some op =>
    rcases tells_iff.mp tells with ⟨stream, toggles, rfl⟩ | ⟨stream, level, sets, rfl⟩
    · exact .inl ⟨stream, toggles, server_of_tells s tells⟩
    · exact .inr (.inl ⟨stream, level, sets, server_of_tells s tells⟩)

theorem moveDown?_eq_none_iff (c : Console) :
    c.moveDown? = none ↔ c.selected.toNat + 1 = UInt64.size := by
  have bound := c.selected.toNat_lt
  rw [moveDown?, Option.map_eq_none_iff, Word.add?_eq_none, UInt64.size,
    show (1 : UInt64).toNat = 1 from rfl]
  omega

theorem press?_eq_none_iff (c : Console) (s : Server) (key : Key) : c.press? s key = none ↔
    (∃ stream, c.Toggles key stream ∧ s.perform? (.toggle stream.id) = none) ∨
      c.mode = .normal ∧ key = .down ∧ c.selected.toNat + 1 = UInt64.size := by
  have performed (id : StreamId) : s.perform? (.toggle id) = none ↔ s.toggle? id = none :=
    Option.map_eq_none_iff
  simp only [performed, press?, Toggles]
  cases mode : c.mode with
  | gainInput text => simp
  | normal =>
    by_cases space : key = .char ' '
    · subst space
      cases current : c.current? <;> simp [pressNormal?, toggleCurrent?, current]
    by_cases down : key = .down
    · subst down
      simp [pressNormal?, c.moveDown?_eq_none_iff]
    · simp only [space, down, false_and, and_false, exists_false, or_self, iff_false]
      unfold pressNormal?
      split <;> simp_all

structure Confined (c : Console) (s : Server) (key : Key) : Prop where
  quits : (c.pressed s key).1 = true ↔ c.mode = .normal ∧ key = .char 'q'
  panics : c.press? s key = none ↔
    (∃ stream, c.Toggles key stream ∧ s.perform? (.toggle stream.id) = none) ∨
      c.mode = .normal ∧ key = .down ∧ c.selected.toNat + 1 = UInt64.size
  toggles : ∀ stream, c.Toggles key stream → (c.pressed s key).2.2 = s.perform (.toggle stream.id)
  sets : ∀ stream level, c.Sets key stream level →
    (c.pressed s key).2.2 = s.perform (.setLevel stream.id level)
  runs : (∀ stream, ¬ c.Toggles key stream) →
    (c.pressed s key).2.2.endpoints = s.endpoints ∧
      Keeps Channel.state s.channels (c.pressed s key).2.2.channels
  sounds : (∀ stream level, ¬ c.Sets key stream level) →
    Keeps Channel.volume s.channels (c.pressed s key).2.2.channels
  rests : (∀ stream, ¬ c.Toggles key stream) →
    (∀ stream level, ¬ c.Sets key stream level) → (c.pressed s key).2.2 = s

theorem confined (c : Console) (s : Server) (key : Key) : c.Confined s key where
  quits := by rw [(c.answers s key).quits, quits_iff]
  panics := c.press?_eq_none_iff s key
  toggles _ toggles := server_of_tells s (tells_iff.mpr (.inl ⟨_, toggles, rfl⟩))
  sets _ _ sets := server_of_tells s (tells_iff.mpr (.inr ⟨_, _, sets, rfl⟩))
  runs still := by
    rcases c.server_pressed_cases s key with ⟨_, toggles, -⟩ | ⟨_, _, -, eq⟩ | eq
    · exact absurd toggles (still _)
    · rw [eq]
      exact ⟨s.endpoints_setLevel _ _, s.keeps_state_setLevel _ _⟩
    · rw [eq]
      exact ⟨rfl, .refl _⟩
  sounds still := by
    rcases c.server_pressed_cases s key with ⟨_, -, eq⟩ | ⟨_, _, sets, -⟩ | eq
    · rw [eq]
      exact s.keeps_volume_toggle _
    · exact absurd sets (still _ _)
    · rw [eq]
      exact .refl _
  rests idle still := by
    rcases c.server_pressed_cases s key with ⟨_, toggles, -⟩ | ⟨_, _, sets, -⟩ | eq
    · exact absurd toggles (idle _)
    · exact absurd sets (still _ _)
    · exact eq

theorem state_is_sound (s : Server) (events : List Event) :
    let start : Desk := { server := s }
    let d := start.after events
    let p := Panel.after {} start events
    ((p.editing = true ↔ p.editor.isSome = true) ∧ p.editor = d.console.editor? ∧
      (p.editing = true ↔ d.console.mode ≠ .normal)) ∧
    (d.console.selected = 0 ∨ d.console.selected.toNat < d.console.streamCount) ∧
    (∀ text, d.console.editor? = some text → ∃ before between opened,
      start.Edits events before between opened ∧
        text = between.foldl retyped (shownGain opened) ∧ Typed (shownGain opened) text) ∧
    ∀ key, d.console.Confined d.server key := by
  intro start d p
  have apart : p = d.console.panel := (start.panel_after events).symm
  have normal : start.console.mode = .normal := rfl
  refine ⟨?_, start.selects_after events (.inl rfl), fun text editing => ?_,
    d.console.confined d.server⟩
  · rw [apart, panel]
    refine ⟨Iff.rfl, rfl, ?_⟩
    rw [editor?]
    cases d.console.mode <;> simp
  · obtain ⟨before, between, opened, edits⟩ := Desk.edits_of_editing normal editing
    have text' : text = between.foldl retyped (shownGain opened) :=
      Option.some.inj (editing.symm.trans edits.text)
    exact ⟨before, between, opened, edits, text',
      text' ▸ (Typed.refl _).foldl_retyped between⟩

end Console

end SharedAudio

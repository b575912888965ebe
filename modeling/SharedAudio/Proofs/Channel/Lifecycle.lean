import SharedAudio.Channel.Basic

namespace SharedAudio

section Word

inductive Changes : ChannelState → List StreamEvent → ChannelState → Prop
  | none (s : ChannelState) : Changes s [] s
  | event {s t : ChannelState} {e : StreamEvent} {w : List StreamEvent}
      (possible : e.possibleIn s = true) (different : e.entered ≠ s)
      (rest : Changes e.entered w t) : Changes s (e :: w) t

def reached (s : ChannelState) (w : List StreamEvent) : ChannelState :=
  w.foldl (fun _ e => e.entered) s

def ChannelState.ahead : ChannelState → Nat
  | .stopped => 1
  | .running => 2
  | .disconnected | .faulted => 0

inductive Fate
  | disconnected
  | faulted (reason : String)

def Fate.event : Fate → StreamEvent
  | .disconnected => .disconnected
  | .faulted reason => .faulted reason

structure Life where
  rounds : Nat
  again : Bool
  fate : Option Fate

def Life.word (life : Life) : List StreamEvent :=
  (List.replicate life.rounds [.started, .stopped]).flatten ++
    (if life.again then [.started] else []) ++ (life.fate.map Fate.event).toList

variable {s t u : ChannelState} {e : StreamEvent} {v w : List StreamEvent}

namespace Changes

theorem single (possible : e.possibleIn s = true) : Changes s [e] e.entered :=
  .event possible (StreamEvent.entered_ne_of_possibleIn possible) (.none _)

theorem append (h : Changes s v t) (g : Changes t w u) : Changes s (v ++ w) u := by
  induction h with
  | none => exact g
  | event possible different _ ih => exact .event possible different (ih g)

theorem reached (h : Changes s w t) : t = reached s w := by
  induction h with
  | none => rfl
  | event _ _ _ ih => exact ih

theorem of_isTerminal (h : Changes s w t) (terminal : s.isTerminal = true) : w = [] ∧ t = s := by
  cases h with
  | none => exact ⟨rfl, rfl⟩
  | event possible =>
    rw [StreamEvent.not_possibleIn_of_isTerminal terminal] at possible
    cases possible

theorem length_le (h : Changes s w t) : w.length ≤ 2 * w.count .started + s.ahead := by
  induction h with
  | none s => exact Nat.zero_le _
  | @event s t e w possible _ rest ih =>
    have step : e.entered.ahead + 1 ≤ 2 * [e].count .started + s.ahead := by
      cases s <;> cases e <;> simp_all [StreamEvent.possibleIn, StreamEvent.entered,
        ChannelState.ahead, ChannelState.isTerminal]
    rw [List.length_cons, ← List.singleton_append, List.count_append]
    omega

theorem life (h : Changes s w t) : (s = .stopped → ∃ life : Life, w = life.word) ∧
    (s = .running → ∃ life : Life, .started :: w = life.word) := by
  induction h with
  | none s => exact ⟨fun _ => ⟨⟨0, false, .none⟩, rfl⟩, fun _ => ⟨⟨0, true, .none⟩, rfl⟩⟩
  | @event s t e w possible _ rest ih =>
    cases e with
    | started =>
      refine ⟨fun _ => ih.2 rfl, fun running => ?_⟩
      rw [running] at possible
      cases possible
    | stopped =>
      refine ⟨fun stopped => ?_, fun _ => ?_⟩
      · rw [stopped] at possible
        cases possible
      · obtain ⟨life, rfl⟩ := ih.1 rfl
        exact ⟨{ life with rounds := life.rounds + 1 }, by
          simp [Life.word, List.replicate_succ]⟩
    | disconnected =>
      obtain ⟨rfl, -⟩ := rest.of_isTerminal rfl
      exact ⟨fun _ => ⟨⟨0, false, some .disconnected⟩, rfl⟩,
        fun _ => ⟨⟨0, true, some .disconnected⟩, rfl⟩⟩
    | faulted reason =>
      obtain ⟨rfl, -⟩ := rest.of_isTerminal rfl
      exact ⟨fun _ => ⟨⟨0, false, some (.faulted reason)⟩, rfl⟩,
        fun _ => ⟨⟨0, true, some (.faulted reason)⟩, rfl⟩⟩

end Changes

end Word

section Queue

variable {waiting : List StreamEvent}

def Channel.tell (waiting : List StreamEvent) (e : StreamEvent) : List StreamEvent :=
  if waiting.length < backlog then waiting ++ [e] else waiting

namespace Channel

theorem tell_of_room (room : waiting.length < backlog) (e : StreamEvent) :
    tell waiting e = waiting ++ [e] := if_pos room

theorem tell_of_full (full : backlog ≤ waiting.length) (e : StreamEvent) :
    tell waiting e = waiting := if_neg (Nat.not_lt.mpr full)

theorem length_tell_le (h : waiting.length ≤ backlog) (e : StreamEvent) :
    (tell waiting e).length ≤ backlog := by
  rcases Nat.lt_or_ge waiting.length backlog with room | full
  · rw [tell_of_room room, List.length_append]
    exact room
  · rwa [tell_of_full full]

theorem foldl_tell_of_room (w : List StreamEvent) (room : waiting.length + w.length ≤ backlog) :
    w.foldl tell waiting = waiting ++ w := by
  induction w generalizing waiting with
  | nil => simp
  | cons e w ih =>
    rw [List.length_cons] at room
    rw [List.foldl_cons, tell_of_room (by omega), ih, List.append_assoc]
    · rfl
    · rw [List.length_append, List.length_singleton]
      omega

theorem full_foldl_tell (w : List StreamEvent) (h : backlog ≤ waiting.length + w.length) :
    backlog ≤ (w.foldl tell waiting).length := by
  induction w generalizing waiting with
  | nil => exact h
  | cons e w ih =>
    rw [List.length_cons] at h
    rw [List.foldl_cons]
    apply ih
    rcases Nat.lt_or_ge waiting.length backlog with room | full
    · rw [tell_of_room room, List.length_append, List.length_singleton]
      omega
    · rw [tell_of_full full]
      omega

theorem foldl_tell_tell (w : List StreamEvent) (e : StreamEvent) :
    (tell w e).foldl tell waiting = tell (w.foldl tell waiting) e := by
  rcases Nat.lt_or_ge w.length backlog with room | full
  · rw [tell_of_room room, List.foldl_append]
    rfl
  · rw [tell_of_full full, tell_of_full (full_foldl_tell w (by omega))]

end Channel

end Queue

structure Standing where
  state : ChannelState := .stopped
  waiting : List StreamEvent := []

def Channel.standing (c : Channel) : Standing := ⟨c.state, c.events⟩

namespace Standing

def enter (a : Standing) (e : StreamEvent) : Standing :=
  if e.possibleIn a.state then ⟨e.entered, Channel.tell a.waiting e⟩ else a

structure Hears (a : Standing) (w : List StreamEvent) (b : Standing) : Prop where
  changes : Changes a.state w b.state
  waiting : b.waiting = w.foldl Channel.tell a.waiting

variable {a b c : Standing} {v w : List StreamEvent}

theorem Hears.refl (a : Standing) : a.Hears [] a := ⟨.none _, rfl⟩

theorem Hears.append (h : a.Hears v b) (g : b.Hears w c) : a.Hears (v ++ w) c :=
  ⟨h.changes.append g.changes, by rw [g.waiting, h.waiting, List.foldl_append]⟩

theorem hears_enter (a : Standing) (e : StreamEvent) :
    ∃ w, (w = [] ∨ w = [e]) ∧ a.Hears w (a.enter e) := by
  rw [enter]
  split
  next possible => exact ⟨[e], .inr rfl, .single possible, rfl⟩
  next => exact ⟨[], .inl rfl, .refl a⟩

end Standing

theorem Channel.standing_enter (c : Channel) (e : StreamEvent) :
    (c.enter e).standing = c.standing.enter e := by
  rw [enter, Standing.enter]
  split
  next possible => exact (if_pos possible).symm
  next impossible => exact (if_neg impossible).symm

section Happening

inductive Happening
  | told (e : StreamEvent)
  | fetched (n : Nat)

namespace Happening

def told? : Happening → Option StreamEvent
  | .told e => some e
  | .fetched _ => none

def leave (waiting : List StreamEvent) : Happening → List StreamEvent
  | .told e => Channel.tell waiting e
  | .fetched n => waiting.drop n

def received (waiting : List StreamEvent) : List Happening → List StreamEvent
  | [] => []
  | .told e :: story => received (Channel.tell waiting e) story
  | .fetched n :: story => waiting.take n ++ received (waiting.drop n) story

def kept (waiting : List StreamEvent) : List Happening → List StreamEvent
  | [] => []
  | .told e :: story =>
    if waiting.length = Channel.backlog then kept (Channel.tell waiting e) story
    else e :: kept (Channel.tell waiting e) story
  | .fetched n :: story => kept (waiting.drop n) story

theorem received_append_waiting {waiting : List StreamEvent}
    (room : waiting.length ≤ Channel.backlog) (story : List Happening) :
    received waiting story ++ story.foldl leave waiting = waiting ++ kept waiting story := by
  induction story generalizing waiting with
  | nil => simp [received, kept]
  | cons happening story ih =>
    cases happening with
    | told e =>
      have after := ih (Channel.length_tell_le room e)
      rw [received, List.foldl_cons, leave, after, kept]
      split
      next full => rw [Channel.tell_of_full (Nat.le_of_eq full.symm)]
      next free =>
        rw [Channel.tell_of_room (by omega), List.append_assoc]
        rfl
    | fetched n =>
      have after := @ih (waiting.drop n) (by rw [List.length_drop]; omega)
      rw [received, List.foldl_cons, leave, List.append_assoc, after, kept, ← List.append_assoc,
        List.take_append_drop]

theorem received_append (waiting : List StreamEvent) (first second : List Happening) :
    received waiting (first ++ second) =
      received waiting first ++ received (first.foldl leave waiting) second := by
  induction first generalizing waiting with
  | nil => rfl
  | cons happening first ih =>
    cases happening with
    | told e => exact ih _
    | fetched n => rw [List.cons_append, received, ih, received, List.append_assoc]; rfl

theorem received_told (waiting w : List StreamEvent) : received waiting (w.map .told) = [] := by
  induction w generalizing waiting with
  | nil => rfl
  | cons e w ih => exact ih _

theorem foldl_leave_told (waiting w : List StreamEvent) :
    (w.map .told).foldl leave waiting = w.foldl Channel.tell waiting := by
  rw [List.foldl_map]
  rfl

theorem filterMap_told (w : List StreamEvent) : (w.map Happening.told).filterMap told? = w := by
  rw [List.filterMap_map]
  exact List.filterMap_some

end Happening

namespace Standing

structure Follows (a : Standing) (story : List Happening) (given : List StreamEvent)
    (b : Standing) : Prop where
  changes : Changes a.state (story.filterMap Happening.told?) b.state
  given : given = Happening.received a.waiting story
  waiting : b.waiting = story.foldl Happening.leave a.waiting

namespace Follows

variable {a b c : Standing} {story more : List Happening} {first second : List StreamEvent}

theorem refl (a : Standing) : a.Follows [] [] a := ⟨.none _, rfl, rfl⟩

theorem append (h : a.Follows story first b) (g : b.Follows more second c) :
    a.Follows (story ++ more) (first ++ second) c where
  changes := by
    rw [List.filterMap_append]
    exact h.changes.append g.changes
  given := by rw [Happening.received_append, ← h.given, ← h.waiting, ← g.given]
  waiting := by rw [List.foldl_append, ← h.waiting, g.waiting]

theorem of_hears {w : List StreamEvent} (h : a.Hears w b) : a.Follows (w.map .told) [] b where
  changes := by
    rw [Happening.filterMap_told]
    exact h.changes
  given := (Happening.received_told _ w).symm
  waiting := by rw [Happening.foldl_leave_told, h.waiting]

theorem fetch (a : Standing) (n : Nat) :
    a.Follows [.fetched n] (a.waiting.take n) { a with waiting := a.waiting.drop n } :=
  ⟨.none _, (List.append_nil _).symm, rfl⟩

end Follows

end Standing

end Happening

end SharedAudio

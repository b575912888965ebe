import SharedAudio.Proofs.Endpoint.Hearing
import SharedAudio.Proofs.Server.Admission
import SharedAudio.Proofs.Server.Past

namespace SharedAudio

theorem Site.Deed.tells {op : Operation} {k : Nat} {act : Site → Site} (h : Site.Deed op k act)
    (site : Site) : Tells 0 site.channels (act site).channels := by
  cases h with
  | setPlan | extendScript => exact .refl _
  | openStream => exact site.tells_opened
  | closeStream => exact site.tells_closeStream
  | unregister k id => exact site.tells_unregister id
  | stop k id | toggle k id => exact site.tells_stop id
  | setVolume k id volume => exact site.tells_setVolume id volume
  | setLevel k id level => exact site.tells_setVolume id _
  | disconnectAll => exact site.tells_modifyRegistered .disconnected

namespace Server

variable {s : Server} {k key : Nat} {op : Operation}

def standing (s : Server) (key : Nat) : Standing := standingAt s.channels key

section Tells

theorem tells_actOn (s : Server) (k : Nat) {n : Nat} {act : Site → Site}
    (step : ∀ site : Site, Tells n site.channels (act site).channels) :
    Tells n s.channels (s.actOn k act).channels := by
  cases found : s.site? k with
  | none =>
    rw [actOn_of_none found]
    exact (Tells.refl _).mono (Nat.zero_le n)
  | some site =>
    rw [actOn_of_site found, ← (endpoint_of_site? found).2]
    exact step site

theorem tells_actOnChannel (s : Server) (key : Nat) {act : Channel → Channel}
    (same : ∀ c, (act c).standing = c.standing) :
    Tells 0 s.channels (s.actOnChannel key act).channels :=
  .of_standing (s.map_actOnChannel key same)

theorem tells_actOnChannel_enter (s : Server) (key : Nat) {e : StreamEvent} :
    Tells ([e].count .started) s.channels (s.actOnChannel key (·.enter e)).channels := by
  refine .of_enter e fun l => ?_
  rw [getElem?_actOnChannel]
  split
  · exact .inr rfl
  · exact .inl rfl

theorem tells_addChannel (s : Server) (id : StreamId) (ring : Ring) :
    Tells 0 s.channels (s.addChannel id ring).2.channels := by
  intro key
  rw [standingAt, standingAt, addChannel, Array.getElem?_push]
  split
  next new =>
    rw [new, Array.getElem?_size]
    exact ⟨fun none => (by cases none), [], Nat.le_refl 0, .refl _⟩
  next => exact ⟨fun none => none, [], Nat.le_refl 0, .refl _⟩

theorem tells_unreference (s : Server) (k : Nat) :
    Tells 0 s.channels (s.unreference k).channels := by
  obtain ⟨count, eq | eq⟩ := s.unreference_cases k
  · rw [eq]
    exact .refl _
  · rw [eq, retire_eq]
    refine tells_actOn ((s.setReferences k count).unlist k) k fun site => ?_
    rw [Site.channels_announce]
    exact site.tells_closeStream

theorem tells_channel {act : Channel → Channel} (deed : Channel.Deed op key act)
    (adds : ∀ key, op ≠ .drainEvents key) :
    Tells 0 s.channels (s.actOnChannel key act).channels := by
  cases deed with
  | write | pop | setGain => exact s.tells_actOnChannel key fun _ => rfl
  | retarget key threshold =>
    refine s.tells_actOnChannel key fun c => ?_
    simp only [Channel.retarget?]
    cases c.ring.retarget? threshold <;> rfl
  | disconnect | fault => exact s.tells_actOnChannel_enter key
  | drainEvents key => exact absurd rfl (adds key)

theorem tells_perform (s : Server) (op : Operation) (adds : ∀ key, op ≠ .drainEvents key) :
    Tells 1 s.channels (s.perform op).channels := by
  have few {after : Array Channel} (h : Tells 0 s.channels after) : Tells 1 s.channels after :=
    h.mono (Nat.zero_le 1)
  have deed := s.deed_perform op
  generalize s.perform op = t at deed ⊢
  cases deed with
  | still | addEndpoint | drainLog => exact few (.refl _)
  | acquire config plan => exact few (.of_eq (s.channels_acquire config plan))
  | release handle k => exact few ((s.letGo handle).tells_unreference k)
  | grant k n => exact few (s.tells_actOn k fun site => site.tells_grantUpTo n 0)
  | createChannel | addChannel => exact few (s.tells_addChannel _ _)
  | register k key c =>
    exact few (s.tells_actOn k fun site => .of_eq (site.channels_register key c))
  | start op k id => exact s.tells_actOn k fun site => site.tells_start id
  | site op k act deed => exact few (s.tells_actOn k deed.tells)
  | channel op key act deed => exact few (tells_channel deed adds)

end Tells

section Notified

def joining (key : Nat) (queue : List StreamEvent) : Blur where
  calls first second := first = second
  refl _ := rfl
  append _ same := by rw [same]
  waiting l events := if l = key then events.foldl Channel.tell queue else events
  told l events e := by
    split
    · exact Channel.foldl_tell_tell events e
    · rfl

def emptied (s : Server) (key : Nat) : Server := s.perform (.drainEvents key)

def notified (s : Server) (key : Nat) (op : Operation) : List StreamEvent :=
  (((s.emptied key).perform op).standing key).waiting

theorem getElem?_emptied (s : Server) (key l : Nat) : (s.emptied key).channels[l]? =
    if key = l then s.channels[l]?.map ({ · with events := [] }) else s.channels[l]? := by
  rw [emptied, perform_drainEvents, getElem?_actOnChannel]
  rfl

theorem standing_emptied (s : Server) (key : Nat) :
    (s.emptied key).standing key = { s.standing key with waiting := [] } := by
  rw [standing, standingAt, getElem?_emptied, if_pos rfl, standing, standingAt]
  cases s.channels[key]? <;> rfl

theorem emptied_eq (s : Server) (key : Nat) :
    s.emptied key = { s with channels := (s.emptied key).channels } := by
  rw [emptied, perform_drainEvents]
  exact actOnChannel_eq ..

theorem channels_emptied (s : Server) (key : Nat) : s.channels =
    (joining key (s.standing key).waiting).channels (s.emptied key).channels := by
  apply Array.ext_getElem?
  intro l
  rw [Blur.channels, Past.getElem?_channels, getElem?_emptied]
  split
  next same =>
    rw [← same, standing, standingAt]
    cases s.channels[key]? with
    | none => rfl
    | some c => simp [Channel.after, Blur.past, joining, Channel.standing]
  next other =>
    cases s.channels[l]? with
    | none => rfl
    | some c => simp [Channel.after, Blur.past, joining, Ne.symm other]

theorem like_emptied (s : Server) (key : Nat) :
    (s.emptied key).Like (joining key (s.standing key).waiting) s := by
  refine .of_channels ?_ (s.channels_emptied key)
  rw [emptied_eq]

theorem told_perform (s : Server) (key : Nat) (op : Operation) (adds : op ≠ .drainEvents key) :
    ((s.perform op).channels[key]? = none → s.channels[key]? = none) ∧
      ∃ w, w.count .started ≤ 1 ∧ (s.standing key).Hears w ((s.perform op).standing key) := by
  by_cases drains : ∃ l, op = .drainEvents l
  · obtain ⟨l, rfl⟩ := drains
    have other : l ≠ key := fun same => adds (by rw [same])
    have same : (s.perform (.drainEvents l)).channels[key]? = s.channels[key]? := by
      rw [← emptied, getElem?_emptied, if_neg other]
    rw [standing, standingAt, standing, standingAt, same]
    exact ⟨id, [], Nat.zero_le 1, .refl _⟩
  · exact s.tells_perform op (fun l same => drains ⟨l, same⟩) key

theorem hears_perform (s : Server) (key : Nat) (op : Operation) (adds : op ≠ .drainEvents key) :
    (s.standing key).Hears (s.notified key op) ((s.perform op).standing key) := by
  obtain ⟨stays, w, few, heard⟩ := (s.emptied key).told_perform key op adds
  have like := s.like_emptied key
  have unread : (joining key (s.standing key).waiting).waiting (s.emptied key).channels.size [] =
      [] := by
    rw [← like.sizes]
    dsimp only [joining]
    split
    next new =>
      rw [standing, standingAt, ← new, Array.getElem?_size]
      rfl
    next => rfl
  have apart : ∀ l, op = .drainEvents l → ∀ events,
      (joining key (s.standing key).waiting).waiting l events = events :=
    fun l drains events => if_neg fun same => adds (by rw [drains, same])
  have channels := (like.perform unread op apart).2.channels
  have word : s.notified key op = w := by
    have short : w.length ≤ Channel.backlog := by
      have bound := heard.changes.length_le
      have ahead : ((s.emptied key).standing key).state.ahead ≤ 2 := by
        cases ((s.emptied key).standing key).state <;> decide
      have room : 2 * 1 + 2 ≤ Channel.backlog := by decide
      omega
    rw [notified, heard.waiting, standing_emptied,
      Channel.foldl_tell_of_room w (by simpa using short)]
    rfl
  have after : (s.perform op).standing key =
      ⟨(((s.emptied key).perform op).standing key).state,
        (s.notified key op).foldl Channel.tell (s.standing key).waiting⟩ := by
    rw [notified]
    generalize (s.emptied key).perform op = t at channels stays
    rw [standing, standingAt, channels, Blur.channels, Past.getElem?_channels,
      show t.standing key = standingAt t.channels key from rfl, standingAt]
    cases there : t.channels[key]? with
    | none =>
      have absent : s.channels[key]? = none := by
        have none := stays there
        rw [getElem?_emptied, if_pos rfl] at none
        exact Option.map_eq_none_iff.mp none
      rw [standing, standingAt, absent]
      rfl
    | some c => simp [Channel.after, Blur.past, joining, Channel.standing]
  rw [after]
  rw [standing_emptied] at heard
  exact ⟨word ▸ heard.changes, rfl⟩

end Notified

section Story

inductive Turn
  | act (op : Operation)
  | fetch (n : Nat)

def turn (s : Server) (key : Nat) : Turn → Server
  | .act op => s.perform op
  | .fetch n => s.actOnChannel key fun c => { c with events := c.events.drop n }

def play (s : Server) (key : Nat) (turns : List Turn) : Server := turns.foldl (·.turn key) s

def given (s : Server) (key : Nat) : Turn → List StreamEvent
  | .act (.drainEvents l) =>
    match s.reply? (.drainEvents l) with
    | some (.events events) => if l = key then events else []
    | _ => []
  | .act _ => []
  | .fetch n => (s.standing key).waiting.take n

def scene (s : Server) (key : Nat) : Turn → List Happening
  | .act (.drainEvents l) => if l = key then [.fetched (s.standing key).waiting.length] else []
  | .act op => (s.notified key op).map .told
  | .fetch n => [.fetched n]

def gains (s : Server) (key : Nat) : List Turn → List StreamEvent
  | [] => []
  | turn :: turns => s.given key turn ++ (s.turn key turn).gains key turns

def story (s : Server) (key : Nat) : List Turn → List Happening
  | [] => []
  | turn :: turns => s.scene key turn ++ (s.turn key turn).story key turns

theorem given_drainEvents (s : Server) (key l : Nat) : s.given key (.act (.drainEvents l)) =
    if l = key then (s.standing l).waiting else [] := by
  rw [given, reply?, perform?, onChannel?, standing, standingAt]
  cases s.channels[l]? with
  | none => exact (ite_self _).symm
  | some c => rfl

theorem follows_drainEvents (s : Server) (key l : Nat) : (s.standing key).Follows
    (s.scene key (.act (.drainEvents l))) (s.given key (.act (.drainEvents l)))
      ((s.emptied l).standing key) := by
  rw [given_drainEvents, scene]
  split
  next same =>
    have fetched := Standing.Follows.fetch (s.standing key) (s.standing key).waiting.length
    rw [List.take_length, List.drop_length] at fetched
    rw [same, standing_emptied]
    exact fetched
  next other =>
    have same : (s.emptied l).standing key = s.standing key := by
      rw [standing, standingAt, getElem?_emptied, if_neg other]
      rfl
    rw [same]
    exact .refl _

theorem follows_turn (s : Server) (key : Nat) (turn : Turn) :
    (s.standing key).Follows (s.scene key turn) (s.given key turn)
      ((s.turn key turn).standing key) := by
  cases turn with
  | fetch n =>
    have left : (s.turn key (.fetch n)).standing key =
        { s.standing key with waiting := (s.standing key).waiting.drop n } := by
      rw [turn, standing, standingAt, getElem?_actOnChannel, if_pos rfl, standing, standingAt]
      cases s.channels[key]? with
      | none => simp
      | some c => rfl
    rw [left]
    exact .fetch _ n
  | act op =>
    by_cases drains : ∃ l, op = .drainEvents l
    · obtain ⟨l, rfl⟩ := drains
      exact s.follows_drainEvents key l
    · have adds (l : Nat) : op ≠ .drainEvents l := fun same => drains ⟨l, same⟩
      have told : s.scene key (.act op) = (s.notified key op).map .told ∧
          s.given key (.act op) = [] := by
        cases op <;> first | exact ⟨rfl, rfl⟩ | exact absurd rfl (adds _)
      rw [told.1, told.2]
      exact .of_hears (s.hears_perform key op (adds key))

theorem follows_play (s : Server) (key : Nat) (turns : List Turn) :
    (s.standing key).Follows (s.story key turns) (s.gains key turns)
      ((s.play key turns).standing key) := by
  induction turns generalizing s with
  | nil => exact .refl _
  | cons turn turns ih => exact (s.follows_turn key turn).append (ih (s.turn key turn))

theorem channel_lives_once (options : Options) (key : Nat) (turns : List Turn) :
    let start : Server := { options }
    let s := start.play key turns
    let story := start.story key turns
    let word := story.filterMap Happening.told?
    (∃ life : Life, word = life.word) ∧
      (s.standing key).state = reached .stopped word ∧
      start.gains key turns ++ (s.standing key).waiting = Happening.kept [] story ∧
      (∀ turn, Changes (s.standing key).state ((s.scene key turn).filterMap Happening.told?)
        ((s.turn key turn).standing key).state) ∧
      ((s.standing key).state.isTerminal = true → ∀ more,
        ((s.play key more).standing key).state = (s.standing key).state ∧
          (s.story key more).filterMap Happening.told? = []) := by
  intro start s story word
  obtain ⟨changes, gained, waiting⟩ := start.follows_play key turns
  have begun : start.standing key = {} := by simp [standing, standingAt, start]
  rw [begun] at changes gained waiting
  refine ⟨changes.life.1 rfl, changes.reached, ?_, fun turn => (s.follows_turn key turn).changes,
    ?_⟩
  · rw [gained, waiting]
    exact Happening.received_append_waiting (Nat.zero_le _) story
  · intro terminal more
    exact ((s.follows_play key more).changes.of_isTerminal terminal).symm

theorem channel_lives_once_through_reopening :
    let start : Server := { options := {} }
    let turns := [.act (.acquire {} {}), .act (.createChannel 0), .act (.register 0 0),
      .act (.start 0 ⟨1⟩), .fetch 1, .act (.disconnect 0)]
    let more := [.act (.closeStream 0), .act (.openStream 0), .act (.register 0 0),
      .act (.start 0 ⟨1⟩), .act (.fault 0 "late")]
    let s := start.play 0 turns
    (start.story 0 turns).filterMap Happening.told? = [.started, .disconnected] ∧
      start.gains 0 turns = [.started] ∧ (s.standing 0).state = .disconnected ∧
      ((s.play 0 more).standing 0).state = .disconnected ∧
        (s.story 0 more).filterMap Happening.told? = [] := by
  intro start turns more s
  have ended : (s.standing 0).state = .disconnected := by decide
  obtain ⟨still, silent⟩ := (channel_lives_once {} 0 turns).2.2.2.2 (by rw [ended]; rfl) more
  exact ⟨by decide, by decide, ended, still.trans ended, silent⟩

end Story

end Server

end SharedAudio

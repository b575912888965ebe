import SharedAudio.Proofs.Channel.Lifecycle
import SharedAudio.Proofs.Endpoint.Opening
import SharedAudio.Proofs.Endpoint.Work

namespace SharedAudio

def standingAt (all : Array Channel) (key : Nat) : Standing :=
  (all[key]?.map Channel.standing).getD {}

def Tells (n : Nat) (before after : Array Channel) : Prop := ∀ key : Nat,
  (after[key]? = none → before[key]? = none) ∧
    ∃ w, w.count .started ≤ n ∧ (standingAt before key).Hears w (standingAt after key)

namespace Tells

variable {n m : Nat} {before between after : Array Channel}

theorem refl (all : Array Channel) : Tells 0 all all :=
  fun _ => ⟨id, [], Nat.le_refl 0, .refl _⟩

theorem trans (h : Tells n before between) (g : Tells m between after) :
    Tells (n + m) before after := by
  intro key
  obtain ⟨stays, v, few, first⟩ := h key
  obtain ⟨stays', w, few', second⟩ := g key
  refine ⟨stays ∘ stays', v ++ w, ?_, first.append second⟩
  rw [List.count_append]
  exact Nat.add_le_add few few'

theorem mono (h : Tells n before after) (few : n ≤ m) : Tells m before after := by
  intro key
  obtain ⟨stays, w, fewer, heard⟩ := h key
  exact ⟨stays, w, Nat.le_trans fewer few, heard⟩

theorem of_eq (same : after = before) : Tells 0 before after := same ▸ .refl before

theorem of_standing
    (same : ∀ key : Nat, after[key]?.map Channel.standing = before[key]?.map Channel.standing) :
    Tells 0 before after := by
  intro key
  refine ⟨fun none => ?_, [], Nat.le_refl 0, ?_⟩
  · rw [← Option.map_eq_none_iff (f := Channel.standing), ← same, none]
    rfl
  · rw [standingAt, standingAt, same]
    exact .refl _

theorem of_enter (e : StreamEvent) (entered : ∀ key : Nat,
    after[key]? = before[key]? ∨ after[key]? = before[key]?.map (·.enter e)) :
    Tells ([e].count .started) before after := by
  intro key
  rw [standingAt, standingAt]
  rcases entered key with same | entered
  · rw [same]
    exact ⟨id, [], Nat.zero_le _, .refl _⟩
  · rw [entered]
    cases before[key]? with
    | none => exact ⟨id, [], Nat.zero_le _, .refl _⟩
    | some c =>
      refine ⟨fun none => (by cases none), ?_⟩
      obtain ⟨w, one, heard⟩ := c.standing.hears_enter e
      rw [← c.standing_enter] at heard
      refine ⟨w, ?_, heard⟩
      rcases one with rfl | rfl
      · exact Nat.zero_le _
      · exact Nat.le_refl _

end Tells

namespace Site

variable {s t : Site}

theorem tells_modifyChannel (s : Site) (key : Nat) (e : StreamEvent) :
    Tells ([e].count .started) s.channels (s.modifyChannel key (·.enter e)).channels := by
  refine Tells.of_enter e fun other => ?_
  rw [getElem?_modifyChannel]
  split
  · exact .inr rfl
  · exact .inl rfl

theorem tells_modifyRegistered (s : Site) (e : StreamEvent) :
    Tells ([e].count .started) s.channels (s.modifyRegistered (·.enter e)).channels := by
  refine Tells.of_enter e fun other => ?_
  rw [getElem?_modifyRegistered fun c => c.enter_enter e]
  split
  · exact .inr rfl
  · exact .inl rfl

theorem tells_finish (s : Site) (exit : LoopExit) :
    Tells 0 s.channels (s.finish exit).channels := by
  cases exit with
  | stopped => exact .refl _
  | disconnected => exact s.tells_modifyRegistered .disconnected
  | shortWrite written requested => exact s.tells_modifyRegistered (.faulted _)
  | writeFailed reason => exact s.tells_modifyRegistered (.faulted _)

theorem tells_joinPanicked (s : Site) (flag : Bool) :
    Tells 0 s.channels (s.joinPanicked flag).channels :=
  s.tells_modifyRegistered (.faulted panicReason)

theorem standing_mix (s : Site) (mixer : Mixer) (key : Nat) :
    (s.mix mixer).2.channels[key]?.map Channel.standing =
      s.channels[key]?.map Channel.standing :=
  @Mixing.map_foldl_take ⟨some mixer.clear, s.channels, s.endpoint.underflows⟩ key _ _
    (fun _ => rfl) (fun _ _ _ _ => rfl) s.endpoint.registered

theorem tells_continueLoop (s : Site) (mixer : Mixer) :
    Tells 0 s.channels (s.continueLoop mixer).channels := by
  rw [channels_continueLoop]
  exact .of_standing (s.standing_mix mixer)

theorem Halted.tells (h : s.Halted t) : Tells 0 s.channels t.channels := by
  cases h with
  | resting | lost => exact .refl _
  | ended =>
    rw [channels_announce]
    exact .refl _
  | panicked =>
    rw [channels_announce]
    exact s.tells_joinPanicked false
  | written line mixer delivery exit u opened loop delivered =>
    rw [channels_announce, channels_setLoop, ← delivered.channels]
    exact u.tells_finish exit
  | died line mixer u opened loop delivered =>
    rw [channels_announce, ← delivered.channels]
    exact u.tells_joinPanicked false

theorem tells_halt (s : Site) : Tells 0 s.channels s.halt.channels := s.halted_halt.tells

theorem Granted.tells (h : s.Granted t) : Tells 0 s.channels t.channels := by
  cases h with
  | delivered line mixer u opened loop delivered =>
    rw [← delivered.channels]
    exact u.tells_continueLoop mixer
  | failed line mixer exit u opened loop delivered =>
    rw [channels_setLoop, ← delivered.channels]
    exact u.tells_finish exit
  | died line mixer u opened loop delivered => exact .of_eq delivered.channels

theorem Launched.tells {answer : Except EndpointError Unit} (h : s.Launched answer t) :
    Tells 0 s.channels t.channels := by
  cases h with
  | unable | already | ailing => exact .refl _
  | joined => exact s.tells_joinPanicked true
  | begun line mixer =>
    have begun := ((s.setLoop (.idle mixer)).announce "streaming").tells_continueLoop mixer
    rwa [channels_announce] at begun

theorem tells_grantUpTo (s : Site) (n granted : Nat) :
    Tells 0 s.channels (s.grantUpTo n granted).2.channels :=
  grantUpTo_induction (P := fun t => Tells 0 s.channels t.channels)
    (fun granted tells => tells.trans granted.tells) (.refl _) n granted

theorem tells_closeStream (s : Site) : Tells 0 s.channels s.closeStream.2.channels := by
  unfold closeStream
  split
  · exact .refl _
  · rw [channels_announce]
    exact s.tells_halt.trans (s.halt.tells_modifyRegistered .stopped)

theorem tells_stopKey (s : Site) (key : Nat) : Tells 0 s.channels (s.stopKey key).channels := by
  have stopped := s.tells_modifyChannel key .stopped
  unfold stopKey
  split
  · dsimp only
    split
    · exact stopped.trans (tells_halt _)
    · exact stopped
  · exact .refl _

theorem tells_stop (s : Site) (id : StreamId) : Tells 0 s.channels (s.stop id).2.channels := by
  rcases s.stop_cases id with ⟨_, eq⟩ | ⟨key, -, -, eq⟩
  · rw [eq]
    exact .refl _
  · rw [eq]
    exact s.tells_stopKey key

theorem tells_unregister (s : Site) (id : StreamId) :
    Tells 0 s.channels (s.unregister id).channels := by
  cases found : s.find? id with
  | none => rw [unregister_of_unknown found]; exact .refl _
  | some key =>
    rw [unregister_of_find? found]
    exact (s.without key).tells_stopKey key

theorem tells_setVolume (s : Site) (id : StreamId) (volume : Sample) :
    Tells 0 s.channels (s.setVolume id volume).2.channels := by
  rcases s.setVolume_cases id volume with ⟨_, eq⟩ | ⟨key, -, eq⟩
  · rw [eq]
    exact .refl _
  · rw [eq]
    refine .of_standing fun other => ?_
    rw [getElem?_modifyChannel]
    split
    · rw [Option.map_map]
      rfl
    · rfl

theorem tells_opened (s : Site) : Tells 0 s.channels s.opened.channels := by
  rcases s.opened_cases with ⟨_, -, eq⟩ | ⟨_, _, _, -, -, -, channels, -⟩
  · rw [eq]
    exact .refl _
  · exact .of_eq channels

theorem tells_start (s : Site) (id : StreamId) : Tells 1 s.channels (s.started id).channels := by
  rcases s.start_cases id with
    ⟨error, eq⟩ | ⟨key, c, -, present, -, -, -, answer, t, launched, -, eq⟩
  · rw [eq]
    exact (Tells.refl s.channels).mono (Nat.zero_le 1)
  · have entered : Tells 1 s.channels (s.modifyChannel key fun _ => c.enter .started).channels := by
      refine Tells.of_enter .started fun other => ?_
      rw [getElem?_modifyChannel]
      split
      next same =>
        rw [← same, present]
        exact .inr rfl
      next => exact .inl rfl
    have begun := entered.trans launched.tells
    rw [eq]
    cases answer with
    | ok => exact begun
    | error => exact begun.trans (t.tells_modifyChannel key .stopped)

end Site

end SharedAudio

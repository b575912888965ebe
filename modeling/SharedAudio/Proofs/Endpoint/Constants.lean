import SharedAudio.Proofs.Endpoint.Opening
import SharedAudio.Proofs.Endpoint.Work

namespace SharedAudio

structure Channel.Enduring {β : Type} (view : Channel → β) : Prop where
  enter : ∀ (c : Channel) (e : StreamEvent), view (c.enter e) = view c
  gain : ∀ c : Channel, view c.stepGain = view c
  share : ∀ (c : Channel) (mixer : Mixer) (s : Mixer.Share),
    mixer.add? c.ring c.applied = some s → view (c.record s) = view c

structure Channel.Constant {β : Type} (view : Channel → β) : Prop extends
    Channel.Enduring view where
  aim : ∀ (c : Channel) (ramp : Ramp), view { c with ramp } = view c

theorem Channel.constant_id : Constant (·.id) where
  enter c e := c.id_enter e
  aim _ _ := rfl
  gain _ := rfl
  share _ _ _ _ := rfl

theorem Channel.constant_channels : Constant (·.channels) where
  enter c e := c.channels_enter e
  aim _ _ := rfl
  gain _ := rfl
  share _ _ _ := Site.width_record

def Keeps {β : Type} (view : Channel → β) (before after : Array Channel) : Prop :=
  ∀ key : Nat, after[key]?.map view = before[key]?.map view

namespace Keeps

variable {β : Type} {view : Channel → β} {before between after : Array Channel}

theorem refl (all : Array Channel) : Keeps view all all := fun _ => rfl

theorem trans (h : Keeps view before between) (g : Keeps view between after) :
    Keeps view before after := fun key => (g key).trans (h key)

theorem of_eq (same : after = before) : Keeps view before after := fun key => by rw [same]

end Keeps

namespace Site

variable {β : Type} {view : Channel → β} {s t : Site}

section Enter

variable (enter : ∀ (c : Channel) (e : StreamEvent), view (c.enter e) = view c)
include enter

theorem keeps_enter (s : Site) (key : Nat) (e : StreamEvent) :
    Keeps view s.channels (s.modifyChannel key (·.enter e)).channels :=
  map_modifyChannel fun c _ => enter c e

theorem keeps_enterAll (s : Site) (e : StreamEvent) :
    Keeps view s.channels (s.modifyRegistered (·.enter e)).channels :=
  map_modifyRegistered (fun c => c.enter_enter e) fun c => enter c e

theorem keeps_finish (s : Site) (exit : LoopExit) :
    Keeps view s.channels (s.finish exit).channels := by
  cases exit with
  | stopped => exact .refl _
  | disconnected => exact keeps_enterAll enter s .disconnected
  | shortWrite written requested => exact keeps_enterAll enter s (.faulted _)
  | writeFailed reason => exact keeps_enterAll enter s (.faulted _)

theorem Halted.keeps (h : s.Halted t) : Keeps view s.channels t.channels := by
  cases h with
  | resting | lost => exact .refl _
  | ended =>
    rw [channels_announce]
    exact .refl _
  | panicked =>
    rw [channels_announce]
    exact keeps_enterAll enter s (.faulted panicReason)
  | written line mixer delivery exit u opened loop delivered =>
    rw [channels_announce, channels_setLoop, ← delivered.channels]
    exact keeps_finish enter u exit
  | died line mixer u opened loop delivered =>
    rw [channels_announce, ← delivered.channels]
    exact keeps_enterAll enter u (.faulted panicReason)

theorem keeps_closeStream (s : Site) : Keeps view s.channels s.closeStream.2.channels := by
  unfold closeStream
  split
  · exact .refl _
  · rw [channels_announce]
    exact (s.halted_halt.keeps enter).trans (keeps_enterAll enter s.halt .stopped)

theorem keeps_stopKey (s : Site) (key : Nat) : Keeps view s.channels (s.stopKey key).channels := by
  have stopped := keeps_enter enter s key .stopped
  rcases s.stopKey_cases key with ⟨-, eq⟩ | ⟨t, rfl, ⟨-, eq⟩ | ⟨-, eq⟩⟩
  · rw [eq]
    exact .refl _
  · rw [eq]
    exact stopped
  · rw [eq]
    exact stopped.trans ((halted_halt _).keeps enter)

theorem keeps_stop (s : Site) (id : StreamId) :
    Keeps view s.channels (s.stop id).2.channels := by
  rcases s.stop_cases id with ⟨_, eq⟩ | ⟨key, -, -, eq⟩
  · rw [eq]
    exact .refl _
  · rw [eq]
    exact keeps_stopKey enter s key

theorem keeps_unregister (s : Site) (id : StreamId) :
    Keeps view s.channels (s.unregister id).channels := by
  cases found : s.find? id with
  | none =>
    rw [unregister_of_unknown found]
    exact .refl _
  | some key =>
    rw [unregister_of_find? found]
    exact keeps_stopKey enter (s.without key) key

theorem Granted.keeps_or_mixes (h : s.Granted t) : Keeps view s.channels t.channels ∨
    ∃ line mixer ready, s.Mixes line mixer ready ∧ t = ready.continueLoop mixer := by
  cases h with
  | delivered line mixer u opened loop delivered =>
    exact .inr ⟨line, mixer, u, delivered.mixes opened loop, rfl⟩
  | failed line mixer exit u opened loop delivered =>
    rw [channels_setLoop, ← delivered.channels]
    exact .inl (keeps_finish enter u exit)
  | died line mixer u opened loop delivered => exact .inl (.of_eq delivered.channels)

theorem start_keeps_or_mixes (s : Site) (id : StreamId) :
    Keeps view s.channels (s.started id).channels ∨
      ∃ line mixer ready, s.Mixes line mixer ready ∧ (s.started id) = ready.continueLoop mixer := by
  rcases s.start_cases id with
    ⟨error, eq⟩ | ⟨key, c, -, present, -, -, -, answer, t, launched, -, eq⟩
  · rw [eq]
    exact .inl (.refl _)
  have started : Keeps view s.channels (s.modifyChannel key fun _ => c.enter .started).channels :=
    map_started present (enter c .started)
  have stopped (t : Site) := keeps_enter enter t key .stopped
  rw [eq]
  generalize built : (s.modifyChannel key fun _ => c.enter .started) = b at started launched
  cases launched with
  | unable | ailing => exact .inl (started.trans (stopped _))
  | already => exact .inl started
  | joined =>
    have faulted := keeps_enterAll enter b (.faulted panicReason)
    exact .inl ((started.trans faulted).trans (stopped _))
  | begun line mixer opened loop =>
    subst built
    exact .inr ⟨line, mixer, _, mixes_begin present opened loop, rfl⟩

end Enter

theorem keeps_opened (s : Site) : Keeps view s.channels s.opened.channels := by
  rcases s.opened_cases with ⟨_, -, eq⟩ | ⟨_, _, _, -, -, -, channels, -⟩
  · rw [eq]
    exact .refl _
  · exact .of_eq channels

theorem keeps_setVolume (aim : ∀ (c : Channel) (ramp : Ramp), view { c with ramp } = view c)
    (s : Site) (id : StreamId) (volume : Sample) :
    Keeps view s.channels (s.setVolume id volume).2.channels := by
  rcases s.setVolume_cases id volume with ⟨_, eq⟩ | ⟨key, -, eq⟩
  · rw [eq]
    exact .refl _
  · rw [eq]
    exact map_modifyChannel fun c _ => aim c _

section Enduring

variable (enduring : Channel.Enduring view)
include enduring

theorem keeps_continueLoop (s : Site) (mixer : Mixer) :
    Keeps view s.channels (s.continueLoop mixer).channels := by
  rw [channels_continueLoop]
  exact fun key => @Mixing.map_foldl_take ⟨some mixer.clear, s.channels, s.endpoint.underflows⟩ key
    _ _ enduring.gain enduring.share s.endpoint.registered

theorem Granted.keeps (h : s.Granted t) : Keeps view s.channels t.channels := by
  cases h with
  | delivered line mixer u opened loop delivered =>
    rw [← delivered.channels]
    exact keeps_continueLoop enduring u mixer
  | failed line mixer exit u opened loop delivered =>
    rw [channels_setLoop, ← delivered.channels]
    exact keeps_finish enduring.enter u exit
  | died line mixer u opened loop delivered => exact .of_eq delivered.channels

theorem Launched.keeps {answer : Except EndpointError Unit} (h : s.Launched answer t) :
    Keeps view s.channels t.channels := by
  cases h with
  | unable | already | ailing => exact .refl _
  | joined => exact keeps_enterAll enduring.enter s (.faulted panicReason)
  | begun line mixer =>
    have begun := keeps_continueLoop enduring ((s.setLoop (.idle mixer)).announce "streaming") mixer
    rwa [channels_announce] at begun

theorem keeps_grantUpTo (s : Site) (n granted : Nat) :
    Keeps view s.channels (s.grantUpTo n granted).2.channels :=
  grantUpTo_induction (P := fun t => Keeps view s.channels t.channels)
    (fun granted keeps => keeps.trans (granted.keeps enduring)) (.refl _) n granted

theorem keeps_start (s : Site) (id : StreamId) :
    Keeps view s.channels (s.started id).channels := by
  rcases s.start_cases id with
    ⟨error, eq⟩ | ⟨key, c, -, present, -, -, -, answer, t, launched, -, eq⟩
  · rw [eq]
    exact .refl _
  · have entered : Keeps view s.channels (s.modifyChannel key fun _ => c.enter .started).channels :=
      map_started present (enduring.enter c .started)
    have begun := entered.trans (launched.keeps enduring)
    rw [eq]
    cases answer with
    | ok => exact begun
    | error => exact begun.trans (keeps_enter enduring.enter t key .stopped)

end Enduring

end Site

end SharedAudio

import SharedAudio.Proofs.Endpoint.Work

namespace SharedAudio.Site

variable {s t u : Site} {key : Nat}

structure Retains (s t : Site) : Prop where
  total : t.endpoint.underflows = s.endpoint.underflows
  each : ∀ key : Nat, t.channels[key]?.map (·.underflows) = s.channels[key]?.map (·.underflows)
  isOpen : t.endpoint.isOpen = true → s.endpoint.isOpen = true

namespace Retains

theorem refl (s : Site) : s.Retains s := ⟨rfl, fun _ => rfl, id⟩

theorem trans (h : s.Retains t) (g : t.Retains u) : s.Retains u where
  total := g.total.trans h.total
  each key := (g.each key).trans (h.each key)
  isOpen opened := h.isOpen (g.isOpen opened)

theorem announce (h : s.Retains t) (what : String) : s.Retains (t.announce what) :=
  h.trans ⟨by simp, fun _ => by simp, by simp⟩

theorem setLoop (h : s.Retains t) (loop : Loop) : s.Retains (t.setLoop loop) := by
  refine h.trans ⟨?_, fun _ => rfl, by simp⟩
  rw [endpoint_setLoop, Endpoint.setLoop_eq]

end Retains

theorem retains_modifyChannel {change : Channel → Channel}
    (kept : ∀ c, (change c).underflows = c.underflows) : s.Retains (s.modifyChannel key change) :=
  ⟨rfl, map_modifyChannel fun c _ => kept c, id⟩

theorem retains_enterAll (s : Site) (e : StreamEvent) :
    s.Retains (s.modifyRegistered (·.enter e)) :=
  ⟨rfl, map_modifyRegistered (fun c => c.enter_enter e) fun c => c.underflows_enter e, id⟩

theorem retains_finish (s : Site) (exit : LoopExit) : s.Retains (s.finish exit) := by
  cases exit with
  | stopped => exact ⟨rfl, fun _ => rfl, id⟩
  | disconnected => exact (s.retains_enterAll .disconnected).trans ⟨rfl, fun _ => rfl, id⟩
  | shortWrite written requested =>
    exact (s.retains_enterAll (.faulted _)).trans ⟨rfl, fun _ => rfl, id⟩
  | writeFailed reason => exact (s.retains_enterAll (.faulted _)).trans ⟨rfl, fun _ => rfl, id⟩

theorem retains_joinPanicked (s : Site) (flag : Bool) : s.Retains (s.joinPanicked flag) := by
  have faulted : s.Retains { s.faultAll panicReason with
      endpoint := { (s.faultAll panicReason).endpoint with
        health := .faulted
        lastExit := some (.writeFailed panicReason) } } :=
    (s.retains_enterAll (.faulted panicReason)).trans ⟨rfl, fun _ => rfl, id⟩
  exact faulted.setLoop _

theorem Delivered.retains {params : HardwareParams} {mixer : Mixer} {delivery : Delivery}
    (h : s.Delivered params mixer delivery t) : s.Retains t := by
  obtain ⟨device, bursts, rms, rfl⟩ := h.rest
  exact ⟨rfl, fun _ => rfl, id⟩

theorem Halted.retains (h : s.Halted t) : s.Retains t := by
  cases h with
  | resting => exact .refl s
  | lost => exact (Retains.refl s).setLoop _
  | ended => exact ((Retains.refl s).setLoop _).announce _
  | panicked => exact (s.retains_joinPanicked false).announce _
  | written _ _ _ exit u _ _ delivered =>
    exact ((delivered.retains.trans (u.retains_finish exit)).setLoop _).announce _
  | died _ _ u _ _ delivered =>
    exact (delivered.retains.trans (u.retains_joinPanicked false)).announce _

theorem retains_closeStream (s : Site) : s.Retains s.closeStream.2 := by
  unfold closeStream
  split
  · exact .refl s
  · have stopped := s.halted_halt.retains.trans (s.halt.retains_enterAll .stopped)
    refine Retains.announce ?_ _
    exact ⟨stopped.total, stopped.each, fun opened => by cases opened⟩

theorem retains_register (s : Site) (key : Nat) (c : Channel) :
    s.Retains (s.register key c).2 := by
  rcases s.register_cases key c with eq | ⟨-, -, -, eq⟩
  · rw [eq]
    exact .refl s
  · rw [eq]
    exact ⟨rfl, fun _ => rfl, id⟩

theorem retains_stopKey (s : Site) (key : Nat) : s.Retains (s.stopKey key) := by
  have stopped : s.Retains (s.modifyChannel key Channel.stop) :=
    retains_modifyChannel fun c => c.underflows_enter .stopped
  rcases s.stopKey_cases key with ⟨-, eq⟩ | ⟨t, rfl, ⟨-, eq⟩ | ⟨-, eq⟩⟩
  · rw [eq]
    exact .refl s
  · rw [eq]
    exact stopped
  · rw [eq]
    exact stopped.trans (halted_halt _).retains

theorem retains_unregister (s : Site) (id : StreamId) : s.Retains (s.unregister id) := by
  cases found : s.find? id with
  | none =>
    rw [unregister_of_unknown found]
    exact .refl s
  | some key =>
    have without : s.Retains (s.without key) := ⟨rfl, fun _ => rfl, fun opened => opened⟩
    rw [unregister_of_find? found]
    exact without.trans (retains_stopKey _ key)

theorem retains_stop (s : Site) (id : StreamId) : s.Retains (s.stop id).2 := by
  rcases s.stop_cases id with ⟨_, eq⟩ | ⟨key, -, -, eq⟩
  · rw [eq]
    exact .refl s
  · rw [eq]
    exact s.retains_stopKey key

theorem retains_setVolume (s : Site) (id : StreamId) (volume : Sample) :
    s.Retains (s.setVolume id volume).2 := by
  rcases s.setVolume_cases id volume with ⟨_, eq⟩ | ⟨key, -, eq⟩
  · rw [eq]
    exact .refl s
  · rw [eq]
    exact retains_modifyChannel fun _ => rfl

theorem underflows_continueLoop (s : Site) (mixer : Mixer) :
    (s.continueLoop mixer).endpoint.underflows = (s.mix mixer).2.endpoint.underflows := by
  rw [continueLoop]
  split
  next eq => rw [endpoint_setLoop, Endpoint.setLoop_eq, eq]
  next eq => rw [endpoint_setLoop, Endpoint.setLoop_eq, eq]

theorem Granted.retains_or_mixes (h : s.Granted t) :
    s.Retains t ∨ ∃ line mixer ready, s.Mixes line mixer ready ∧ t = ready.continueLoop mixer := by
  cases h with
  | delivered line mixer u opened loop delivered =>
    exact .inr ⟨line, mixer, u, delivered.mixes opened loop, rfl⟩
  | failed _ _ exit u _ _ delivered =>
    exact .inl ((delivered.retains.trans (u.retains_finish exit)).setLoop _)
  | died _ _ _ _ _ delivered => exact .inl (delivered.retains.setLoop _)

theorem start_retains_or_mixes (s : Site) (id : StreamId) :
    s.Retains (s.started id) ∨ ∃ line mixer ready, s.Mixes line mixer ready ∧
      (s.started id) = ready.continueLoop mixer := by
  rcases s.start_cases id with
    ⟨_, eq⟩ | ⟨key, c, -, present, -, -, -, answer, t, launched, -, eq⟩
  · rw [eq]
    exact .inl (.refl s)
  have started : s.Retains (s.modifyChannel key fun _ => c.enter .started) :=
    ⟨rfl, map_started present (c.underflows_enter .started), fun opened => opened⟩
  have stopped (u : Site) : u.Retains (u.modifyChannel key Channel.stop) :=
    retains_modifyChannel fun c => c.underflows_enter .stopped
  rw [eq]
  generalize built : (s.modifyChannel key fun _ => c.enter .started) = b at started launched
  cases launched with
  | unable => exact .inl (started.trans (stopped _))
  | already => exact .inl started
  | ailing => exact .inl ((started.setLoop _).trans (stopped _))
  | joined => exact .inl ((started.trans (retains_joinPanicked _ true)).trans (stopped _))
  | begun line mixer opened loop =>
    subst built
    exact .inr ⟨line, mixer, _, mixes_begin present opened loop, rfl⟩

end SharedAudio.Site

import SharedAudio.Proofs.Endpoint.Easing
import SharedAudio.Proofs.Endpoint.Opening

namespace SharedAudio

structure Endpoint.Sound (e : Endpoint) : Prop where
  closed : e.isOpen = false → e.registered = []
  healthy : e.runs = true → e.health = .healthy

theorem Endpoint.Sound.congr {e other : Endpoint} (h : e.Sound)
    (registered : other.registered = e.registered) (phase : other.phase = e.phase)
    (health : other.health = e.health) : other.Sound := by
  refine ⟨fun closed => ?_, fun running => ?_⟩
  · rw [registered]
    exact h.closed (by rw [isOpen, line?, phase] at closed; exact closed)
  · rw [health]
    exact h.healthy (runs_congr phase ▸ running)

theorem Endpoint.runs_of_closed {e : Endpoint} (h : e.isOpen = false) : e.runs = false := by
  cases closed : e.phase with
  | closed owned => simp [runs, line?, closed, Phase.line?]
  | opened line => simp [isOpen, line?, closed, Phase.line?] at h

theorem Endpoint.health_of_ailment {e : Endpoint} (h : e.ailment? = none) :
    e.health = .healthy := by
  cases health : e.health <;> simp_all [ailment?]

namespace Site

variable {s t : Site} {key : Nat}

def Silent (s : Site) : Prop := ∀ key ∈ s.endpoint.registered, ¬ s.Runs key

def Served (s : Site) : Prop := ∀ key ∈ s.endpoint.registered, s.Runs key → s.endpoint.runs = true

theorem Silent.served (h : s.Silent) : s.Served :=
  fun key member running => absurd running (h key member)

theorem Served.of_runs (h : s.endpoint.runs = true) : s.Served := fun _ _ _ => h

structure Serves (s t : Site) : Prop where
  sound : s.endpoint.Sound → t.endpoint.Sound
  served : s.endpoint.Sound → s.Served → t.Served
  apart : ∀ key, key ∉ s.endpoint.registered → t.channels[key]? = s.channels[key]?
  kept : ∀ key ∈ s.endpoint.registered, t.Runs key → key ∈ t.endpoint.registered
  fewer : t.endpoint.registered.Sublist s.endpoint.registered

namespace Serves

theorem refl (s : Site) : s.Serves s :=
  ⟨id, fun _ served => served, fun _ _ => rfl, fun _ member _ => member, .refl _⟩

theorem trans {u : Site} (h : s.Serves t) (g : t.Serves u) : s.Serves u where
  sound sound := g.sound (h.sound sound)
  served sound served := g.served (h.sound sound) (h.served sound served)
  apart key outside := by
    rw [g.apart key fun member => outside (h.fewer.subset member), h.apart key outside]
  kept key member running := by
    by_cases still : key ∈ t.endpoint.registered
    · exact g.kept key still running
    · have before : t.Runs key := by
        rw [runs_iff] at running ⊢
        rw [← g.apart key still, running]
      exact absurd (h.kept key member before) still
  fewer := g.fewer.trans h.fewer

theorem of_eases (h : s.Eases t)
    (healthy : s.endpoint.Sound → t.endpoint.runs = true → t.endpoint.health = .healthy)
    (served : s.Served → t.Served) : s.Serves t where
  sound sound := by
    refine ⟨fun closed => ?_, healthy sound⟩
    rw [h.registered]
    exact sound.closed (h.isOpen ▸ closed)
  served _ := served
  apart := h.apart
  kept key member _ := h.registered ▸ member
  fewer := h.registered ▸ .refl _

theorem of_same (h : s.Eases t) (runs : t.endpoint.runs = s.endpoint.runs)
    (health : t.endpoint.health = s.endpoint.health) : s.Serves t := by
  refine of_eases h ?_ ?_
  · intro sound running
    rw [health]
    exact sound.healthy (runs ▸ running)
  · intro served key member running
    rw [runs]
    exact served key (h.registered ▸ member) (h.runs key running)

theorem announce (h : s.Serves t) (what : String) : s.Serves (t.announce what) :=
  h.trans (of_same ((Eases.refl t).announce what) (by simp) (by simp))

end Serves

theorem runs_continueLoop (mixer : Mixer) (opened : s.endpoint.isOpen = true) :
    (s.continueLoop mixer).endpoint.runs = true ∧
      (s.continueLoop mixer).endpoint.health = s.endpoint.health := by
  have still : (s.mix mixer).2.endpoint.isOpen = true := opened
  have health : (s.mix mixer).2.endpoint.health = s.endpoint.health := rfl
  rw [continueLoop]
  split
  next eq =>
    rw [eq] at still health
    exact ⟨by rw [endpoint_setLoop, Endpoint.runs_setLoop still]; rfl, by simpa using health⟩
  next eq =>
    rw [eq] at still health
    exact ⟨by rw [endpoint_setLoop, Endpoint.runs_setLoop still]; rfl, by simpa using health⟩

theorem streaming_joinPanicked (flag : Bool) (opened : s.endpoint.isOpen = true) :
    (s.joinPanicked flag).endpoint.streaming = flag := by
  have still : (s.faultAll panicReason).endpoint.isOpen = true := opened
  exact Endpoint.streaming_setLoop still

theorem runs_joinPanicked (flag : Bool) (opened : s.endpoint.isOpen = true) :
    (s.joinPanicked flag).endpoint.runs = false := by
  have still : (s.faultAll panicReason).endpoint.isOpen = true := opened
  exact Endpoint.runs_setLoop still

theorem silent_joinPanicked (s : Site) (flag : Bool) : (s.joinPanicked flag).Silent := by
  intro key member
  rw [(s.eases_joinPanicked flag).registered] at member
  exact not_runs_joinPanicked member

theorem Halted.streaming (h : s.Halted t) : t.endpoint.streaming = false := by
  cases h with
  | resting quiet => exact quiet
  | lost line flag opened _ => exact Endpoint.streaming_setLoop (Endpoint.isOpen_of_opened opened)
  | ended line mixer opened _ =>
    rw [endpoint_announce]
    exact Endpoint.streaming_setLoop (Endpoint.isOpen_of_opened opened)
  | panicked line opened _ =>
    rw [endpoint_announce]
    exact streaming_joinPanicked false (Endpoint.isOpen_of_opened opened)
  | written line mixer delivery exit t opened _ delivered _ =>
    have eases := delivered.eases.trans (eases_finish t exit)
    rw [endpoint_announce]
    exact Endpoint.streaming_setLoop (eases.isOpen.trans (Endpoint.isOpen_of_opened opened))
  | died line mixer t opened _ delivered =>
    rw [endpoint_announce]
    exact streaming_joinPanicked false
      (delivered.eases.isOpen.trans (Endpoint.isOpen_of_opened opened))

theorem Halted.runs (h : s.Halted t) : t.endpoint.runs = false :=
  Endpoint.runs_of_not_streaming h.streaming

theorem serves_halt (silent : s.Silent) : s.Serves s.halt := by
  have eases := s.halted_halt.eases
  refine .of_eases eases ?_ ?_
  · intro _ running
    rw [s.halted_halt.runs] at running
    cases running
  · intro _ key member running
    exact absurd (eases.runs key running) (silent key (eases.registered ▸ member))

theorem Granted.serves (h : s.Granted t) : s.Serves t := by
  have eases := h.eases
  have running {line : Line} {mixer : Mixer} (opened : s.endpoint.phase = .opened line)
      (loop : line.loop = .writing mixer) : s.endpoint.runs = true := by
    rw [Endpoint.runs_of_opened opened, loop]
    rfl
  cases h with
  | delivered line mixer u opened loop delivered =>
    have open' := delivered.eases.isOpen.trans (Endpoint.isOpen_of_opened opened)
    obtain ⟨runs, health⟩ := runs_continueLoop mixer open'
    refine .of_eases eases ?_ fun _ => .of_runs runs
    intro sound _
    rw [health, delivered.health]
    exact sound.healthy (running opened loop)
  | failed line mixer exit u opened loop delivered =>
    have failed : exit ≠ .stopped := fun stopped => delivered.exit (by rw [stopped])
    have ended := delivered.eases.trans (eases_finish u exit)
    have stops : ((u.finish exit).setLoop (.ended mixer)).endpoint.runs = false :=
      Endpoint.runs_setLoop (ended.isOpen.trans (Endpoint.isOpen_of_opened opened))
    refine .of_eases eases ?_ fun _ => Silent.served ?_
    · intro _ runs
      rw [stops] at runs
      cases runs
    · intro key member
      rw [eases.registered, ← delivered.eases.registered] at member
      exact not_runs_finish failed member
  | died line mixer u opened loop delivered =>
    have runs : (u.setLoop .panicked).endpoint.runs = true :=
      Endpoint.runs_setLoop (delivered.eases.isOpen.trans (Endpoint.isOpen_of_opened opened))
    refine .of_eases eases ?_ fun _ => .of_runs runs
    intro sound _
    rw [endpoint_setLoop, Endpoint.health_setLoop, delivered.health]
    exact sound.healthy (running opened loop)

theorem serves_grantUpTo (s : Site) (n granted : Nat) : s.Serves (s.grantUpTo n granted).2 :=
  grantUpTo_induction (P := s.Serves) (fun granted serves => serves.trans granted.serves) (.refl s)
    n granted

theorem serves_disconnectAll (s : Site) : s.Serves s.disconnectAll :=
  .of_same s.eases_disconnectAll rfl rfl

theorem serves_opened (s : Site) : s.Serves s.opened := by
  rcases s.opened_cases with ⟨device, -, eq⟩ |
    ⟨params, buffer, device, closed, -, -, channels, endpoint⟩
  · rw [eq]
    exact .of_same ⟨rfl, rfl, rfl, rfl, fun _ _ => rfl, fun _ running => running⟩ rfl rfl
  · have unopened : s.endpoint.isOpen = false := by
      simp [Endpoint.isOpen, Endpoint.line?, closed, Phase.line?]
    refine ⟨?_, ?_, ?_, ?_, ?_⟩
    · intro _
      rw [endpoint]
      exact ⟨fun closed => by simp [Endpoint.isOpen, Endpoint.line?, Phase.line?] at closed,
        fun _ => rfl⟩
    · intro sound _ key member
      rw [endpoint] at member
      simp only [sound.closed unopened, List.not_mem_nil] at member
    · simp [channels]
    · intro key member _
      rw [endpoint]
      exact member
    · simp [endpoint]

theorem serves_closeStream (s : Site) : s.Serves s.closeStream.2 := by
  unfold closeStream
  split
  · exact .refl s
  next line opened =>
    have eases := s.halted_halt.eases
    refine ⟨?_, ?_, ?_, ?_, ?_⟩
    · intro _
      refine ⟨by simp, fun running => ?_⟩
      simp [Endpoint.runs, Endpoint.line?, Phase.line?] at running
    · intro _ _ key member
      simp at member
    · intro key outside
      rw [← eases.registered] at outside
      simp only [channels_announce]
      rw [getElem?_modifyRegistered (fun c => c.enter_enter _), if_neg outside]
      rw [eases.registered] at outside
      exact eases.apart key outside
    · intro key member running
      rw [← eases.registered] at member
      simp only [Runs, channels_announce] at running
      exact absurd running
        (not_runs_modifyRegistered (fun c => c.enter_enter _) Channel.isRunning_stop member)
    · simp

theorem running_isEmpty_iff : s.running.isEmpty = true ↔ s.Silent := by
  rw [List.isEmpty_iff, running, List.filter_eq_nil_iff, registered]
  simp only [List.mem_filterMap, forall_exists_index, and_imp]
  constructor
  · rintro idle key member ⟨c, present, running⟩
    exact idle c key member present running
  · intro silent c key member present running
    exact silent key member ⟨c, present, running⟩

theorem any_isRunning_iff : s.channels[key]?.any Channel.isRunning = true ↔ s.Runs key := by
  rw [Runs]
  cases s.channels[key]? <;> simp

theorem stopKey_of_not_runs (h : ¬ s.Runs key) : s.stopKey key = s := by
  rw [stopKey, if_neg (h ∘ any_isRunning_iff.mp)]

theorem stopKey_cases (s : Site) (key : Nat) :
    (¬ s.Runs key ∧ s.stopKey key = s) ∨
    ∃ t, t = s.modifyChannel key Channel.stop ∧
      (¬ t.Silent ∧ s.stopKey key = t ∨ t.Silent ∧ s.stopKey key = t.halt) := by
  by_cases running : s.Runs key
  · refine .inr ⟨_, rfl, ?_⟩
    have runs := any_isRunning_iff.mpr running
    by_cases nobody : (s.modifyChannel key Channel.stop).running.isEmpty = true
    · refine .inr ⟨running_isEmpty_iff.mp nobody, ?_⟩
      simp only [stopKey, if_pos runs, if_pos nobody]
    · refine .inl ⟨fun silent => nobody (running_isEmpty_iff.mpr silent), ?_⟩
      simp only [stopKey, if_pos runs, if_neg nobody]
  · exact .inl ⟨running, stopKey_of_not_runs running⟩

theorem modifyChannel_stop (s : Site) (key : Nat) :
    (∀ other, other ≠ key →
      (s.modifyChannel key Channel.stop).channels[other]? = s.channels[other]?) ∧
    (∀ other, (s.modifyChannel key Channel.stop).Runs other → s.Runs other ∧ other ≠ key) := by
  constructor
  · intro other ne
    rw [getElem?_modifyChannel, if_neg fun same => ne same.symm]
  · rintro other ⟨c, present, running⟩
    rw [getElem?_modifyChannel] at present
    split at present
    · obtain ⟨before, -, rfl⟩ := Option.map_eq_some_iff.mp present
      rw [Channel.isRunning_stop] at running
      cases running
    next other' => exact ⟨⟨c, present, running⟩, fun same => other' same.symm⟩

theorem serves_stopKey (s : Site) (key : Nat) :
    (s.endpoint.Sound → (s.stopKey key).endpoint.Sound) ∧
    (s.endpoint.Sound → s.Served → (s.stopKey key).Served) ∧
    (∀ other, other ∉ s.endpoint.registered → other ≠ key →
      (s.stopKey key).channels[other]? = s.channels[other]?) ∧
    (s.stopKey key).endpoint.registered = s.endpoint.registered ∧
    ¬ (s.stopKey key).Runs key := by
  obtain ⟨elsewhere, runs⟩ := s.modifyChannel_stop key
  have served : s.Served → (s.modifyChannel key Channel.stop).Served :=
    fun served other member running => served other member (runs other running).1
  rcases s.stopKey_cases key with ⟨quiet, eq⟩ | ⟨t, rfl, ⟨-, eq⟩ | ⟨silent, eq⟩⟩
  · rw [eq]
    exact ⟨id, fun _ served => served, fun _ _ _ => rfl, rfl, quiet⟩
  · rw [eq]
    exact ⟨id, fun _ => served, fun other _ => elsewhere other, rfl,
      fun running => (runs key running).2 rfl⟩
  · have halted := serves_halt silent
    have eases := (s.modifyChannel key Channel.stop).halted_halt.eases
    rw [eq]
    refine ⟨halted.sound, fun sound before => halted.served sound (served before), ?_,
      eases.registered, fun running => (runs key (eases.runs key running)).2 rfl⟩
    intro other outside ne
    rw [eases.apart other outside, elsewhere other ne]

theorem serves_stop (s : Site) (id : StreamId) : s.Serves (s.stop id).2 := by
  rcases s.stop_cases id with ⟨_, eq⟩ | ⟨key, -, found, eq⟩
  · rw [eq]
    exact .refl s
  rw [eq]
  obtain ⟨sound, served, apart, registered, quiet⟩ := s.serves_stopKey key
  refine ⟨sound, served, ?_, ?_, ?_⟩
  · intro other outside
    exact apart other outside fun same => outside (same ▸ find?_mem found)
  · intro other member _
    exact registered ▸ member
  · exact registered ▸ .refl _

theorem serves_unregister (s : Site) (id : StreamId) : s.Serves (s.unregister id) := by
  cases found : s.find? id with
  | none =>
    rw [unregister_of_unknown found]
    exact .refl s
  | some key =>
    have member := find?_mem found
    have fewer {other : Nat} (inside : other ∈ (s.without key).endpoint.registered) :
        other ∈ s.endpoint.registered := List.mem_of_mem_erase inside
    obtain ⟨sound, served, apart, registered, quiet⟩ := (s.without key).serves_stopKey key
    have erased (h : s.endpoint.Sound) : (s.without key).endpoint.Sound := by
      refine ⟨fun closed => ?_, h.healthy⟩
      have nobody : s.endpoint.registered = [] := h.closed closed
      rw [nobody] at member
      cases member
    rw [unregister_of_find? found]
    refine ⟨fun h => sound (erased h), fun h before => served (erased h) ?_, ?_, ?_, ?_⟩
    · intro other inside running
      exact before other (fewer inside) running
    · intro other outside
      exact apart other (fun inside => outside (fewer inside)) fun same => outside (same ▸ member)
    · intro other inside running
      rw [registered]
      refine (List.mem_erase_of_ne ?_).mpr inside
      rintro rfl
      exact quiet running
    · rw [registered]
      exact List.erase_sublist

theorem serves_setVolume (s : Site) (id : StreamId) (volume : Sample) :
    s.Serves (s.setVolume id volume).2 := by
  rcases s.setVolume_cases id volume with ⟨_, eq⟩ | ⟨key, found, eq⟩
  · rw [eq]
    exact .refl s
  · rw [eq]
    refine .of_same ⟨rfl, rfl, rfl, rfl, ?_, ?_⟩ rfl rfl
    · intro other outside
      rw [getElem?_modifyChannel, if_neg]
      rintro rfl
      exact outside (find?_mem found)
    · intro other running
      rw [runs_iff, getElem?_modifyChannel] at running
      rw [runs_iff, ← running]
      split
      · cases s.channels[other]? <;> rfl
      · rfl

theorem Launched.ok (h : s.Launched (.ok ()) t) :
    t.endpoint.runs = true ∧ t.endpoint.health = s.endpoint.health := by
  cases h with
  | already line mixer opened loop =>
    exact ⟨by rw [Endpoint.runs_of_opened opened, loop]; rfl, rfl⟩
  | begun line mixer opened loop =>
    have still := Endpoint.isOpen_of_opened opened
    obtain ⟨runs, health⟩ :=
      @runs_continueLoop ((s.setLoop (.idle mixer)).announce "streaming") mixer
        (by simpa using still)
    exact ⟨runs, by simpa using health⟩

theorem Launched.error {error : EndpointError} (h : s.Launched (.error error) t) :
    t.endpoint.runs = false ∧ (s.endpoint.runs = false ∨ t.Silent) := by
  cases h with
  | unable _ quiet => exact ⟨quiet, .inl quiet⟩
  | ailing line mixer _ opened loop =>
    refine ⟨?_, .inl (by rw [Endpoint.runs_of_opened opened, loop]; rfl)⟩
    exact Endpoint.runs_setLoop (Endpoint.isOpen_of_opened opened)
  | joined line _ opened loop =>
    exact ⟨runs_joinPanicked true (Endpoint.isOpen_of_opened opened),
      .inr (s.silent_joinPanicked true)⟩

theorem serves_start (s : Site) (id : StreamId) : s.Serves (s.started id) := by
  rcases s.start_cases id with
    ⟨_, eq⟩ | ⟨key, c, found, -, opened, ailment, -, answer, t, launched, -, eq⟩
  · rw [eq]
    exact .refl s
  have member := find?_mem found
  have eases := launched.eases
  have closed : s.endpoint.isOpen ≠ false := by simp [opened]
  have elsewhere (other : Nat) (ne : other ≠ key) :
      (s.modifyChannel key fun _ => c.enter .started).channels[other]? = s.channels[other]? := by
    rw [getElem?_modifyChannel, if_neg fun same => ne same.symm]
  have apart (other : Nat) (outside : other ∉ s.endpoint.registered) :
      t.channels[other]? = s.channels[other]? := by
    rw [eases.apart other outside, elsewhere other fun same => outside (same ▸ member)]
  have opens : t.endpoint.isOpen = true := eases.isOpen.trans opened
  have registered : t.endpoint.registered = s.endpoint.registered := eases.registered
  cases answer with
  | ok _ =>
    obtain ⟨runs, health⟩ := launched.ok
    rw [eq]
    refine ⟨fun _ => ⟨by simp [opens], fun _ => ?_⟩, fun _ _ => .of_runs runs, apart, ?_, ?_⟩
    · exact health.trans (Endpoint.health_of_ailment ailment)
    · exact fun other inside _ => registered ▸ inside
    · exact registered ▸ .refl _
  | error error =>
    obtain ⟨quiet, stays⟩ := launched.error
    obtain ⟨unchanged, runs⟩ := t.modifyChannel_stop key
    rw [eq]
    refine ⟨fun _ => ⟨by simp [opens], by simp [quiet]⟩, ?_, ?_, ?_, ?_⟩
    · intro _ served other inside running
      obtain ⟨still, ne⟩ := runs other running
      rcases stays with idle | silent
      · have before := eases.runs other still
        rw [runs_iff, elsewhere other ne, ← runs_iff] at before
        have consumed := served other (registered ▸ inside) before
        rw [show s.endpoint.runs = false from idle] at consumed
        cases consumed
      · exact absurd still (silent other inside)
    · intro other outside
      rw [unchanged other fun same => outside (same ▸ member), apart other outside]
    · exact fun other inside _ => registered ▸ inside
    · exact registered ▸ .refl _

end Site

end SharedAudio

import SharedAudio.Proofs.Endpoint.Calm

namespace SharedAudio

namespace Endpoint

structure Wanes (e f : Endpoint) : Prop where
  config : f.config = e.config
  options : f.options = e.options
  references : f.references = e.references
  isOpen : f.isOpen = true → e.isOpen = true
  health : f.health = .healthy → e.health = .healthy

def shut (e : Endpoint) (line : Line) : Endpoint :=
  { e with
    device := if line.loop.mixer?.isSome then e.device.close else e.device
    phase := .closed line.loop.mixer?.isSome
    registered := [] }

theorem handed_shut (e : Endpoint) (line : Line) : (e.shut line).handed = e.handed := by
  rw [handed, shut]
  dsimp only
  split
  · exact Device.bursts_close _
  · rfl

def Fades (e f : Endpoint) : Prop := f.config = e.config ∧ (f.usable = true → e.usable = true)

variable {e f g : Endpoint}

theorem usable_iff : e.usable = true ↔ e.isOpen = true ∧ e.health = .healthy := by simp [usable]

namespace Wanes

theorem refl (e : Endpoint) : e.Wanes e := ⟨rfl, rfl, rfl, id, id⟩

theorem trans (h : e.Wanes f) (k : f.Wanes g) : e.Wanes g where
  config := k.config.trans h.config
  options := k.options.trans h.options
  references := k.references.trans h.references
  isOpen := h.isOpen ∘ k.isOpen
  health := h.health ∘ k.health

theorem setLoop (h : e.Wanes f) (loop : Loop) : e.Wanes (f.setLoop loop) := by
  refine h.trans ⟨by simp, by simp, ?_, by simp, by simp⟩
  rw [setLoop_eq]

theorem fades (h : e.Wanes f) : e.Fades f := by
  refine ⟨h.config, fun after => ?_⟩
  rw [usable_iff] at after ⊢
  exact ⟨h.isOpen after.1, h.health after.2⟩

end Wanes

end Endpoint

namespace Site

variable {s t : Site} {key : Nat}

theorem wanes_finish (s : Site) (exit : LoopExit) : s.endpoint.Wanes (s.finish exit).endpoint := by
  cases exit with
  | stopped => exact ⟨rfl, rfl, rfl, id, id⟩
  | disconnected => exact ⟨rfl, rfl, rfl, id, fun healthy => by cases healthy⟩
  | shortWrite written requested => exact ⟨rfl, rfl, rfl, id, fun healthy => by cases healthy⟩
  | writeFailed reason => exact ⟨rfl, rfl, rfl, id, fun healthy => by cases healthy⟩

theorem health_joinPanicked (s : Site) (flag : Bool) :
    (s.joinPanicked flag).endpoint.health = .faulted := by
  rw [joinPanicked, endpoint_setLoop, Endpoint.health_setLoop]

theorem wanes_joinPanicked (s : Site) (flag : Bool) :
    s.endpoint.Wanes (s.joinPanicked flag).endpoint := by
  have faulted : s.endpoint.Wanes { s.endpoint with
      health := .faulted
      lastExit := some (.writeFailed panicReason) } :=
    ⟨rfl, rfl, rfl, id, fun healthy => by cases healthy⟩
  exact faulted.setLoop _

theorem Delivered.wanes {params : HardwareParams} {mixer : Mixer} {delivery : Delivery}
    (h : s.Delivered params mixer delivery t) : s.endpoint.Wanes t.endpoint := by
  obtain ⟨device, bursts, rms, rfl⟩ := h.rest
  exact ⟨rfl, rfl, rfl, id, id⟩

theorem wanes_continueLoop (s : Site) (mixer : Mixer) :
    s.endpoint.Wanes (s.continueLoop mixer).endpoint := by
  have mixed : s.endpoint.Wanes (s.mix mixer).2.endpoint := ⟨rfl, rfl, rfl, id, id⟩
  rw [continueLoop]
  split
  next eq =>
    rw [eq] at mixed
    exact mixed.setLoop _
  next eq =>
    rw [eq] at mixed
    exact mixed.setLoop _

theorem Halted.wanes (h : s.Halted t) : s.endpoint.Wanes t.endpoint := by
  cases h with
  | resting _ => exact .refl _
  | lost _ _ _ _ => exact (Endpoint.Wanes.refl _).setLoop _
  | ended _ _ _ _ =>
    rw [endpoint_announce]
    exact (Endpoint.Wanes.refl _).setLoop _
  | panicked _ _ _ =>
    rw [endpoint_announce]
    exact s.wanes_joinPanicked false
  | written _ _ _ exit _ _ _ delivered _ =>
    rw [endpoint_announce]
    exact (delivered.wanes.trans (wanes_finish _ exit)).setLoop _
  | died _ _ _ _ _ delivered =>
    rw [endpoint_announce]
    exact delivered.wanes.trans (wanes_joinPanicked _ false)

theorem Granted.wanes (h : s.Granted t) : s.endpoint.Wanes t.endpoint := by
  cases h with
  | delivered _ mixer _ _ _ delivered => exact delivered.wanes.trans (wanes_continueLoop _ mixer)
  | failed _ _ exit _ _ _ delivered => exact (delivered.wanes.trans (wanes_finish _ exit)).setLoop _
  | died _ _ _ _ _ delivered => exact delivered.wanes.setLoop _

theorem Launched.wanes {answer : Except EndpointError Unit} (h : s.Launched answer t) :
    s.endpoint.Wanes t.endpoint := by
  cases h with
  | unable => exact .refl _
  | already => exact .refl _
  | ailing => exact (Endpoint.Wanes.refl _).setLoop _
  | joined => exact s.wanes_joinPanicked true
  | begun _ mixer =>
    refine Endpoint.Wanes.trans ?_ (wanes_continueLoop _ mixer)
    rw [endpoint_announce]
    exact (Endpoint.Wanes.refl _).setLoop _

theorem isOpen_closeStream (s : Site) : s.closeStream.2.endpoint.isOpen = false := by
  unfold closeStream
  split
  next owned closed => simp [Endpoint.isOpen, Endpoint.line?, closed, Phase.line?]
  next => simp [Endpoint.isOpen, Endpoint.line?, Phase.line?]

theorem channels_register (s : Site) (key : Nat) (c : Channel) :
    (s.register key c).2.channels = s.channels := by
  rcases s.register_cases key c with eq | ⟨-, -, -, eq⟩
  · rw [eq]
  · rw [eq]
    rfl

theorem wanes_start (s : Site) (id : StreamId) : s.endpoint.Wanes (s.started id).endpoint := by
  rcases s.start_cases id with
    ⟨_, eq⟩ | ⟨key, c, -, -, -, -, -, answer, t, launched, -, eq⟩
  · rw [eq]
    exact .refl _
  · have wanes := launched.wanes
    rw [eq]
    cases answer with
    | ok _ => exact wanes
    | error error => exact wanes

theorem endpoint_setVolume (s : Site) (id : StreamId) (volume : Sample) :
    (s.setVolume id volume).2.endpoint = s.endpoint := by
  rcases s.setVolume_cases id volume with ⟨_, eq⟩ | ⟨key, -, eq⟩
  · rw [eq]
  · rw [eq]
    rfl

inductive Work : (Site → Site) → Prop
  | device (change : Device → Device) (calls : ∀ d, (change d).calls = d.calls) :
      Work fun s => { s with endpoint := { s.endpoint with device := change s.endpoint.device } }
  | grant (n : Nat) : Work fun s => (s.grantUpTo n 0).2
  | close : Work fun s => s.closeStream.2
  | register (key : Nat) (c : Channel) : Work fun s => (s.register key c).2
  | unregister (id : StreamId) : Work fun s => s.unregister id
  | stop (id : StreamId) : Work fun s => (s.stop id).2
  | setVolume (id : StreamId) (volume : Sample) : Work fun s => (s.setVolume id volume).2

structure Steady (P : Endpoint → Prop) : Prop where
  device : ∀ (e : Endpoint) (device : Device), device.calls = e.device.calls → P e →
    P { e with device }
  listed : ∀ (e : Endpoint) (registered : List Nat), P e → P { e with registered }
  granted : ∀ s t : Site, s.Granted t → P s.endpoint → P t.endpoint
  halted : ∀ s t : Site, s.Halted t → P s.endpoint → P t.endpoint
  closed : ∀ (e : Endpoint) (line : Line), e.phase = .opened line → e.streaming = false → P e →
    P (e.shut line)

namespace Steady

variable {P : Endpoint → Prop}

theorem grantUpTo (steady : Steady P) (h : P s.endpoint) (n granted : Nat) :
    P (s.grantUpTo n granted).2.endpoint :=
  grantUpTo_induction (P := fun t => P t.endpoint) (steady.granted _ _) h n granted

theorem closeStream (steady : Steady P) (h : P s.endpoint) : P s.closeStream.2.endpoint := by
  unfold Site.closeStream
  split
  · exact h
  next line opened =>
    have halted := steady.halted s s.halt s.halted_halt h
    obtain ⟨after, opened'⟩ :=
      Endpoint.opened_of_isOpen
        (s.halted_halt.eases.isOpen.trans (Endpoint.isOpen_of_opened opened))
    have shut := steady.closed s.halt.endpoint after opened' s.halted_halt.streaming halted
    rw [endpoint_announce, Endpoint.line?, opened']
    exact shut

theorem register (steady : Steady P) (h : P s.endpoint) (key : Nat) (c : Channel) :
    P (s.register key c).2.endpoint := by
  rcases s.register_cases key c with eq | ⟨-, -, -, eq⟩
  · rwa [eq]
  · rw [eq]
    exact steady.listed s.endpoint _ h

theorem stopKey (steady : Steady P) (h : P s.endpoint) (key : Nat) :
    P (s.stopKey key).endpoint := by
  rcases s.stopKey_cases key with ⟨-, eq⟩ | ⟨t, rfl, ⟨-, eq⟩ | ⟨-, eq⟩⟩
  · rwa [eq]
  · rw [eq]
    exact h
  · rw [eq]
    exact steady.halted (s.modifyChannel key Channel.stop) _ (halted_halt _) h

theorem stop (steady : Steady P) (h : P s.endpoint) (id : StreamId) :
    P (s.stop id).2.endpoint := by
  rcases s.stop_cases id with ⟨_, eq⟩ | ⟨key, -, -, eq⟩
  · rwa [eq]
  · rw [eq]
    exact steady.stopKey h key

theorem unregister (steady : Steady P) (h : P s.endpoint) (id : StreamId) :
    P (s.unregister id).endpoint := by
  cases found : s.find? id with
  | none => rwa [unregister_of_unknown found]
  | some key =>
    have without : P (s.without key).endpoint := steady.listed s.endpoint _ h
    rw [unregister_of_find? found]
    exact steady.stopKey without key

end Steady

variable {act : Site → Site}

theorem Work.steady {P : Endpoint → Prop} (h : Work act) (steady : Steady P)
    (before : P s.endpoint) : P (act s).endpoint := by
  cases h with
  | device change calls => exact steady.device s.endpoint _ (calls _) before
  | grant n => exact steady.grantUpTo before n 0
  | close => exact steady.closeStream before
  | register key c => exact steady.register before key c
  | unregister id => exact steady.unregister before id
  | stop id => exact steady.stop before id
  | setVolume id volume =>
    rw [endpoint_setVolume]
    exact before

theorem steady_wanes (e : Endpoint) : Steady e.Wanes where
  device _ _ _ wanes := wanes.trans ⟨rfl, rfl, rfl, id, id⟩
  listed _ _ wanes := wanes.trans ⟨rfl, rfl, rfl, fun opened => opened, fun healthy => healthy⟩
  granted _ _ granted wanes := wanes.trans granted.wanes
  halted _ _ halted wanes := wanes.trans halted.wanes
  closed _ _ _ _ wanes := wanes.trans ⟨rfl, rfl, rfl, fun opened => (by cases opened), id⟩

theorem Work.wanes (h : Work act) (s : Site) : s.endpoint.Wanes (act s).endpoint :=
  h.steady (steady_wanes s.endpoint) (.refl _)

theorem Work.apart (h : Work act) {key : Nat} (outside : key ∉ s.endpoint.registered) :
    (act s).channels[key]? = s.channels[key]? := by
  cases h with
  | device change => rfl
  | grant n => exact (s.serves_grantUpTo n 0).apart key outside
  | close => exact s.serves_closeStream.apart key outside
  | register other c =>
    dsimp only
    rw [channels_register]
  | unregister id => exact (s.serves_unregister id).apart key outside
  | stop id => exact (s.serves_stop id).apart key outside
  | setVolume id volume => exact (s.serves_setVolume id volume).apart key outside

theorem openStream?_of_ok (h : s.openStream? = some (.ok (), t)) : ∃ params buffer device frames,
    s.endpoint.phase = .closed true ∧ s.endpoint.objection? params = none ∧
      device.calls = (s.endpoint.device.calls.push .opened).push (.buffer frames) ∧
      t.channels = s.channels ∧ t.endpoint = { s.endpoint with
        device
        phase := .opened ⟨params, buffer, .idle (.new s.endpoint.config.channels params.burst)⟩
        health := .healthy
        lastExit := none
        bursts := 0
        underflows := 0 } := by
  cases opening_of_openStream? h with
  | opened params frames t phase answer objection counted fits channels endpoint =>
    exact ⟨params, _, _, frames, phase, objection, rfl, channels, endpoint⟩

theorem fixed_opened (s : Site) : s.opened.endpoint.config = s.endpoint.config ∧
    s.opened.endpoint.options = s.endpoint.options ∧
    s.opened.endpoint.references = s.endpoint.references ∧
    s.opened.endpoint.registered = s.endpoint.registered := by
  rcases s.opened_cases with ⟨device, -, eq⟩ | ⟨params, buffer, device, -, -, -, -, endpoint⟩
  · rw [eq]
    exact ⟨rfl, rfl, rfl, rfl⟩
  · rw [endpoint]
    exact ⟨rfl, rfl, rfl, rfl⟩

theorem sound_register (h : s.endpoint.Sound) (key : Nat) (c : Channel) :
    (s.register key c).2.endpoint.Sound := by
  rcases s.register_cases key c with eq | ⟨opened, -, -, eq⟩
  · rwa [eq]
  · rw [eq]
    refine ⟨fun closed => ?_, h.healthy⟩
    rw [show s.endpoint.isOpen = false from closed] at opened
    cases opened

theorem Work.sound (h : Work act) (sound : s.endpoint.Sound) : (act s).endpoint.Sound := by
  cases h with
  | device change => exact sound.congr rfl rfl rfl
  | grant n => exact (s.serves_grantUpTo n 0).sound sound
  | close => exact s.serves_closeStream.sound sound
  | register key c => exact sound_register sound key c
  | unregister id => exact (s.serves_unregister id).sound sound
  | stop id => exact (s.serves_stop id).sound sound
  | setVolume id volume =>
    rw [endpoint_setVolume]
    exact sound

end Site

end SharedAudio

import SharedAudio.Proofs.Server.Admission
import SharedAudio.Proofs.Server.Roll

namespace SharedAudio

theorem Ring.atLeastOne_eq_iff {channels : UInt64} :
    atLeastOne channels = channels ↔ channels ≠ 0 := by
  rw [atLeastOne]
  split
  next zero => simp [zero]
  next some => simp [some]

theorem Channel.channels_heap (id : StreamId) (capacity channels : UInt64) :
    Channel.channels { id, ring := .heap capacity channels } = Ring.atLeastOne channels :=
  UInt64.ofNat_toNat

namespace Site

variable {s : Site} {key : Nat} {c : Channel}

theorem register_of_mismatch (opened : s.endpoint.isOpen = true)
    (differ : c.channels ≠ s.endpoint.config.channels) :
    s.register key c = (.error (.channelMismatch s.endpoint.config.channels c.channels), s) := by
  simp only [register, opened, Bool.not_true, Bool.false_eq_true, if_false, if_pos differ]

theorem mem_ids_including (present : s.channels[key]? = some c) : c.id ∈ (s.including key).ids :=
  mem_ids_iff.mpr ⟨key, List.mem_append_right _ List.mem_cons_self, by
    rw [idOf?, show (s.including key).channels[key]? = some c from present]
    rfl⟩

theorem register_of_width (opened : s.endpoint.isOpen = true)
    (present : s.channels[key]? = some c) (width : c.channels = s.endpoint.config.channels)
    (room : s.endpoint.registered.length < s.endpoint.options.maxChannels.toNat) :
    (s.register key c).1 = .ok () ∧ c.id ∈ (s.register key c).2.ids := by
  by_cases listed : c.id ∈ s.ids
  · rw [register_of_registered opened width listed]
    exact ⟨rfl, listed⟩
  · rw [register_of_new opened width listed room]
    exact ⟨rfl, mem_ids_including present⟩

end Site

namespace Endpoint

variable (e : Endpoint) (line : Line)

def ringFrames : Nat :=
  max line.buffer.toNat ((e.config.capacity.map UInt64.toNat).getD
    (e.options.capacityBursts.toNat * line.params.burst.toNat))

def Outgrows : Prop :=
  UInt64.size ≤ e.options.capacityBursts.toNat * line.params.burst.toNat ∨
    Word.maxBytes < 4 * (e.ringFrames line * (Ring.atLeastOne e.config.channels).toNat)

theorem channelCapacity?_eq_none : e.channelCapacity? line = none ↔
    UInt64.size ≤ e.options.capacityBursts.toNat * line.params.burst.toNat := by
  rw [channelCapacity?, Option.map_eq_none_iff, Word.mul?_eq_none]

theorem toNat_of_channelCapacity? {frames : UInt64}
    (sized : e.channelCapacity? line = some frames) :
    frames.toNat = e.ringFrames line := by
  obtain ⟨preset, counted, rfl⟩ := Option.map_eq_some_iff.mp sized
  have wanted : (e.config.capacity.getD preset).toNat = (e.config.capacity.map UInt64.toNat).getD
      (e.options.capacityBursts.toNat * line.params.burst.toNat) := by
    cases e.config.capacity with
    | none => exact Word.mul?_eq_some.mp counted
    | some frames => rfl
  rw [ringFrames, ← wanted]
  dsimp only
  split
  next less => exact (Nat.max_eq_left (Nat.le_of_lt less)).symm
  next more => exact (Nat.max_eq_right (Nat.not_lt.mp more)).symm

theorem ring?_eq_none_iff :
    (e.channelCapacity? line).bind (Ring.heap? · e.config.channels) = none ↔ e.Outgrows line := by
  rw [Outgrows, ← e.channelCapacity?_eq_none line]
  cases sized : e.channelCapacity? line with
  | none => simp
  | some frames =>
    rw [Option.bind_some, Ring.heap?_eq_none, e.toNat_of_channelCapacity? line sized]
    simp

end Endpoint

namespace Server

variable {s u : Server} {k key : Nat} {e f : Endpoint} {line : Line} {c d : Channel}

theorem createChannel_eq_none_iff (there : s.endpoints[k]? = some e)
    (opened : e.phase = .opened line) :
    s.perform? (.createChannel k) = none ↔ e.Outgrows line := by
  change (onResult? _ (s.createChannel? k)) = none ↔ _
  rw [onResult?, Option.map_eq_none_iff, createChannel?_of_opened there opened,
    Option.map_eq_none_iff, e.ring?_eq_none_iff]

theorem createChannel_of_room (there : s.endpoints[k]? = some e) (opened : e.phase = .opened line)
    (room : ¬ e.Outgrows line) :
    (s.perform? (.createChannel k)).map (·.1) = some (.channel s.channels.size) ∧
      ∃ c, (s.perform (.createChannel k)).channels[s.channels.size]? = some c ∧
        c.channels = Ring.atLeastOne e.config.channels ∧
        c.ring.capacity.toNat = e.ringFrames line := by
  obtain ⟨ring, granted⟩ := Option.ne_none_iff_exists'.mp (mt (e.ring?_eq_none_iff line).mp room)
  obtain ⟨frames, sized, made⟩ := Option.bind_eq_some_iff.mp granted
  obtain ⟨-, rfl⟩ := Ring.heap?_eq_some.mp made
  have answered : s.perform? (.createChannel k) = some (.channel s.channels.size,
      { (s.addChannel ⟨s.nextStream⟩ (.heap frames e.config.channels)).2 with
        nextStream := s.nextStream + 1 }) := by
    change (onResult? _ (s.createChannel? k)) = _
    rw [onResult?, createChannel?_of_opened there opened, granted]
    rfl
  refine ⟨by rw [answered]; rfl,
    { id := ⟨s.nextStream⟩, ring := .heap frames e.config.channels }, ?_,
    Channel.channels_heap .., ?_⟩
  · rw [perform, answered]
    exact Array.getElem?_push_size
  · exact e.toNat_of_channelCapacity? line sized

theorem terms_and_width_run (ops : List Operation) (there : s.endpoints[k]? = some e)
    (present : s.channels[key]? = some c) (after : (s.run ops).endpoints[k]? = some f) :
    (f.config = e.config ∧ f.options = e.options) ∧
      ∃ d, (s.run ops).channels[key]? = some d ∧ d.channels = c.channels ∧ d.id = c.id := by
  obtain ⟨g, there', terms⟩ := s.terms_run ops k e there
  rw [after] at there'
  cases there'
  obtain ⟨d, present', width⟩ := Option.map_eq_some_iff.mp
    (s.preserves_run Channel.lasting_channels ops key c.channels (by rw [present]; rfl))
  obtain ⟨d', again, id⟩ := Option.map_eq_some_iff.mp
    (s.keepsIds_run ops key c.id (by rw [idOf?, present]; rfl))
  rw [present'] at again
  cases again
  exact ⟨terms, d, present', width, id⟩

theorem takes_of_width (there : u.endpoints[k]? = some f) (opened : f.isOpen = true)
    (present : u.channels[key]? = some d) (width : d.channels = f.config.channels)
    (room : f.registered.length < f.options.maxChannels.toNat) :
    (u.perform? (.register k key)).map (·.1) = some .done ∧
      ((u.perform (.register k key)).site? k).any (·.ids.contains d.id) = true := by
  have inside := (Array.getElem?_eq_some_iff.mp there).1
  have answered := perform?_register (site?_of_endpoint there) present
  obtain ⟨taken, listed⟩ :=
    Site.register_of_width (s := ⟨f, u.channels, u.log⟩) opened present width room
  refine ⟨by rw [answered, taken]; rfl, ?_⟩
  rw [perform, answered, Option.map_some, Option.getD_some, site?_putSite inside, Option.any_some,
    List.contains_iff_mem]
  exact listed

theorem refuses_of_mismatch (there : u.endpoints[k]? = some f) (opened : f.isOpen = true)
    (present : u.channels[key]? = some d) (differ : d.channels ≠ f.config.channels) :
    (u.perform? (.register k key)).map (·.1) =
      some (.failed (.channelMismatch f.config.channels d.channels)) := by
  rw [perform?_register (site?_of_endpoint there) present,
    Site.register_of_mismatch (s := ⟨f, u.channels, u.log⟩) opened differ]
  rfl

theorem made_channels_fit_unless_width_is_zero (s : Server) (later : List Operation)
    (there : s.endpoints[k]? = some e) (opened : e.line? = some line) :
    let key := s.channels.size
    let t := s.perform (.createChannel k)
    let u := t.run later
    (s.perform? (.createChannel k) = none ↔ e.Outgrows line) ∧
    (¬ e.Outgrows line → (s.perform? (.createChannel k)).map (·.1) = some (.channel key) ∧
      ∃ c, t.channels[key]? = some c ∧ c.channels = Ring.atLeastOne e.config.channels ∧
        (c.channels = e.config.channels ↔ e.config.channels ≠ 0) ∧
        ∀ f, u.endpoints[k]? = some f → f.isOpen = true →
          let reply := (u.perform? (.register k key)).map (·.1)
          (e.config.channels ≠ 0 → f.registered.length < e.options.maxChannels.toNat →
            reply = some .done ∧
              ((u.perform (.register k key)).site? k).any (·.ids.contains c.id) = true) ∧
          (e.config.channels = 0 → reply = some (.failed (.channelMismatch 0 1)))) := by
  intro key t u
  have opened := Endpoint.line?_eq_some.mp opened
  refine ⟨createChannel_eq_none_iff there opened, fun room => ?_⟩
  obtain ⟨made, c, present, width, -⟩ := createChannel_of_room there opened room
  obtain ⟨e', there', config', options'⟩ := s.terms_perform (.createChannel k) k e there
  refine ⟨made, c, present, width, width ▸ Ring.atLeastOne_eq_iff, fun f after opened' => ?_⟩
  obtain ⟨⟨config, options⟩, d, present', same, id⟩ :=
    terms_and_width_run later there' present after
  rw [config'] at config
  rw [options'] at options
  rw [width] at same
  constructor
  · intro wide free
    rw [← id]
    exact takes_of_width after opened' present'
      (by rw [same, config]; exact Ring.atLeastOne_eq_iff.mpr wide) (by rwa [options])
  · intro silent
    have refused := refuses_of_mismatch after opened' present'
      (by rw [same, config, silent]; decide)
    rwa [same, config, silent] at refused

theorem line_of_sizes {e : Endpoint} {burst buffer : UInt64} {config : StreamConfig}
    {options : Options} (sizes : (e.line?.map fun line => (line.params.burst, line.buffer),
      e.config, e.options) = (some (burst, buffer), config, options)) :
    ∃ line, e.line? = some line ∧ line.params.burst = burst ∧ line.buffer = buffer ∧
      e.config = config ∧ e.options = options := by
  simp only [Prod.mk.injEq] at sizes
  obtain ⟨shown, config, options⟩ := sizes
  obtain ⟨line, opened, same⟩ := Option.map_eq_some_iff.mp shown
  obtain ⟨burst, buffer⟩ := Prod.mk.inj same
  exact ⟨line, opened, burst, buffer, config, options⟩

theorem made_channels_fit_after_reopening :
    let s := run { options := {} } [.acquire {} {}]
    let t := (s.perform (.createChannel 0)).run [.closeStream 0, .openStream 0]
    s.endpoints.toList.map (·.isOpen) = [true] ∧ t.endpoints.toList.map (·.isOpen) = [true] ∧
      (t.perform? (.register 0 s.channels.size)).map (·.1) = some .done := by
  intro s t
  have facts : s.endpoints[0]?.map (fun e => (e.line?.map fun line =>
      (line.params.burst, line.buffer), e.config, e.options)) =
        some (some (4, 8), ({} : StreamConfig), ({} : Options)) := by decide
  obtain ⟨e, there, sizes⟩ := Option.map_eq_some_iff.mp facts
  obtain ⟨line, opened, burst, buffer, config, options⟩ := line_of_sizes sizes
  have facts' : t.endpoints[0]?.map (fun f => (f.isOpen, f.registered)) = some (true, []) := by
    decide
  obtain ⟨f, after, eq'⟩ := Option.map_eq_some_iff.mp facts'
  obtain ⟨opened', nobody⟩ := Prod.mk.inj eq'
  have room : ¬ e.Outgrows line := by
    rw [Endpoint.Outgrows, Endpoint.ringFrames, burst, buffer, config, options]
    decide
  obtain ⟨-, c, -, -, -, fits⟩ := (made_channels_fit_unless_width_is_zero s
    [.closeStream 0, .openStream 0] there opened).2 room
  refine ⟨by decide, by decide, ((fits f after opened').1 ?_ ?_).1⟩
  · rw [config]
    decide
  · rw [nobody, options]
    decide

theorem made_channel_is_refused :
    let s := run { options := {} } [.acquire { channels := 0 } {}, .createChannel 0]
    s.endpoints.toList.map (fun e => (e.isOpen, e.config.channels, e.registered)) =
        [(true, 0, [])] ∧
      s.channels.toList.map (·.channels) = [1] ∧
      (s.perform? (.register 0 0)).map (·.1) = some (.failed (.channelMismatch 0 1)) := by
  exact ⟨by decide, by decide, rfl⟩

end Server

end SharedAudio

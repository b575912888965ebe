import SharedAudio.Proofs.Endpoint.Opening
import SharedAudio.Proofs.Ring.Request
import SharedAudio.Proofs.Server.Fitting

namespace SharedAudio

namespace Options

theorem burstsOfText_ne_zero {text : String} {bursts : UInt64}
    (read : burstsOfText text = some bursts) : bursts ≠ 0 := by
  rw [burstsOfText] at read
  split at read
  next =>
    split at read
    next => cases read
    next some =>
      cases read
      exact some
  next => cases read

theorem burstsPerBuffer_ofSetting_ne_zero (setting : Option ByteArray) :
    (ofSetting setting).burstsPerBuffer ≠ 0 := by
  rw [ofSetting]
  split
  next bursts found =>
    obtain ⟨text, -, read⟩ := Option.bind_eq_some_iff.mp found
    exact burstsOfText_ne_zero read
  next => decide

variable (o : Options) (burst : UInt64) (rate : UInt32)

def spanned (nanoseconds rate : Nat) : Nat :=
  min (2 ^ 64 - 1) (o.timeoutBursts.toNat * (nanoseconds / rate))

theorem duration?_eq_none : duration? burst rate = none ↔ UInt64.size ≤ burst.toNat * 10 ^ 9 := by
  rw [duration?, Option.map_eq_none_iff, Word.mul?_eq_none]
  rfl

theorem toNat_of_duration? {time : UInt64} (counted : duration? burst rate = some time) :
    time.toNat = burst.toNat * 10 ^ 9 / rate.toNat := by
  obtain ⟨nanoseconds, product, rfl⟩ := Option.map_eq_some_iff.mp counted
  rw [UInt64.toNat_div, Word.mul?_eq_some.mp product, UInt32.toNat_toUInt64]
  rfl

theorem writeTimeout?_eq_none_iff : o.writeTimeout? burst rate = none ↔
    rate ≠ 0 ∧ UInt64.size ≤ burst.toNat * 10 ^ 9 := by
  rw [writeTimeout?, ← duration?_eq_none burst rate]
  split
  next zero => simp [zero]
  next some => simp [some]

theorem toNat_of_writeTimeout? {time : UInt64} (given : o.writeTimeout? burst rate = some time) :
    time.toNat = max o.minWriteTimeout.toNat (o.spanned (burst.toNat * 10 ^ 9) rate.toNat) := by
  rw [writeTimeout?] at given
  split at given
  next zero =>
    cases given
    subst zero
    simp [spanned]
  next =>
    obtain ⟨each, counted, rfl⟩ := Option.map_eq_some_iff.mp given
    have scaled : (mulSaturating each o.timeoutBursts.toUInt64).toNat =
        o.spanned (burst.toNat * 10 ^ 9) rate.toNat := by
      rw [toNat_mulSaturating, toNat_of_duration? burst rate counted, UInt32.toNat_toUInt64,
        Nat.min_comm, Nat.mul_comm]
      rfl
    dsimp only
    rw [← scaled]
    split
    next less => exact (Nat.max_eq_left (Nat.le_of_lt less)).symm
    next more => exact (Nat.max_eq_right (Nat.not_lt.mp more)).symm

end Options

namespace Endpoint

variable (e : Endpoint)

def depth : Nat :=
  ((e.config.burstsPerBuffer.map UInt64.toNat).filter (0 < ·)).getD
    (max 1 e.options.burstsPerBuffer.toNat)

def bufferFrames (burst : UInt64) : Nat := e.depth * burst.toNat

theorem toNat_burstsPerBuffer : e.burstsPerBuffer.toNat = e.depth := by
  rw [depth]
  refine (Ring.toNat_atLeastOne _).trans ((max_comm ..).trans ?_)
  cases e.config.burstsPerBuffer with
  | none => rfl
  | some bursts =>
    by_cases zero : bursts = 0
    · subst zero
      rfl
    · have positive : 0 < bursts.toNat := UInt64.pos_iff_ne_zero.mpr zero
      simp only [if_neg zero, Option.map_some, Option.filter, decide_eq_true positive, if_true,
        Option.getD_some]
      exact Nat.max_eq_right positive

end Endpoint

theorem Site.openStream?_of_accepted {s t : Site} {params : HardwareParams}
    {reply : Except EndpointError Unit} (phase : s.endpoint.phase = .closed true)
    (answer : (s.endpoint.device.start s.endpoint.config).1 = .ok params)
    (accepted : s.endpoint.objection? params = none) (done : s.openStream? = some (reply, t)) :
    reply = .ok () ∧ ∃ line frames, t.endpoint.line? = some line ∧
      line.params = params ∧ line.buffer = s.endpoint.device.plan.buffer.getD frames ∧
      t.endpoint.device.calls =
        (s.endpoint.device.calls.push .opened).push (.buffer frames) ∧
      frames.toNat = s.endpoint.bufferFrames params.burst := by
  cases opening_of_openStream? done with
  | barred error other => exact absurd phase other
  | refused error _ refusal =>
    rw [answer] at refusal
    cases refusal
  | rejected params' reason _ answer' objection =>
    rw [answer] at answer'
    cases answer'
    rw [accepted] at objection
    cases objection
  | opened params' frames t _ answer' _ counted _ channels endpoint =>
    rw [answer] at answer'
    cases answer'
    refine ⟨rfl, _, frames, by rw [endpoint]; rfl, rfl, rfl, by rw [endpoint]; rfl, ?_⟩
    rw [counted, s.endpoint.toNat_burstsPerBuffer]
    rfl

namespace Server

theorem sizes_are_exact_where_given (site : Site) :
    let e := site.endpoint
    (∀ params, e.phase = .closed true → (e.device.start e.config).1 = .ok params →
      e.objection? params = none → (site.openStream? = none ↔ e.Exceeds params) ∧
        ∀ reply t, site.openStream? = some (reply, t) → reply = .ok () ∧
          ∃ line frames, t.endpoint.line? = some line ∧ line.params = params ∧
            line.buffer = e.device.plan.buffer.getD frames ∧
            t.endpoint.device.calls = (e.device.calls.push .opened).push (.buffer frames) ∧
            frames.toNat = e.bufferFrames params.burst) ∧
    (∀ (s : Server) (k : Nat) (line : Line), s.site? k = some site → e.line? = some line →
      (s.perform? (.createChannel k) = none ↔ e.Outgrows line) ∧
        (¬ e.Outgrows line →
          (s.perform? (.createChannel k)).map (·.1) = some (.channel s.channels.size) ∧
          ∃ c, (s.perform (.createChannel k)).channels[s.channels.size]? = some c ∧
            c.ring.capacity.toNat = e.ringFrames line)) ∧
    (∀ (burst : UInt64) (rate : UInt32),
      let nanoseconds := burst.toNat * 10 ^ 9
      let given := e.options.writeTimeout? burst rate
      (given = none ↔ rate ≠ 0 ∧ UInt64.size ≤ nanoseconds) ∧
        ∀ time, given = some time → time.toNat =
          max e.options.minWriteTimeout.toNat (e.options.spanned nanoseconds rate.toNat)) ∧
    ∀ setting, (Options.ofSetting setting).burstsPerBuffer ≠ 0 := by
  intro e
  refine ⟨fun params phase answer accepted => ⟨?_, fun reply t =>
      Site.openStream?_of_accepted phase answer accepted⟩, fun s k line here opened => ?_,
    fun burst rate => ⟨e.options.writeTimeout?_eq_none_iff burst rate, fun time =>
      e.options.toNat_of_writeTimeout? burst rate⟩, Options.burstsPerBuffer_ofSetting_ne_zero⟩
  · rw [Site.openStream?_eq_none_iff]
    constructor
    · rintro ⟨-, params', answer', -, exceeds⟩
      rw [answer] at answer'
      cases answer'
      exact exceeds
    · exact fun exceeds => ⟨phase, params, answer, accepted, exceeds⟩
  · have there := (endpoint_of_site? here).1
    have opened := Endpoint.line?_eq_some.mp opened
    refine ⟨createChannel_eq_none_iff there opened, fun room => ?_⟩
    obtain ⟨made, c, present, -, size⟩ := createChannel_of_room there opened room
    exact ⟨made, c, present, size⟩

theorem default_sizes_are_exact :
    let s : Site := ⟨{ config := {}, options := {}, device := { number := 0 } }, #[], {}⟩
    let u := run { options := {} } [.acquire {} {}]
    (∃ t frames, s.openStream? = some (.ok (), t) ∧
      t.endpoint.device.calls = #[.opened, .buffer frames] ∧ frames.toNat = 8) ∧
    (∃ c, (u.perform (.createChannel 0)).channels[0]? = some c ∧ c.ring.capacity.toNat = 32) ∧
    (s.endpoint.options.writeTimeout? 4 48000).map (·.toNat) = some 1000000000 := by
  intro s u
  obtain ⟨opens, -, waits, -⟩ := sizes_are_exact_where_given s
  refine ⟨?_, ?_, ?_⟩
  · obtain ⟨small, exact'⟩ := opens ⟨48000, 4, 3⟩ rfl (by decide) (by decide)
    obtain ⟨⟨reply, t⟩, done⟩ := Option.ne_none_iff_exists'.mp
      (mt small.mp (by unfold Endpoint.Exceeds; decide))
    obtain ⟨rfl, line, frames, -, -, -, calls, size⟩ := exact' reply t done
    exact ⟨t, frames, done, calls, size⟩
  · have facts : (u.site? 0).map (fun site => (site.endpoint.line?.map fun line =>
        (line.params.burst, line.buffer), site.endpoint.config, site.endpoint.options)) =
          some (some (4, 8), ({} : StreamConfig), ({} : Options)) := by decide
    obtain ⟨site, here, sizes⟩ := Option.map_eq_some_iff.mp facts
    obtain ⟨line, opened, burst, buffer, config, options⟩ := line_of_sizes sizes
    have wanted : site.endpoint.ringFrames line = 32 := by
      rw [Endpoint.ringFrames, burst, buffer, config, options]
      rfl
    have room : ¬ site.endpoint.Outgrows line := by
      rw [Endpoint.Outgrows, wanted, burst, config, options]
      decide
    obtain ⟨-, makes, -⟩ := sizes_are_exact_where_given site
    obtain ⟨-, c, present, size⟩ := (makes u 0 line here opened).2 room
    exact ⟨c, present, size.trans wanted⟩
  · obtain ⟨none, exact'⟩ := waits 4 48000
    obtain ⟨time, given⟩ := Option.ne_none_iff_exists'.mp (mt none.mp (by decide))
    rw [given, Option.map_some, exact' time given]
    decide

theorem timeout_is_not_given :
    let hasty : Options := { minWriteTimeout := 0 }
    hasty.spanned (18446744074 * 10 ^ 9) 48000 = 1537228672833332 ∧
      hasty.writeTimeout? 18446744074 48000 = none := by
  decide

end Server

end SharedAudio

import SharedAudio.Proofs.Mixing.Room

namespace SharedAudio

def Ring.Regular (r : Ring) : Prop := r.queued ≤ r.capacity.toNat

namespace Ring.Regular

variable {r : Ring}

theorem heap (capacity channels : UInt64) : (Ring.heap capacity channels).Regular := by
  rw [Regular, queued_heap]
  exact Nat.zero_le _

theorem consume (h : r.Regular) {frames : Nat} (queued : frames ≤ r.queued) :
    ({ r with memory := r.memory.consume frames } : Ring).Regular := by
  have left : (r.memory.consume frames).queued = r.memory.queued - frames := by
    simpa [Memory.consume, Memory.queued] using Counters.queued_consume queued
  change (r.memory.consume frames).queued ≤ r.capacity.toNat
  rw [left]
  exact Nat.le_trans (Nat.sub_le ..) h

theorem push (h : r.Regular) (samples : Array Sample) (stamp : Stamp) :
    (r.push samples stamp).2.Regular := by
  have threshold := r.attachment.window.threshold_le
  have within : r.queued ≤ r.capacity.toNat := h
  have lt := r.attachment.window.capacity.toNat_lt
  change r.memory.counters.queued ≤ r.attachment.window.capacity.toNat at within
  have room : r.attachment.room r.memory =
    r.attachment.window.threshold.toNat - r.memory.counters.queued := rfl
  change (r.attachment.push r.memory samples stamp).2.queued ≤ r.attachment.window.capacity.toNat
  rw [Attachment.push]
  dsimp only
  split
  · exact within
  · rw [Memory.queued, Memory.counters_setStamp, Memory.counters_setCounters,
      Counters.queued_publish (by rw [UInt64.size]; omega)]
    omega

theorem pop (h : r.Regular) (block : Array Sample) : (r.pop block).2.2.Regular := by
  have count :=
    (r.attachment.owns_readable r.memory (block.size / r.attachment.channels)).div_channels
  simp only [Ring.pop, Attachment.pop]
  split
  · exact h
  · refine h.consume ?_
    rw [count]
    exact Nat.le_trans (Nat.min_le_left _ _) (Nat.min_le_right _ _)

theorem retarget {value : Int} {other : Ring} (h : r.Regular)
    (moved : r.retarget? value = some other) : other.Regular := by
  obtain ⟨attachment, changed, rfl⟩ := Option.map_eq_some_iff.mp moved
  obtain ⟨window, new, rfl⟩ := Option.map_eq_some_iff.mp changed
  rw [Window.retarget?] at new
  split at new
  · cases new
    exact h
  · cases new

end Ring.Regular

def Channel.lacks (burst : UInt64) (c : Channel) : Bool := c.ring.queued < burst.toNat

theorem Mixer.regular_add? {m : Mixer} {r : Ring} {volume : Sample} {share : Share}
    (h : m.add? r volume = some share) (regular : r.Regular) : share.ring.Regular := by
  simp only [add?] at h
  split at h <;> cases h
  exact regular.consume (Nat.min_le_right _ _)

theorem Mixer.underflowed_of_add? {m : Mixer} {c : Channel} {volume : Sample} {share : Share}
    (matched : m.channels.toNat = c.ring.channels) (regular : c.ring.Regular)
    (h : m.add? c.ring volume = some share) : share.underflowed = c.lacks m.burst := by
  have within : c.ring.queued ≤ c.ring.capacity.toNat := regular
  rw [Share.underflowed, Channel.lacks, (frames_of_add? matched h).1, (Alike.of_add? h).burst,
    decide_eq_decide]
  omega

namespace Mixing

variable {m n o : Mixing} {key : Nat} {keys others : List Nat} {all : Array Channel}
  {width burst : UInt64}

structure Counts (m n : Mixing) (keys : List Nat) : Prop where
  total : n.underflows = m.underflows + UInt64.ofNat keys.length
  each : ∀ key : Nat, n.channels[key]?.map (·.underflows) =
    m.channels[key]?.map fun c => c.underflows + UInt64.ofNat (keys.count key)

theorem Counts.refl (m : Mixing) : m.Counts m [] :=
  ⟨by simp, fun key => by simp⟩

theorem Counts.trans (h : m.Counts n keys) (g : n.Counts o others) :
    m.Counts o (keys ++ others) := by
  refine ⟨?_, fun key => ?_⟩
  · rw [g.total, h.total, List.length_append, UInt64.ofNat_add, UInt64.add_assoc]
  · have first := h.each key
    have then' := g.each key
    rw [List.count_append, UInt64.ofNat_add]
    cases here : m.channels[key]? with
    | none => simp_all
    | some c =>
      rw [here] at first
      obtain ⟨d, there, counted⟩ := Option.map_eq_some_iff.mp first
      rw [then', there, Option.map_some, Option.map_some, counted, UInt64.add_assoc]

theorem counts_set {c d : Channel} (present : m.channels[key]? = some c) (mixer : Option Mixer)
    (short : Bool) (underflows : d.underflows = if short then c.underflows + 1 else c.underflows) :
    m.Counts ⟨mixer, m.channels.setIfInBounds key d,
      if short then m.underflows + 1 else m.underflows⟩ (if short then [key] else []) := by
  have inside : key < m.channels.size := (Array.getElem?_eq_some_iff.mp present).1
  refine ⟨by cases short <;> simp, fun other => ?_⟩
  rw [Array.getElem?_setIfInBounds]
  split
  next same =>
    subst same
    rw [present, Option.map_some, Option.map_some, underflows]
    cases short <;> simp
  next ne => cases short <;> simp [ne]

theorem Turn.counts {c : Channel} (turn : m.Turn all width burst key c)
    (matched : c.channels = width) (regular : c.ring.Regular) (kept : (m.take key).mixer ≠ none) :
    m.Counts (m.take key) (if c.lacks burst then [key] else []) := by
  obtain ⟨mixer, has, rfl, rfl, -⟩ := turn.underway
  have wide : mixer.channels.toNat = c.ring.channels :=
    matched ▸ c.toNat_channels
  simp only [take, has, turn.here, turn.running, if_true] at kept ⊢
  split at kept
  next share added =>
    have short : share.underflowed = c.lacks mixer.burst :=
      Mixer.underflowed_of_add? (c := c.stepGain) wide regular added
    rw [← short]
    exact counts_set turn.here _ _ rfl
  next => exact absurd rfl kept

end Mixing

def shortOf (all : Array Channel) (burst : UInt64) (keys : List Nat) : List Nat :=
  keys.filter fun key => all[key]?.any (Channel.lacks burst)

theorem shortOf_congr {all others : Array Channel} {burst : UInt64} {keys : List Nat}
    (rings : ∀ key : Nat, others[key]?.map (·.ring) = all[key]?.map (·.ring)) :
    shortOf others burst keys = shortOf all burst keys :=
  List.filter_congr fun key _ =>
    any_of_map (q := fun r => r.queued < burst.toNat) (fun _ => rfl) (rings key)

namespace Mixing

variable {m n : Mixing} {all : Array Channel} {keys : List Nat} {width burst : UInt64}

theorem Proceeds.counts (h : Proceeds all width burst keys m n)
    (regular : ∀ key ∈ keys, ∃ c, all[key]? = some c ∧ c.channels = width ∧ c.ring.Regular) :
    m.Counts n (shortOf all burst (runningOf all keys)) := by
  induction h with
  | @whole m underway => exact .refl m
  | still there still _ ih =>
    rw [runningOf_cons_of_still there still]
    exact ih fun key member => regular key (List.mem_cons_of_mem _ member)
  | @heard m n key keys c turn _ kept _ ih =>
    obtain ⟨_, there, matched, ring⟩ := regular key List.mem_cons_self
    cases turn.there.symm.trans there
    have counts := ih fun key member => regular key (List.mem_cons_of_mem _ member)
    have both := (turn.counts matched ring kept).trans counts
    rw [runningOf_cons_of_running turn.there turn.running]
    cases lacks : c.lacks burst <;> simpa [shortOf, there, lacks] using both

end Mixing

namespace Site

variable {s : Site} {mixer : Mixer}

theorem counts_mix (shaped : mixer.Shaped) (nodup : s.endpoint.registered.Nodup)
    (regular : ∀ key ∈ s.endpoint.registered, ∃ c, s.channels[key]? = some c ∧
      c.channels = mixer.channels ∧ c.ring.Regular) :
    let short := shortOf s.channels mixer.burst (runningOf s.channels s.endpoint.registered)
    (s.mix mixer).2.endpoint.underflows = s.endpoint.underflows + UInt64.ofNat short.length ∧
      ∀ key : Nat, (s.mix mixer).2.channels[key]?.map (·.underflows) =
        s.channels[key]?.map fun c => c.underflows + UInt64.ofNat (short.count key) := by
  have matched (key : Nat) (member : key ∈ s.endpoint.registered) :
      ∃ c, s.channels[key]? = some c ∧ c.ring.channels = mixer.channels.toNat := by
    obtain ⟨c, there, wide, -⟩ := regular key member
    exact ⟨c, there, by rw [← wide, Channel.toNat_channels]⟩
  obtain ⟨total, each⟩ := (proceeds_mix shaped nodup matched).counts regular
  exact ⟨total, each⟩

end Site

end SharedAudio

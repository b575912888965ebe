import SharedAudio.Proofs.Ring.Mapping
import SharedAudio.Proofs.Ring.Queue

namespace SharedAudio

inductive RingCall
  | buffer (call : BufferCall)
  | regions (frames : Nat)
  | consume (frames : Nat)
  | publish (frames : Nat)

def RingCall.retargets : RingCall → Bool
  | .buffer (.retarget _) => true
  | _ => false

inductive RingReply
  | buffer (reply : BufferReply)
  | regions (first second : Array Sample)
  | done

structure Reading where
  capacity : UInt64
  channels : Nat
  threshold : UInt64
  counters : Counters
  queued : Nat
  room : Nat
  readIndex : Nat
  writeIndex : Nat
  stamp : Stamp
  fill : Sample
  cells : Array Sample

def Memory.unmapped (m : Memory) : Memory := .heap m.counters m.stamp m.cells

def Header.label (h : Header) : UInt32 × UInt32 × UInt64 := (h.capacity, h.channels, h.reserved)

namespace Memory

variable (m : Memory)

@[simp] theorem counters_unmapped : m.unmapped.counters = m.counters := rfl

@[simp] theorem cells_unmapped : m.unmapped.cells = m.cells := rfl

theorem unmapped_setCounters (counters : Counters) :
    (m.setCounters counters).unmapped = m.unmapped.setCounters counters := by cases m <;> rfl

theorem unmapped_setStamp (stamp : Stamp) :
    (m.setStamp stamp).unmapped = m.unmapped.setStamp stamp := by cases m <;> rfl

theorem unmapped_setCells (cells : Array Sample) :
    (m.setCells cells).unmapped = m.unmapped.setCells cells := by cases m <;> rfl

theorem label_setCounters (counters : Counters) :
    (m.setCounters counters).header?.map Header.label = m.header?.map Header.label := by
  cases m <;> rfl

theorem label_setStamp (stamp : Stamp) :
    (m.setStamp stamp).header?.map Header.label = m.header?.map Header.label := by cases m <;> rfl

theorem label_setCells (cells : Array Sample) :
    (m.setCells cells).header?.map Header.label = m.header?.map Header.label := by cases m <;> rfl

theorem header_of_label {label : UInt32 × UInt32 × UInt64}
    (h : m.header?.map Header.label = some label) : m.header? = some
      { capacity := label.1, channels := label.2.1, reserved := label.2.2, read := m.counters.read,
        write := m.counters.write, stamp := m.stamp } := by
  cases m with
  | heap => cases h
  | mapped mapping =>
    cases h
    rfl

end Memory

namespace Attachment

variable (a : Attachment) (m : Memory)

theorem push_unmapped (samples : Array Sample) (stamp : Stamp) : a.push m.unmapped samples stamp =
    ((a.push m samples stamp).1, (a.push m samples stamp).2.unmapped) := by
  have room : a.room m.unmapped = a.room m := rfl
  have index : a.writeIndex m.unmapped = a.writeIndex m := rfl
  unfold push
  simp only [room, index, Memory.counters_unmapped, Memory.cells_unmapped]
  split
  · rfl
  · simp only [Memory.unmapped_setStamp, Memory.unmapped_setCounters, Memory.unmapped_setCells]

theorem pop_unmapped (block : Array Sample) : a.pop m.unmapped block =
    ((a.pop m block).1, (a.pop m block).2.1, (a.pop m block).2.2.unmapped) := by
  have readable : a.readable m.unmapped = a.readable m := rfl
  unfold pop
  simp only [readable, Memory.cells_unmapped]
  split
  · rfl
  · simp only [Memory.consume, Memory.counters_unmapped, Memory.unmapped_setCounters]

theorem label_push (samples : Array Sample) (stamp : Stamp) :
    (a.push m samples stamp).2.header?.map Header.label = m.header?.map Header.label := by
  unfold push
  dsimp only
  split
  · rfl
  · simp only [Memory.label_setStamp, Memory.label_setCounters, Memory.label_setCells]

theorem label_pop (block : Array Sample) :
    (a.pop m block).2.2.header?.map Header.label = m.header?.map Header.label := by
  unfold pop
  dsimp only
  split
  · rfl
  · exact m.label_setCounters _

end Attachment

namespace Ring

def unmapped (r : Ring) : Ring := { r with memory := r.memory.unmapped }

def label? (r : Ring) : Option (UInt32 × UInt32 × UInt64) := r.memory.header?.map Header.label

def reading (r : Ring) : Reading where
  capacity := r.capacity
  channels := r.channels
  threshold := r.threshold
  counters := r.counters
  queued := r.queued
  room := r.room
  readIndex := r.readIndex
  writeIndex := r.writeIndex
  stamp := r.stamp
  fill := r.fill
  cells := r.memory.cells

def serve (r : Ring) : RingCall → RingReply × Ring
  | .buffer call =>
      let (reply, r) := r.perform call
      (.buffer reply, r)
  | .regions frames =>
      let (first, second) := r.peek frames
      (.regions first second, r)
  | .consume frames => (.done, r.consume frames)
  | .publish frames => (.done, r.publish frames)

def transcript (r : Ring) : List RingCall → List (RingReply × Reading)
  | [] => []
  | call :: calls =>
      let (reply, next) := r.serve call
      (reply, next.reading) :: next.transcript calls

def serveAll (r : Ring) (calls : List RingCall) : Ring :=
  calls.foldl (fun r call => (r.serve call).2) r

section Unmapped

variable (r : Ring)

theorem reading_unmapped : r.unmapped.reading = r.reading := rfl

theorem push_unmapped (samples : Array Sample) (stamp : Stamp) : r.unmapped.push samples stamp =
    ((r.push samples stamp).1, (r.push samples stamp).2.unmapped) := by
  have acted := r.attachment.push_unmapped r.memory samples stamp
  simp only [push, unmapped, acted]

theorem pop_unmapped (block : Array Sample) : r.unmapped.pop block =
    ((r.pop block).1, (r.pop block).2.1, (r.pop block).2.2.unmapped) := by
  have acted := r.attachment.pop_unmapped r.memory block
  simp only [pop, unmapped, acted]

theorem consume_unmapped (frames : Nat) :
    r.unmapped.consume frames = (r.consume frames).unmapped := by
  simp only [consume, unmapped, Memory.consume, Memory.counters_unmapped,
    Memory.unmapped_setCounters]

theorem publish_unmapped (frames : Nat) :
    r.unmapped.publish frames = (r.publish frames).unmapped := by
  simp only [publish, unmapped, Memory.publish, Memory.counters_unmapped,
    Memory.unmapped_setCounters]

theorem discard_unmapped (frames : Nat) :
    r.unmapped.discard frames = ((r.discard frames).1, (r.discard frames).2.unmapped) :=
  Prod.ext rfl (r.consume_unmapped _)

theorem retarget?_unmapped (value : Int) :
    r.unmapped.retarget? value = (r.retarget? value).map unmapped := by
  rw [retarget?, retarget?, Option.map_map]
  rfl

theorem perform_unmapped (call : BufferCall) :
    r.unmapped.perform call = ((r.perform call).1, (r.perform call).2.unmapped) := by
  cases call with
  | push samples stamp => simp only [perform, push_unmapped]
  | pop block => simp only [perform, pop_unmapped]
  | peek frames => rfl
  | advance frames => exact Prod.ext rfl (r.consume_unmapped _)
  | discard frames => simp only [perform, discard_unmapped]
  | retarget value =>
    simp only [perform, retarget?_unmapped]
    cases r.retarget? value <;> rfl

theorem serve_unmapped (call : RingCall) :
    r.unmapped.serve call = ((r.serve call).1, (r.serve call).2.unmapped) := by
  cases call with
  | buffer call => simp only [serve, perform_unmapped]
  | regions frames => rfl
  | consume frames => exact Prod.ext rfl (r.consume_unmapped frames)
  | publish frames => exact Prod.ext rfl (r.publish_unmapped frames)

theorem transcript_unmapped (calls : List RingCall) :
    r.unmapped.transcript calls = r.transcript calls := by
  induction calls generalizing r with
  | nil => rfl
  | cons call calls ih => simp only [transcript, serve_unmapped, reading_unmapped, ih]

theorem serveAll_unmapped (calls : List RingCall) :
    r.unmapped.serveAll calls = (r.serveAll calls).unmapped := by
  induction calls generalizing r with
  | nil => rfl
  | cons call calls ih => simp only [serveAll, List.foldl_cons, serve_unmapped] at ih ⊢; exact ih _

end Unmapped

section Label

variable (r : Ring)

theorem label_perform (call : BufferCall) : (r.perform call).2.label? = r.label? := by
  cases call with
  | push samples stamp => exact r.attachment.label_push r.memory samples stamp
  | pop block => exact r.attachment.label_pop r.memory block
  | peek frames => rfl
  | advance frames | discard frames => exact r.memory.label_setCounters _
  | retarget value =>
    simp only [perform, retarget?]
    cases r.attachment.retarget? value <;> rfl

theorem label_serve (call : RingCall) : (r.serve call).2.label? = r.label? := by
  cases call with
  | buffer call => exact r.label_perform call
  | regions frames => rfl
  | consume frames | publish frames => exact r.memory.label_setCounters _

theorem label_serveAll (calls : List RingCall) : (r.serveAll calls).label? = r.label? := by
  induction calls generalizing r with
  | nil => rfl
  | cons call calls ih => exact (ih _).trans (r.label_serve call)

end Label

section Apart

variable (r : Ring) {call : RingCall}

theorem memory_serve (moves : call.retargets = true) : (r.serve call).2.memory = r.memory := by
  cases call with
  | buffer call =>
    cases call with
    | retarget value =>
      simp only [serve, perform, retarget?]
      cases r.attachment.retarget? value <;> rfl
    | _ => cases moves
  | _ => cases moves

theorem attachment_serve (stays : call.retargets = false) :
    (r.serve call).2.attachment = r.attachment := by
  cases call with
  | buffer call =>
    cases call with
    | retarget value => cases stays
    | _ => rfl
  | _ => rfl

end Apart

end Ring

namespace Pair

def serve (p : Pair) (side : Side) (call : RingCall) : RingReply × Pair :=
  let (reply, r) := (p.ring side).serve call
  (reply, if call.retargets then
    { p with
      near := ((p.ring .near).serve call).2.attachment
      far := ((p.ring .far).serve call).2.attachment }
    else p.update side r)

def transcript (p : Pair) : List (Side × RingCall) → List (RingReply × Reading × Reading)
  | [] => []
  | (side, call) :: calls =>
      let (reply, next) := p.serve side call
      (reply, (next.ring .near).reading, (next.ring .far).reading) :: next.transcript calls

def serveAll (p : Pair) (calls : List (Side × RingCall)) : Pair :=
  calls.foldl (fun p call => (p.serve call.1 call.2).2) p

def Shows (p : Pair) (r : Ring) : Prop := ∀ side, (p.ring side).unmapped = r

variable {p : Pair} {r : Ring}

theorem ring_update_of_attachment {side : Side} (kept : r.attachment = (p.ring side).attachment)
    (other : Side) : (p.update side r).ring other = ⟨(p.ring other).attachment, r.memory⟩ := by
  cases side <;> cases other <;> simp only [ring, update] at kept ⊢ <;> rw [kept]

theorem Shows.serve (h : p.Shows r) (side : Side) (call : RingCall) :
    (p.serve side call).1 = (r.serve call).1 ∧ (p.serve side call).2.Shows (r.serve call).2 := by
  have acted (side : Side) : r.serve call =
      (((p.ring side).serve call).1, ((p.ring side).serve call).2.unmapped) := by
    rw [← h side]
    exact (p.ring side).serve_unmapped call
  refine ⟨(congrArg (·.1) (acted side)).symm, fun other => ?_⟩
  rw [acted other, Pair.serve]
  cases moves : call.retargets with
  | true =>
    have kept := (p.ring other).memory_serve moves
    cases other <;> exact congrArg (fun m => Ring.unmapped ⟨_, m⟩) kept.symm
  | false =>
    have mine := (p.ring other).attachment_serve moves
    have common : ((p.ring other).serve call).2.memory.unmapped =
        ((p.ring side).serve call).2.memory.unmapped := by
      have same := (acted other).symm.trans (acted side)
      exact congrArg (fun answer => answer.2.memory) same
    have placed := ring_update_of_attachment ((p.ring side).attachment_serve moves) other
    simp only [Bool.false_eq_true, if_false, placed, Ring.unmapped, mine, common]

theorem Shows.transcript (h : p.Shows r) (calls : List (Side × RingCall)) :
    p.transcript calls = (r.transcript (calls.map (·.2))).map fun entry =>
      (entry.1, entry.2, entry.2) := by
  induction calls generalizing p r with
  | nil => rfl
  | cons call calls ih =>
    obtain ⟨reply, shows⟩ := h.serve call.1 call.2
    have reading (side : Side) : (((p.serve call.1 call.2).2).ring side).reading =
        (r.serve call.2).2.reading := by
      rw [← shows side, Ring.reading_unmapped]
    simp only [Pair.transcript, List.map_cons, Ring.transcript, reply, reading, ih shows]

theorem Shows.serveAll (h : p.Shows r) (calls : List (Side × RingCall)) :
    (p.serveAll calls).Shows (r.serveAll (calls.map (·.2))) := by
  induction calls generalizing p r with
  | nil => exact h
  | cons call calls ih => exact ih (h.serve call.1 call.2).2

theorem label_serve (p : Pair) (side : Side) (call : RingCall) :
    (p.serve side call).2.memory.header?.map Header.label = p.memory.header?.map Header.label := by
  rw [Pair.serve]
  cases call.retargets with
  | true => rfl
  | false =>
    have kept := (p.ring side).label_serve call
    cases side <;> exact kept

theorem label_serveAll (p : Pair) (calls : List (Side × RingCall)) :
    (p.serveAll calls).memory.header?.map Header.label = p.memory.header?.map Header.label := by
  induction calls generalizing p with
  | nil => rfl
  | cons call calls ih => exact (ih _).trans (p.label_serve call.1 call.2)

end Pair

theorem Pair.exists_attachment {m : Mapping} {p : Pair} (attached : attach? m = some (.ok p)) :
    ∃ a, m.attach? = some (.ok a) ∧ p = ⟨a, a, .mapped m⟩ := by
  rw [attach?] at attached
  rcases attaches : m.attach? with _ | ⟨error | a⟩
  · rw [attaches] at attached
    cases attached
  · rw [attaches] at attached
    cases attached
  · rw [attaches] at attached
    cases attached
    exact ⟨a, rfl, rfl⟩

namespace Ring

variable {bytes capacity channels : UInt64} {c n : UInt32} {a : Attachment}

theorem unmapped_attached
    (attached : (Mapping.zeroed bytes { capacity := c, channels := n }).attach? = some (.ok a))
    (tall : a.window.capacity = capacity) (wide : a.channels = (heap capacity channels).channels) :
    unmapped ⟨a, .mapped (Mapping.zeroed bytes { capacity := c, channels := n })⟩ =
      heap capacity channels := by
  obtain ⟨-, follows⟩ : _ ∧ Mapping.Follows a { capacity := c, channels := n } :=
    Mapping.follows_of_attach? attached
  have cells : (Mapping.zeroed bytes { capacity := c, channels := n }).cells =
      Array.replicate (capacity.toNat * (heap capacity channels).channels) 0 := by
    rw [Mapping.cells_zeroed attached, Attachment.capacity, tall, wide]
  have attachment : a = (heap capacity channels).attachment := by
    obtain ⟨window, width, positive⟩ := a
    cases follows.window
    cases tall
    cases wide
    rfl
  rw [attachment]
  change Ring.mk _ (.heap {} (.given 0) (Mapping.zeroed bytes _).cells) = _
  rw [cells]
  rfl

theorem label_of_reported {h : Header} (follows : Mapping.Follows a h)
    (tall : a.window.capacity = capacity) (wide : a.channels = (heap capacity channels).channels) :
    h.capacity = capacity.toUInt32 ∧ h.channels = (atLeastOne channels).toUInt32 := by
  rw [follows.window] at tall
  rw [follows.channels] at wide
  constructor
  · rw [← tall]
    exact (UInt32.toUInt32_toUInt64 h.capacity).symm
  · have same : h.channels.toNat = (atLeastOne channels).toNat := wide
    rw [← UInt32.toNat_inj, UInt64.toNat_toUInt32, ← same, Nat.mod_eq_of_lt h.channels.toNat_lt]

theorem storage_is_interchangeable (capacity channels bytes : UInt64) (c n : UInt32)
    {own : Ring} {pair : Pair} (made : shared? capacity channels = some (.ok own))
    (attached : Pair.attach? (.zeroed bytes { capacity := c, channels := n }) = some (.ok pair))
    (alike : ∀ r ∈ [own, pair.ring .near, pair.ring .far],
      r.capacity = (heap capacity channels).capacity ∧
        r.channels = (heap capacity channels).channels)
    (calls : List (Pair.Side × RingCall)) :
    let sole := calls.map (·.2)
    let transcript := (heap capacity channels).transcript sole
    let last := (heap capacity channels).serveAll sole
    let header : Header :=
      { capacity := c
        channels := n
        reserved := 0
        read := last.counters.read
        write := last.counters.write
        stamp := last.stamp }
    own.transcript sole = transcript ∧
      pair.transcript calls = transcript.map (fun (reply, reading) => (reply, reading, reading)) ∧
      (own.serveAll sole).memory.header? = some header ∧
      (pair.serveAll calls).memory.header? = some header := by
  intro sole transcript last header
  obtain ⟨own, a, attaches, rfl⟩ := exists_attachment made
  obtain ⟨b, attaches', rfl⟩ := Pair.exists_attachment attached
  obtain ⟨tall, wide⟩ := alike _ (.head _)
  obtain ⟨tall', wide'⟩ := alike _ (.tail _ (.head _))
  obtain ⟨rfl, rfl⟩ : c = capacity.toUInt32 ∧ n = (atLeastOne channels).toUInt32 :=
    label_of_reported (Mapping.follows_of_attach? attaches').2 tall' wide'
  have bare : unmapped ⟨a, .mapped (.zeroed own
      { capacity := capacity.toUInt32, channels := (atLeastOne channels).toUInt32 })⟩ =
        heap capacity channels := unmapped_attached attaches tall wide
  have shows : Pair.Shows ⟨b, b, .mapped (.zeroed bytes
      { capacity := capacity.toUInt32, channels := (atLeastOne channels).toUInt32 })⟩
      (heap capacity channels) := by
    rintro (_ | _) <;> exact unmapped_attached attaches' tall' wide'
  have told {m : Memory} (label : m.header?.map Header.label =
      some (capacity.toUInt32, (atLeastOne channels).toUInt32, 0))
      (same : m.unmapped = last.memory) : m.header? = some header := by
    rw [m.header_of_label label]
    simp only [header, counters, stamp, ← same]
    rfl
  refine ⟨?_, shows.transcript calls, told ?_ ?_, told ?_ ?_⟩
  · rw [← transcript_unmapped, bare]
  · exact label_serveAll _ sole
  · have moved := serveAll_unmapped ⟨a, .mapped (.zeroed own
      { capacity := capacity.toUInt32, channels := (atLeastOne channels).toUInt32 })⟩ sole
    rw [bare] at moved
    exact (congrArg Ring.memory moved).symm
  · exact Pair.label_serveAll _ calls
  · exact congrArg Ring.memory (shows.serveAll calls .near)

theorem storage_is_interchangeable_across_the_end :
    let calls : List (Pair.Side × RingCall) := [(.near, .buffer (.push #[1, 2, 3, 4] (.given 7))),
      (.far, .buffer (.retarget 2)), (.far, .buffer (.discard 1)), (.near, .consume 1),
      (.far, .buffer (.push #[5, 6, 7, 8, 9] (.given 9))), (.near, .regions 3)]
    ∃ own pair, shared? 3 2 = some (.ok own) ∧
      Pair.attach? (.zeroed 88 { capacity := 3, channels := 2 }) = some (.ok pair) ∧
      pair.transcript calls = ((heap 3 2).transcript (calls.map (·.2))).map
        (fun (reply, reading) => (reply, reading, reading)) ∧
      (own.serveAll (calls.map (·.2))).memory.header? =
        some { capacity := 3, channels := 2, read := 2, write := 4, stamp := .given 9 } := by
  intro calls
  have same := storage_is_interchangeable 3 2 88 3 2 rfl rfl
    (by simp only [List.forall_mem_cons]; exact ⟨⟨rfl, rfl⟩, ⟨rfl, rfl⟩, ⟨rfl, rfl⟩, by simp⟩) calls
  refine ⟨_, _, rfl, rfl, same.2.1, same.2.2.1.trans ?_⟩
  decide +kernel

end Ring

end SharedAudio

import Mathlib.Data.List.Nodup
import SharedAudio.Proofs.Fifo.Position

namespace SharedAudio

namespace Window

variable {w : Window}

def slots (w : Window) (start frames : Nat) : List Nat :=
  (List.range frames).map fun i => (start + i) % w.capacity.toNat

theorem length_slots (w : Window) (start frames : Nat) :
    (w.slots start frames).length = frames := by simp [slots]

theorem slots_mod (w : Window) (start frames : Nat) :
    w.slots (start % w.capacity.toNat) frames = w.slots start frames := by
  simp only [slots, Nat.mod_add_mod]

theorem slots_add (w : Window) (start first second : Nat) :
    w.slots start (first + second) = w.slots start first ++ w.slots (start + first) second := by
  simp [slots, List.range_add, Nat.add_assoc]

theorem take_slots (w : Window) {start frames k : Nat} (h : k ≤ frames) :
    (w.slots start frames).take k = w.slots start k := by
  obtain ⟨rest, rfl⟩ := Nat.exists_eq_add_of_le h
  rw [slots_add, List.take_left' (w.length_slots start k)]

theorem drop_slots (w : Window) {start frames k : Nat} (h : k ≤ frames) :
    (w.slots start frames).drop k = w.slots (start + k) (frames - k) := by
  obtain ⟨rest, rfl⟩ := Nat.exists_eq_add_of_le h
  rw [slots_add, List.drop_left' (w.length_slots start k), Nat.add_sub_cancel_left]

theorem nodup_slots (start : Nat) {frames : Nat} (h : frames ≤ w.capacity.toNat) :
    (w.slots start frames).Nodup := by
  apply (List.nodup_map_iff_inj_on List.nodup_range).mpr
  intro i hi j hj same
  rw [List.mem_range] at hi hj
  exact (Nat.ModEq.add_left_cancel' start same).eq_of_lt_of_lt (by omega) (by omega)

end Window

namespace Fifo

inductive Reach (capacity threshold start : UInt64) : Fifo → Nat → List Nat → Prop
  | new : Reach capacity threshold start (.new capacity threshold start) start.toNat []
  | publish {f next slots frames} : Reach capacity threshold start f next slots →
      frames ≤ f.room → Reach capacity threshold start (f.publish frames) (next + frames)
        (slots ++ f.window.slots f.writeIndex frames)
  | consume {f next slots frames} : Reach capacity threshold start f next slots →
      frames ≤ f.queued → Reach capacity threshold start (f.consume frames) next
        (slots.drop frames)

def Related (f : Fifo) : Prop := f.writeIndex = (f.readIndex + f.queued) % f.window.capacity.toNat

structure Lawful (f : Fifo) (slots : List Nat) : Prop where
  related : f.Related
  published : ∀ frames ≤ f.room,
    (f.publish frames).writeIndex = (f.writeIndex + frames) % f.window.capacity.toNat
  consumed : ∀ frames ≤ f.queued,
    (f.consume frames).readIndex = (f.readIndex + frames) % f.window.capacity.toNat
  distinct : slots.Nodup
  found : ∀ frames ≤ f.queued, f.window.slots f.readIndex frames = slots.take frames

variable {capacity threshold start : UInt64} {f : Fifo} {next : Nat} {slots : List Nat}

theorem window_of_reach (h : Reach capacity threshold start f next slots) :
    f.window = .new capacity threshold := by
  induction h with
  | new => rfl
  | publish _ _ ih => exact ih
  | consume _ _ ih => exact ih

theorem queued_add_le {frames : Nat} (bound : f.queued ≤ f.window.capacity.toNat)
    (within : frames ≤ f.room) : f.queued + frames ≤ f.window.capacity.toNat := by
  have room : f.room = f.window.threshold.toNat - f.queued := rfl
  have := f.window.threshold_le
  omega

theorem span_of_reach (positive : capacity ≠ 0) (h : Reach capacity threshold start f next slots) :
    f.queued ≤ f.window.capacity.toNat ∧ ∃ first, f.counters.Span first next ∧
      slots.length = f.queued ∧
      (f.window.Exact next → slots = f.window.slots first (next - first)) := by
  -- The induction is over the calls. Up to the wrap the slots noted at the writes are the ones that
  -- follow from the number of the oldest frame.
  induction h with
  | new =>
    refine ⟨by simp [queued, Fifo.new], _, Counters.span_startingAt start, ?_, ?_⟩
    · simp [queued, Fifo.new]
    · simp [Window.slots]
  | @publish f next slots frames reach within ih =>
    obtain ⟨bound, first, span, length, place⟩ := ih
    have grown := queued_add_le bound within
    have capacityBound := f.window.capacity.toNat_lt
    have fits : f.counters.queued + frames < 2 ^ 64 := Nat.lt_of_le_of_lt grown capacityBound
    have after : (f.publish frames).queued = f.queued + frames := Counters.queued_publish fits
    refine ⟨by rw [after]; exact grown, first, span.publish fits, ?_, ?_⟩
    · rw [List.length_append, Window.length_slots, length, after]
    · intro exact
      have nonzero : f.window.capacity ≠ 0 := by rw [window_of_reach reach]; exact positive
      have before := exact.mono (Nat.le_add_right next frames)
      have index : f.writeIndex = next % f.window.capacity.toNat := by
        rw [writeIndex, span.write, Window.index_ofNat nonzero before]
      have ordered := span.ordered
      rw [place before, index, Window.slots_mod]
      change _ = f.window.slots first (next + frames - first)
      rw [show next + frames - first = next - first + frames by omega, Window.slots_add,
        Nat.add_sub_cancel' ordered]
  | @consume f next slots frames reach within ih =>
    obtain ⟨bound, first, span, length, place⟩ := ih
    have after : (f.consume frames).queued = f.queued - frames := Counters.queued_consume within
    refine ⟨by rw [after]; exact Nat.le_trans (Nat.sub_le _ _) bound, first + frames,
      span.consume within, ?_, ?_⟩
    · rw [List.length_drop, length, after]
    · intro exact
      have counted : f.queued = next - first := span.queued
      rw [place exact, Window.drop_slots _ (by omega), Nat.sub_sub]
      rfl

theorem related_iff (positive : capacity ≠ 0) (h : Reach capacity threshold start f next slots) :
    f.Related ↔ capacity.toNat ∣ 2 ^ 64 ∨ f.counters.read ≤ f.counters.write := by
  obtain ⟨bound, first, span, -, -⟩ := span_of_reach positive h
  have capacities : f.window.capacity = capacity := by rw [window_of_reach h]; rfl
  have nonzero : f.window.capacity ≠ 0 := by rw [capacities]; exact positive
  have moved : f.counters.write = f.counters.read + UInt64.ofNat f.queued := by
    have counted : f.queued = next - first := span.queued
    have := span.ordered
    rw [span.read, span.write, counted, ← UInt64.ofNat_add, Nat.add_sub_cancel' this]
  have apart : f.counters.read.toNat + f.queued < 2 ^ 64 ↔ f.counters.read ≤ f.counters.write := by
    have := f.counters.read.toNat_lt
    have := f.window.capacity.toNat_lt
    rw [UInt64.le_iff_toNat_le, moved, UInt64.toNat_add, UInt64.toNat_ofNat']
    omega
  have step := Window.index_add_iff nonzero f.counters.read bound
  rw [← moved, Window.Exact, apart, capacities] at step
  rw [Related, capacities]
  exact step

theorem lawful_of_exact (positive : capacity ≠ 0) (h : Reach capacity threshold start f next slots)
    (exact : f.window.Exact (next + f.room)) : f.Lawful slots := by
  obtain ⟨bound, first, span, length, place⟩ := span_of_reach positive h
  have nonzero : f.window.capacity ≠ 0 := by rw [window_of_reach h]; exact positive
  have counted : f.queued = next - first := span.queued
  have ordered := span.ordered
  have reading := exact.mono (Nat.le_add_right next f.room)
  have stored := place reading
  have front : f.readIndex = first % f.window.capacity.toNat := by
    rw [readIndex, span.read, Window.index_ofNat nonzero (reading.mono ordered)]
  refine ⟨?_, ?_, ?_, ?_, ?_⟩
  · rw [Related, front, writeIndex, span.write, Window.index_ofNat nonzero reading,
      Nat.mod_add_mod, counted, Nat.add_sub_cancel' ordered]
  · intro frames within
    have le := queued_add_le bound within
    apply (Window.index_add_iff nonzero f.counters.write (by omega)).mpr
    rw [span.write]
    exact exact.toNat_ofNat (by omega)
  · intro frames within
    apply (Window.index_add_iff nonzero f.counters.read (by omega)).mpr
    rw [span.read]
    exact reading.toNat_ofNat (by omega)
  · rw [stored]
    exact Window.nodup_slots first (by omega)
  · intro frames within
    rw [front, Window.slots_mod, stored, Window.take_slots _ (by omega)]

theorem room_new_pos (positive : capacity ≠ 0) (fillable : threshold ≠ 0) :
    0 < (Window.new capacity threshold).threshold.toNat := by
  have capacityPos := Window.capacity_pos (w := .full capacity) positive
  have thresholdPos := Window.capacity_pos (w := .full threshold) fillable
  simp only [Window.new]
  split
  · exact thresholdPos
  · exact capacityPos

theorem queued_publish_of_idle {frames : Nat} (idle : f.queued = 0) (small : frames < 2 ^ 64) :
    (f.publish frames).queued = frames := by
  have grown : (f.publish frames).queued = f.queued + frames :=
    Counters.queued_publish (show f.queued + frames < 2 ^ 64 by omega)
  rw [grown, idle, Nat.zero_add]

theorem reach_idle (start : UInt64) (positive : capacity ≠ 0) (fillable : threshold ≠ 0)
    (n : Nat) :
    ∃ f, Reach capacity threshold start f (start.toNat + n) [] ∧ 1 ≤ f.room ∧ f.queued = 0 ∧
      f.counters = .startingAt (UInt64.ofNat (start.toNat + n)) := by
  have roomy {f next slots} (reach : Reach capacity threshold start f next slots)
      (idle : f.queued = 0) : 1 ≤ f.room := by
    change 1 ≤ f.window.threshold.toNat - f.queued
    rw [idle, window_of_reach reach]
    exact room_new_pos positive fillable
  induction n with
  | zero =>
    have idle : (Fifo.new capacity threshold start).queued = 0 := Counters.queued_startingAt start
    exact ⟨_, .new, roomy .new idle, idle, by simp [Fifo.new]⟩
  | succ n ih =>
    obtain ⟨f, reach, room, idle, counters⟩ := ih
    have one : (f.publish 1).queued = 1 := queued_publish_of_idle idle (by decide)
    have written := reach.publish room
    have read := written.consume (Nat.le_of_eq one.symm)
    rw [List.nil_append, List.drop_of_length_le (by rw [Window.length_slots])] at read
    have again : ((f.publish 1).consume 1).counters =
        .startingAt (UInt64.ofNat (start.toNat + (n + 1))) := by
      simp [publish, consume, Counters.publish, Counters.consume, counters, Counters.startingAt,
        UInt64.add_assoc]
    have empty : ((f.publish 1).consume 1).queued = 0 := by
      rw [queued, again, Counters.queued_startingAt]
    exact ⟨_, read, roomy read empty, empty, again⟩

theorem index_law (start : UInt64) (positive : capacity ≠ 0) (fillable : threshold ≠ 0) :
    ((∀ f next slots, Reach capacity threshold start f next slots → f.Lawful slots) ↔
      capacity.toNat ∣ 2 ^ 64) ∧
    ∀ f next slots, Reach capacity threshold start f next slots →
      (f.Related ↔ capacity.toNat ∣ 2 ^ 64 ∨ f.counters.read ≤ f.counters.write) ∧
      (next + f.room < 2 ^ 64 → f.Lawful slots) := by
  refine ⟨⟨?_, ?_⟩, ?_⟩
  · intro lawful
    -- Both counters stand at the end of their range. With one frame more, only the write counter
    -- has wrapped.
    obtain ⟨f, reach, room, idle, counters⟩ :=
      reach_idle start positive fillable (2 ^ 64 - 1 - start.toNat)
    have written := reach.publish room
    have startBound := start.toNat_lt
    rw [show start.toNat + (2 ^ 64 - 1 - start.toNat) = 2 ^ 64 - 1 by omega] at counters
    rcases (related_iff positive written).mp (lawful _ _ _ written).related with divides | ordered
    · exact divides
    · simp [publish, Counters.publish, counters, Counters.startingAt] at ordered
  · intro divides f next slots reach
    exact lawful_of_exact positive reach (.inl (by rw [window_of_reach reach]; exact divides))
  · intro f next slots reach
    exact ⟨related_iff positive reach, fun small => lawful_of_exact positive reach (.inr small)⟩

theorem index_law_at_sixteen :
    (∀ f next slots, Reach 16 16 18446744073709551613 f next slots → f.Lawful slots) ∧
    ((Fifo.new 16 16 18446744073709551613).publish 5).Related ∧
    (Fifo.new 10 10 0).Lawful [] := by
  have sixteen := @index_law 16 16 18446744073709551613 (by decide) (by decide)
  have ten := @index_law 10 10 0 (by decide) (by decide)
  have within : 5 ≤ (Fifo.new 16 16 18446744073709551613).room := by decide
  refine ⟨sixteen.1.mpr (by decide), ?_, ?_⟩
  · exact (sixteen.2 _ _ _ (Reach.new.publish within)).1.mpr (.inl (by decide))
  · exact (ten.2 _ _ _ .new).2 (by decide)

theorem slots_collide_across_wrap :
    ∃ f next slots, Reach 10 10 18446744073709551613 f next slots ∧ ¬ f.Related ∧
      ¬ slots.Nodup := by
  have within : 5 ≤ (Fifo.new 10 10 18446744073709551613).room := by decide
  have again : 5 ≤ ((Fifo.new 10 10 18446744073709551613).publish 5).room := by decide
  refine ⟨_, _, _, (Reach.new.publish within).publish again, ?_, ?_⟩
  · unfold Related
    decide
  · decide

end Fifo

end SharedAudio

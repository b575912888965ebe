import SharedAudio.Proofs.Endpoint.Easing
import SharedAudio.Proofs.Mixing.Bounds

namespace SharedAudio

def runningOf (all : Array Channel) (keys : List Nat) : List Nat :=
  keys.filter fun key => all[key]?.any Channel.isRunning

section Views

variable {all others : Array Channel} {keys : List Nat} {key : Nat} {c : Channel}

theorem any_of_map {β : Type} {view : Channel → β} {p : Channel → Bool} {q : β → Bool}
    (through : ∀ c, p c = q (view c)) (same : others[key]?.map view = all[key]?.map view) :
    others[key]?.any p = all[key]?.any p := by
  have seen (a : Option Channel) : a.any p = (a.map view).any q := by
    cases a with
    | none => rfl
    | some c => exact through c
  rw [seen, seen, same]

theorem runningOf_congr
    (states : ∀ key : Nat, others[key]?.map (·.state) = all[key]?.map (·.state)) :
    runningOf others keys = runningOf all keys :=
  List.filter_congr fun key _ => any_of_map (q := (· == .running)) (fun _ => rfl) (states key)

theorem runningOf_cons_of_running (there : all[key]? = some c) (running : c.isRunning = true) :
    runningOf all (key :: keys) = key :: runningOf all keys := by
  simp [runningOf, there, running]

theorem runningOf_cons_of_still (there : all[key]? = some c) (still : c.isRunning = false) :
    runningOf all (key :: keys) = runningOf all keys := by
  simp [runningOf, there, still]

theorem present_of_mem_runningOf (member : key ∈ runningOf all keys) : all[key]? ≠ none := by
  intro absent
  have runs := List.of_mem_filter member
  rw [absent] at runs
  cases runs

end Views

namespace Mixing

variable {m n : Mixing} {key : Nat} {keys : List Nat} {all : Array Channel} {width burst : UInt64}
  {mixer : Mixer} {c : Channel}

theorem mixer_take_ne_none (has : m.mixer = some mixer) (present : m.channels[key]? = some c)
    (matched : c.ring.channels = mixer.channels.toNat) (shaped : mixer.Shaped) :
    (m.take key).mixer ≠ none := by
  cases running : c.isRunning with
  | false =>
    rw [take_of_not_running present running, has]
    exact Option.some_ne_none mixer
  | true =>
    simp only [take, has, present, running, if_true]
    split
    next => exact Option.some_ne_none _
    next full =>
      exact absurd full (Mixer.add?_ne_none (r := c.stepGain.ring) _ matched.symm shaped)

def Underway (m : Mixing) (width burst : UInt64) : Prop :=
  ∃ mixer, m.mixer = some mixer ∧ mixer.channels = width ∧ mixer.burst = burst ∧ mixer.Shaped

theorem underway_clear (shaped : mixer.Shaped) (channels : Array Channel) (underflows : UInt64) :
    Underway ⟨some mixer.clear, channels, underflows⟩ mixer.channels mixer.burst := by
  refine ⟨mixer.clear, rfl, rfl, rfl, ?_⟩
  rw [Mixer.Shaped, Mixer.size_clear]
  exact shaped

theorem Underway.take {next : Mixer} (h : m.Underway width burst)
    (after : (m.take key).mixer = some next) : (m.take key).Underway width burst := by
  obtain ⟨mixer, has, channels, burst', shaped⟩ := h
  obtain ⟨before, was, alike⟩ := alike_take after
  rw [has] at was
  cases was
  exact ⟨next, after, alike.channels.trans channels, alike.burst.trans burst', alike.shaped shaped⟩

structure Turn (m : Mixing) (all : Array Channel) (width burst : UInt64) (key : Nat)
    (c : Channel) : Prop where
  there : all[key]? = some c
  here : m.channels[key]? = some c
  running : c.isRunning = true
  underway : m.Underway width burst

inductive Proceeds (all : Array Channel) (width burst : UInt64) :
    List Nat → Mixing → Mixing → Prop
  | whole {m : Mixing} (underway : m.Underway width burst) : Proceeds all width burst [] m m
  | still {m n : Mixing} {key : Nat} {keys : List Nat} {c : Channel} (there : all[key]? = some c)
      (still : c.isRunning = false) (rest : Proceeds all width burst keys m n) :
      Proceeds all width burst (key :: keys) m n
  | heard {m n : Mixing} {key : Nat} {keys : List Nat} {c : Channel}
      (turn : m.Turn all width burst key c) (fresh : key ∉ keys)
      (kept : (m.take key).mixer ≠ none) (rest : Proceeds all width burst keys (m.take key) n) :
      Proceeds all width burst (key :: keys) m n

theorem proceeds_foldl (underway : m.Underway width burst) (nodup : keys.Nodup)
    (untouched : ∀ key ∈ keys, m.channels[key]? = all[key]?)
    (matched : ∀ key ∈ keys, ∃ c, all[key]? = some c ∧ c.ring.channels = width.toNat) :
    Proceeds all width burst keys m (keys.foldl take m) := by
  -- The induction is over the keys that are still to come.
  induction keys generalizing m with
  | nil => exact .whole underway
  | cons key keys ih =>
    obtain ⟨fresh, rest⟩ := List.nodup_cons.mp nodup
    obtain ⟨c, there, wide⟩ := matched key List.mem_cons_self
    have here := (untouched key List.mem_cons_self).trans there
    have later := untouched_take fresh untouched
    have others := fun other member => matched other (List.mem_cons_of_mem key member)
    rw [List.foldl_cons]
    cases running : c.isRunning with
    | false =>
      rw [take_of_not_running here running] at later ⊢
      exact .still there running (ih underway rest later others)
    | true =>
      have kept : (m.take key).mixer ≠ none := by
        obtain ⟨mixer, has, rfl, rfl, shaped⟩ := underway
        exact mixer_take_ne_none has here wide shaped
      obtain ⟨next, after⟩ := Option.ne_none_iff_exists'.mp kept
      exact .heard ⟨there, here, running, underway⟩ fresh kept
        (ih (underway.take after) rest later others)

theorem Proceeds.underway (h : Proceeds all width burst keys m n) : n.Underway width burst := by
  induction h with
  | whole underway => exact underway
  | still _ _ _ ih | heard _ _ _ _ ih => exact ih

end Mixing

namespace Site

variable {s : Site} {mixer : Mixer}

theorem proceeds_mix (shaped : mixer.Shaped) (nodup : s.endpoint.registered.Nodup)
    (matched : ∀ key ∈ s.endpoint.registered, ∃ c, s.channels[key]? = some c ∧
      c.ring.channels = mixer.channels.toNat) :
    let begun : Mixing := ⟨some mixer.clear, s.channels, s.endpoint.underflows⟩
    Mixing.Proceeds s.channels mixer.channels mixer.burst s.endpoint.registered begun
      (s.endpoint.registered.foldl Mixing.take begun) :=
  Mixing.proceeds_foldl (Mixing.underway_clear shaped _ _) nodup (fun _ _ => rfl) matched

theorem mix_ne_none (shaped : mixer.Shaped) (nodup : s.endpoint.registered.Nodup)
    (matched : ∀ key ∈ s.endpoint.registered, ∃ c, s.channels[key]? = some c ∧
      c.ring.channels = mixer.channels.toNat) : (s.mix mixer).1 ≠ none := by
  obtain ⟨sum, has, -⟩ := (proceeds_mix shaped nodup matched).underway
  rw [mix, Ne, Option.map_eq_none_iff, has]
  exact Option.some_ne_none sum

end Site

end SharedAudio

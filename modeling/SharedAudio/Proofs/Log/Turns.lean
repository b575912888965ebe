import Mathlib.Data.List.Induction
import SharedAudio.Log

namespace SharedAudio

inductive LogCall
  | push (line : String)
  | pop

def LogCall.line? : LogCall → Option String
  | .push line => some line
  | .pop => none

namespace Log

def pushed (calls : List LogCall) : List String := calls.filterMap LogCall.line?

structure Reading where
  log : Log := {}
  popped : List String := []

namespace Reading

def serve (r : Reading) : LogCall → Reading
  | .push line => { r with log := r.log.push line }
  | .pop => ⟨r.log.pop.2, r.popped ++ r.log.pop.1.toList⟩

def after (calls : List LogCall) : Reading := calls.foldl serve {}

theorem log_push (r : Reading) (line : String) : (r.serve (.push line)).log = r.log.push line := by
  rw [serve]

theorem popped_push (r : Reading) (line : String) : (r.serve (.push line)).popped = r.popped := by
  rw [serve]

end Reading

-- Whoever keeps the tally sees the calls and never the log.
structure Tally where
  pushed : Nat := 0
  popped : List Nat := []

namespace Tally

def last (t : Tally) : Nat := t.popped.getLastD 0

def gone (t : Tally) : Nat := max t.last (t.pushed - 256)

def next? (t : Tally) : Option Nat := if t.gone < t.pushed then some (t.gone + 1) else none

def serve (t : Tally) : LogCall → Tally
  | .push _ => { t with pushed := t.pushed + 1 }
  | .pop => { t with popped := t.popped ++ t.next?.toList }

def after (calls : List LogCall) : Tally := calls.foldl serve {}

variable {t : Tally} {k : Nat}

theorem after_concat (calls : List LogCall) (call : LogCall) :
    after (calls ++ [call]) = (after calls).serve call := by
  rw [after, List.foldl_append]
  rfl

theorem serve_pop_of_waiting (waiting : t.gone < t.pushed) :
    t.serve .pop = { t with popped := t.popped ++ [t.gone + 1] } := by
  rw [serve, next?, if_pos waiting]
  rfl

theorem serve_pop_of_drained (drained : t.pushed ≤ t.gone) : t.serve .pop = t := by
  rw [serve, next?, if_neg (Nat.not_lt.mpr drained), Option.toList_none, List.append_nil]

theorem gone_push (t : Tally) (line : String) :
    (t.serve (.push line)).gone = max t.gone (t.pushed + 1 - 256) := by
  change max t.last (t.pushed + 1 - 256) = _
  rw [gone]
  omega

theorem gone_pop_of_waiting (waiting : t.gone < t.pushed) :
    (t.serve .pop).gone = t.gone + 1 := by
  have old : t.pushed - 256 ≤ t.gone := Nat.le_max_right ..
  rw [serve_pop_of_waiting waiting, gone, last, List.getLastD_concat]
  exact Nat.max_eq_left (Nat.le_succ_of_le old)

structure Sound (t : Tally) : Prop where
  increasing : t.popped.Pairwise (· < ·)
  numbered : ∀ k ∈ t.popped, 0 < k ∧ k ≤ t.gone
  counted : t.gone ≤ t.pushed

theorem Sound.serve (h : t.Sound) (call : LogCall) : (t.serve call).Sound := by
  have counted := h.counted
  cases call with
  | push line =>
    have grown := t.gone_push line
    refine ⟨h.increasing, fun k member => ?_, ?_⟩
    · have old := h.numbered k member
      omega
    · change _ ≤ t.pushed + 1
      omega
  | pop =>
    by_cases waiting : t.gone < t.pushed
    · have grown := gone_pop_of_waiting waiting
      refine ⟨?_, fun k member => ?_, ?_⟩
      · rw [serve_pop_of_waiting waiting]
        refine List.pairwise_append.mpr ⟨h.increasing, List.pairwise_singleton .., ?_⟩
        intro k member next same
        have old := h.numbered k member
        have eq := List.mem_singleton.mp same
        omega
      · rw [serve_pop_of_waiting waiting, List.mem_append, List.mem_singleton] at member
        rcases member with member | rfl
        · have old := h.numbered k member
          omega
        · omega
      · rw [grown, serve_pop_of_waiting waiting]
        exact waiting
    · rw [serve_pop_of_drained (Nat.not_lt.mp waiting)]
      exact h

theorem sound_after (calls : List LogCall) : (after calls).Sound := by
  induction calls using List.reverseRecOn with
  | nil => exact ⟨.nil, fun _ member => absurd member List.not_mem_nil, Nat.le_refl 0⟩
  | append_singleton calls call ih =>
    rw [after_concat]
    exact ih.serve call

theorem gone_le_serve (t : Tally) (call : LogCall) : t.gone ≤ (t.serve call).gone := by
  cases call with
  | push line =>
    rw [gone_push]
    exact Nat.le_max_left ..
  | pop =>
    by_cases waiting : t.gone < t.pushed
    · rw [gone_pop_of_waiting waiting]
      exact Nat.le_succ _
    · exact Nat.le_of_eq (congrArg gone (serve_pop_of_drained (Nat.not_lt.mp waiting)).symm)

theorem not_mem_serve (passed : k ≤ t.gone) (missed : k ∉ t.popped) (call : LogCall) :
    k ∉ (t.serve call).popped := by
  cases call with
  | push line => exact missed
  | pop =>
    by_cases waiting : t.gone < t.pushed
    · rw [serve_pop_of_waiting waiting, List.mem_append, List.mem_singleton]
      rintro (member | rfl)
      · exact missed member
      · omega
    · rwa [serve_pop_of_drained (Nat.not_lt.mp waiting)]

theorem missed_foldl (passed : k ≤ t.gone) (missed : k ∉ t.popped) (calls : List LogCall) :
    k ∉ (calls.foldl serve t).popped ∧ k ≤ (calls.foldl serve t).gone := by
  induction calls generalizing t with
  | nil => exact ⟨missed, passed⟩
  | cons call calls ih =>
    exact ih (Nat.le_trans passed (t.gone_le_serve call)) (not_mem_serve passed missed call)

theorem exists_of_missed {calls : List LogCall} (positive : 0 < k)
    (missed : k ∉ (after calls).popped) (passed : k ≤ (after calls).gone) :
    ∃ before later, calls = before ++ later ∧ k ∉ (after before).popped ∧
      k + 256 ≤ (after before).pushed := by
  induction calls using List.reverseRecOn with
  | nil => exact absurd passed (Nat.not_le.mpr positive)
  | append_singleton calls call ih =>
    have earlier : k ∉ (after calls).popped → k ≤ (after calls).gone →
        ∃ before later, calls ++ [call] = before ++ later ∧ k ∉ (after before).popped ∧
          k + 256 ≤ (after before).pushed := by
      intro missed passed
      obtain ⟨before, later, rfl, lost⟩ := ih missed passed
      exact ⟨before, later ++ [call], List.append_assoc .., lost⟩
    rw [after_concat] at missed passed
    cases call with
    | push line =>
      rw [gone_push] at passed
      by_cases already : k ≤ (after calls).gone
      · exact earlier missed already
      -- The 256th line after it has come just now.
      · refine ⟨calls ++ [.push line], [], (List.append_nil _).symm, ?_, ?_⟩
        · rwa [after_concat]
        · rw [after_concat]
          change k + 256 ≤ (after calls).pushed + 1
          omega
    | pop =>
      by_cases waiting : (after calls).gone < (after calls).pushed
      · rw [gone_pop_of_waiting waiting] at passed
        rw [serve_pop_of_waiting waiting, List.mem_append, List.mem_singleton, not_or] at missed
        exact earlier missed.1 (Nat.le_of_lt_succ (Nat.lt_of_le_of_ne passed missed.2))
      · rw [serve_pop_of_drained (Nat.not_lt.mp waiting)] at missed passed
        exact earlier missed passed

theorem missed_iff (calls : List LogCall) (positive : 0 < k) :
    (k ∉ (after calls).popped ∧ k ≤ (after calls).gone) ↔
      ∃ before later, calls = before ++ later ∧ k ∉ (after before).popped ∧
        k + 256 ≤ (after before).pushed := by
  constructor
  · rintro ⟨missed, passed⟩
    exact exists_of_missed positive missed passed
  · rintro ⟨before, later, rfl, missed, old⟩
    have passed : k ≤ (after before).gone := by
      rw [gone]
      omega
    rw [after, List.foldl_append]
    exact missed_foldl passed missed later

end Tally

theorem lines_push_of_drop {l : Log} {lines : List String} {gone : Nat}
    (held : l.lines = lines.drop gone) (room : gone ≤ lines.length) (line : String) :
    (l.push line).lines = (lines ++ [line]).drop (max gone (lines.length + 1 - 256)) := by
  have size : (lines.drop gone ++ [line]).length = lines.length - gone + 1 := by simp
  have dropped : gone + (lines.length - gone + 1 - 256) = max gone (lines.length + 1 - 256) := by
    omega
  rw [push, held, size, ← List.drop_append_of_le_length room, List.drop_drop, limit, dropped]

structure Reading.Keeps (r : Reading) (lines : List String) (t : Tally) : Prop where
  count : t.pushed = lines.length
  held : r.log.lines = lines.drop t.gone
  taken : r.popped.map some = t.popped.map fun k => lines[k - 1]?
  sublist : r.popped.Sublist (lines.take t.gone)

namespace Reading.Keeps

variable {r : Reading} {lines : List String} {t : Tally}

theorem push (h : r.Keeps lines t) (sound : t.Sound) (line : String) :
    (r.serve (.push line)).Keeps (lines ++ [line]) (t.serve (.push line)) := by
  have counted := sound.counted
  have count := h.count
  have length : (lines ++ [line]).length = t.pushed + 1 := by simp [count]
  have room : t.gone ≤ lines.length := by omega
  refine ⟨length.symm, ?_, ?_, ?_⟩
  · rw [log_push, lines_push_of_drop h.held room, Tally.gone_push, count]
  · rw [popped_push, h.taken]
    refine List.map_congr_left fun k member => ?_
    have numbered := sound.numbered k member
    exact (List.getElem?_append_left (by omega)).symm
  · rw [popped_push]
    have same : (lines ++ [line]).take t.gone = lines.take t.gone :=
      List.take_append_of_le_length room
    refine h.sublist.trans ?_
    rw [← same]
    exact (List.take_prefix_take_left (t.gone_le_serve _)).sublist

theorem pop (h : r.Keeps lines t) : (r.serve .pop).Keeps lines (t.serve .pop) := by
  by_cases waiting : t.gone < t.pushed
  · have grown := Tally.gone_pop_of_waiting waiting
    have inside : t.gone < lines.length := h.count ▸ waiting
    have front : r.log.lines = lines[t.gone] :: lines.drop (t.gone + 1) := by
      rw [h.held, List.drop_eq_getElem_cons inside]
    have served : r.serve .pop = ⟨⟨lines.drop (t.gone + 1)⟩, r.popped ++ [lines[t.gone]]⟩ := by
      rw [serve, Log.pop, front]
      rfl
    rw [served]
    refine ⟨?_, ?_, ?_, ?_⟩
    · rw [Tally.serve_pop_of_waiting waiting]
      exact h.count
    · rw [grown]
    · rw [Tally.serve_pop_of_waiting waiting]
      simp only [List.map_append, h.taken, List.map_cons, List.map_nil, Nat.add_sub_cancel,
        List.getElem?_eq_getElem inside]
    · rw [grown, List.take_succ_eq_append_getElem inside]
      exact h.sublist.append_right _
  · have drained := Nat.not_lt.mp waiting
    have empty : r.log.lines = [] := by
      rw [h.held]
      exact List.drop_of_length_le (h.count ▸ drained)
    have served : r.serve .pop = r := by
      obtain ⟨⟨_⟩, _⟩ := r
      obtain rfl := empty
      rw [serve, Log.pop, List.head?_nil, Option.toList_none, List.append_nil]
      rfl
    rw [served, Tally.serve_pop_of_drained drained]
    exact h

end Reading.Keeps

theorem keeps_after (calls : List LogCall) :
    (Reading.after calls).Keeps (pushed calls) (Tally.after calls) := by
  induction calls using List.reverseRecOn with
  | nil => exact ⟨rfl, rfl, rfl, .slnil⟩
  | append_singleton calls call ih =>
    have step : Reading.after (calls ++ [call]) = (Reading.after calls).serve call := by
      rw [Reading.after, List.foldl_append]
      rfl
    have sound := Tally.sound_after calls
    rw [step, Tally.after_concat, pushed, List.filterMap_append]
    cases call with
    | push line => exact ih.push sound line
    | pop =>
      rw [show [LogCall.pop].filterMap LogCall.line? = [] from rfl, List.append_nil]
      exact ih.pop

theorem keeps_the_newest (calls : List LogCall) :
    let r := Reading.after calls
    let lines := pushed calls
    let numbers := (Tally.after calls).popped
    let gone := max (numbers.getLastD 0) (lines.length - 256)
    (r.popped.Sublist lines ∧ r.popped.map some = numbers.map (fun k => lines[k - 1]?) ∧
      numbers.Pairwise (· < ·) ∧ ∀ k ∈ numbers, 0 < k ∧ k ≤ lines.length) ∧
    r.log.lines.length ≤ 256 ∧
    r.log.lines = lines.drop gone ∧
    (r.log.pop.1 = lines[gone]? ∧ (r.log.pop.1 = none ↔ r.log.lines = [])) ∧
    ∀ k, 0 < k → k ≤ lines.length →
      (k ∉ numbers ∧ k ≤ gone ↔ ∃ before later, calls = before ++ later ∧
        k ∉ (Tally.after before).popped ∧ k + 256 ≤ (pushed before).length) := by
  intro r lines numbers gone
  have h : r.Keeps lines (Tally.after calls) := keeps_after calls
  have sound := Tally.sound_after calls
  have gone_eq : (Tally.after calls).gone = gone := by
    rw [Tally.gone, h.count]
    rfl
  have held : r.log.lines = lines.drop gone := gone_eq ▸ h.held
  refine ⟨⟨?_, h.taken, sound.increasing, fun k member => ?_⟩, ?_, held, ⟨?_, ?_⟩, ?_⟩
  · exact h.sublist.trans (List.take_sublist _ _)
  · have numbered := sound.numbered k member
    have counted := sound.counted
    have count := h.count
    omega
  · rw [held, List.length_drop]
    omega
  · rw [Log.pop, held, List.head?_drop]
  · rw [Log.pop, List.head?_eq_none_iff]
  · intro k positive _
    rw [← gone_eq, Tally.missed_iff calls positive]
    simp only [(keeps_after _).count]

theorem keeps_the_newest_after_a_pop :
    let calls := [.push "first", .pop] ++ List.replicate 257 (.push "next")
    (Reading.after calls).log.lines.length = 256 ∧
      ∃ before later, calls = before ++ later ∧
        2 ∉ (Tally.after before).popped ∧ 2 + 256 ≤ (pushed before).length := by
  intro calls
  obtain ⟨-, -, held, -, lost⟩ := keeps_the_newest calls
  refine ⟨?_, (lost 2 Nat.two_pos (by decide +kernel)).mp (by decide +kernel)⟩
  rw [held]
  decide +kernel

end Log

end SharedAudio

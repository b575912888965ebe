import SharedAudio.Proofs.Gain.Fall

namespace SharedAudio

open Sample

namespace Ramp

inductive Move
  | aim (target : Sample) (bursts : UInt32)
  | next

def move (r : Ramp) : Move → Ramp
  | .aim target bursts => r.aim target bursts
  | .next => r.next

def play (r : Ramp) (moves : List Move) : Ramp := moves.foldl move r

variable {r : Ramp} {target : Sample} {bursts : UInt32} {moves : List Move}

def Begins (P : Ramp → Sample → UInt32 → Prop) : Ramp → List Move → Prop
  | _, [] => True
  | r, .aim target bursts :: moves => P r target bursts ∧ Begins P (r.aim target bursts) moves
  | r, .next :: moves => Begins P r.next moves

theorem begins_of_forall {P : Ramp → Sample → UInt32 → Prop}
    (all : ∀ r target bursts, P r target bursts) (r : Ramp) (moves : List Move) :
    Begins P r moves := by
  induction moves generalizing r with
  | nil => trivial
  | cons m moves ih =>
    cases m with
    | aim target bursts => exact ⟨all r target bursts, ih _⟩
    | next => exact ih _

theorem Begins.play {P : Ramp → Sample → UInt32 → Prop} {Q : Ramp → Prop}
    (begins : Begins P r moves) (start : Q r) (next : ∀ r, Q r → Q r.next)
    (aim : ∀ r target bursts, Q r → P r target bursts → Q (r.aim target bursts)) :
    Q (r.play moves) := by
  induction moves generalizing r with
  | nil => exact start
  | cons m moves ih =>
    cases m with
    | aim target bursts => exact ih begins.2 (aim r target bursts start begins.1)
    | next => exact ih begins (next r start)

def leastNormal : Sample := .ofBits 0x00800000

def Sound (r : Ramp) (target : Sample) (bursts : UInt32) : Prop :=
  bursts ≤ 1 ∨ r.current.isFinite = true ∧
    (r.current ≤ positivePart target ∨ bursts ≤ 4 ∨ leastNormal ≤ r.current ∧ bursts ≤ 2048)

structure Steady (r : Ramp) : Prop where
  target : r.target.IsGain
  current : r.current.IsGain
  way : r.remaining.toNat ≤ 1 ∨ r.step.IsGain ∨ ∃ start, r.Funded start

theorem Steady.next (h : r.Steady) : r.next.Steady := by
  rcases r.next_cases with ⟨-, same⟩ | ⟨-, last⟩ | ⟨more, fewer, step⟩
  · rwa [same]
  · rw [last]
    exact ⟨h.target, h.target, .inl (Nat.zero_le 1)⟩
  rw [step]
  rcases h.way with few | up | ⟨start, funded⟩
  · omega
  · exact ⟨h.target, h.current.add up, .inr (.inl up)⟩
  · have gain := (isGain_iff_units funded.current).mp h.current
    obtain ⟨finite, nonneg, below, enough⟩ := funded.fall more gain
    refine ⟨h.target, (isGain_iff_units finite).mpr nonneg,
      .inr (.inr ⟨start, finite, funded.step, funded.down, below, ?_⟩)⟩
    dsimp only
    rw [fewer]
    have count : ((r.remaining.toNat - 1 : ℕ) - 1 : ℤ) = r.remaining.toNat - 2 := by omega
    rwa [count]

theorem units_leastNormal : leastNormal.units = 2 ^ 23 := by decide +kernel

theorem Steady.aim (h : r.Steady) (sound : r.Sound target bursts) :
    (r.aim target bursts).Steady := by
  have reached := isGain_positivePart target
  have started : (r.aim target bursts).current.IsGain := by
    rw [Ramp.aim]
    split
    · exact reached
    · exact h.current
  refine ⟨by rwa [target_aim], started, ?_⟩
  by_cases few : bursts.toNat ≤ 1
  · left
    rw [Ramp.aim]
    split
    · exact Nat.zero_le 1
    · exact few
  have some : bursts ≠ 0 := by
    rintro rfl
    exact few (Nat.zero_le 1)
  obtain ⟨finite, way⟩ := sound.resolve_left (fun le => few (UInt32.le_iff_toNat_le.mp le))
  right
  by_cases up : r.current ≤ positivePart target
  · left
    rw [Ramp.aim, if_neg some]
    exact (reached.sub finite up).div (by omega)
  · refine .inr ⟨_, funded_aim h.current finite up (by omega) ?_⟩
    refine (way.resolve_left up).imp UInt32.le_iff_toNat_le.mp ?_
    rintro ⟨full, short⟩
    have normal : leastNormal.isFinite = true := by decide +kernel
    rw [le_iff_units normal finite, units_leastNormal] at full
    exact ⟨UInt32.le_iff_toNat_le.mp short, full⟩

theorem steady_settled (initial : Sample) : (settled initial).Steady :=
  ⟨isGain_positivePart initial, isGain_positivePart initial, .inl (Nat.zero_le 1)⟩

theorem settles (initial : Sample) (moves : List Move) :
    ((settled initial).play moves).target.IsGain ∧
      (((settled initial).play moves).remaining = 0 →
        ((settled initial).play moves).current = ((settled initial).play moves).target) := by
  have all : Begins (fun _ _ _ => True) (settled initial) moves :=
    begins_of_forall (fun _ _ _ => trivial) _ moves
  refine all.play (Q := fun r => r.target.IsGain ∧ (r.remaining = 0 → r.current = r.target))
    ⟨isGain_positivePart initial, fun _ => rfl⟩ ?_ ?_
  · rintro r ⟨gain, rests⟩
    refine ⟨by rwa [target_next], fun zero => ?_⟩
    rcases r.next_cases with ⟨-, same⟩ | ⟨-, last⟩ | ⟨more, fewer, step⟩
    · rw [same] at zero ⊢
      exact rests zero
    · rw [last]
    · rw [step] at zero
      change r.remaining - 1 = 0 at zero
      rw [zero] at fewer
      change 0 = _ at fewer
      omega
  · rintro r target bursts - -
    refine ⟨by rw [target_aim]; exact isGain_positivePart target, ?_⟩
    rw [aim]
    split
    next => exact fun _ => rfl
    next some => exact fun zero => absurd zero some

structure Defined (r : Ramp) : Prop where
  target : r.target.IsGain
  current : r.current.isNaN = false
  way : r.remaining.toNat ≤ 1 ∨ r.step.isFinite = true ∨
    ∃ sign, r.step.toModel.unpack = .infinity sign ∧
      (r.current.isFinite = true ∨ r.current.toModel.unpack = .infinity sign)

theorem Defined.next (h : r.Defined) : r.next.Defined := by
  rcases r.next_cases with ⟨-, same⟩ | ⟨-, last⟩ | ⟨more, -, step⟩
  · rwa [same]
  · rw [last]
    exact ⟨h.target, h.target.1, .inl (Nat.zero_le 1)⟩
  rw [step]
  rcases h.way.resolve_left (by omega) with finite | ⟨sign, infinite, along⟩
  · refine ⟨h.target, ?_, .inr (.inl finite)⟩
    rw [isNaN_add, h.current, isNaN_of_isFinite finite, isInf_of_isFinite finite, Bool.and_false]
    rfl
  · have sum := add_infinity infinite along
    refine ⟨h.target, ?_, .inr (.inr ⟨sign, infinite, .inr sum⟩)⟩
    change (r.current + r.step).toModel.unpack.isNaN = false
    rw [sum]
    rfl

theorem Defined.aim (h : r.Defined) (starts : 2 ≤ bursts → r.current.isFinite = true) :
    (r.aim target bursts).Defined := by
  have reached := isGain_positivePart target
  have started : (r.aim target bursts).current.isNaN = false := by
    rw [Ramp.aim]
    split
    · exact reached.1
    · exact h.current
  refine ⟨by rwa [target_aim], started, ?_⟩
  rw [Ramp.aim]
  split
  next => exact .inl (Nat.zero_le 1)
  next some =>
    by_cases few : bursts.toNat ≤ 1
    · exact .inl few
    have finite := starts (UInt32.le_iff_toNat_le.mpr (by change 2 ≤ _; omega))
    have number : ((positivePart target - r.current) / bursts.toFloat32).isNaN = false := by
      rw [isNaN_div_toFloat32 _ (by omega), isNaN_sub finite]
      exact reached.1
    refine .inr ((isFinite_or_infinity number).imp_right ?_)
    rintro ⟨sign, infinite⟩
    exact ⟨sign, infinite, .inl finite⟩

theorem isNaN_next_aim (infinite : r.current.isInf = true) (many : 2 ≤ bursts) (target : Sample) :
    (r.aim target bursts).next.current.isNaN = true := by
  have more : 2 ≤ bursts.toNat := UInt32.le_iff_toNat_le.mp many
  have some : bursts ≠ 0 := by
    rintro rfl
    exact absurd more (by decide)
  obtain ⟨sign, from'⟩ : ∃ sign, r.current.toModel.unpack = .infinity sign := by
    change r.current.toModel.unpack.isInf = true at infinite
    match r.current.toModel.unpack, infinite with
    | .infinity sign, _ => exact ⟨sign, rfl⟩
  have aimed : r.aim target bursts = { r with
      target := positivePart target
      step := (positivePart target - r.current) / bursts.toFloat32
      remaining := bursts } := by
    rw [aim, if_neg some]
  rcases (r.aim target bursts).next_cases with ⟨zero, -⟩ | ⟨one, -⟩ | ⟨-, -, step⟩
  · rw [aimed] at zero
    exact absurd more (by change bursts.toNat = 0 at zero; omega)
  · rw [aimed] at one
    exact absurd more (by change bursts.toNat = 1 at one; omega)
  rw [step, aimed]
  dsimp only
  rcases sub_infinity from' (positivePart target) with none | back
  · rw [isNaN_add, isNaN_div_toFloat32 _ (by omega), none, Bool.or_true]
    rfl
  · exact isNaN_add_opposite from' (div_infinity back (by omega))

theorem volumes_are_gains_on_sound_ramps (initial : Sample) (moves : List Move) :
    let r := (settled initial).play moves
    r.target.IsGain ∧ (r.remaining = 0 → r.current = r.target) ∧
      (Begins Sound (settled initial) moves → r.current.IsGain) ∧
      (Begins (fun r _ bursts => 2 ≤ bursts → r.current.isFinite = true) (settled initial) moves →
        r.current.isNaN = false) ∧
      (r.current.isInf = true → ∀ target bursts, 2 ≤ bursts →
        (r.aim target bursts).next.current.isNaN = true) := by
  intro r
  obtain ⟨target, rests⟩ := settles initial moves
  refine ⟨target, rests, fun sound => ?_, fun starts => ?_,
    fun infinite target bursts many => isNaN_next_aim infinite many target⟩
  · exact (sound.play (steady_settled initial) (fun _ h => h.next)
      fun _ _ _ h sound => h.aim sound).current
  · have first : (settled initial).Defined :=
      ⟨isGain_positivePart initial, (isGain_positivePart initial).1, .inl (Nat.zero_le 1)⟩
    exact (starts.play first (fun _ h => h.next) fun _ _ _ h starts => h.aim starts).current

theorem volumes_are_gains_on_sound_ramps_turned_round :
    let moves : List Move := [.aim 0 1000, .next, .next, .aim (.ofBits 0x7f800000) 3, .next]
    Begins Sound (settled 1) moves ∧ ((settled 1).play moves).current.IsGain := by
  intro moves
  have sound : Begins Sound (settled 1) moves := by
    refine ⟨.inr ⟨by decide +kernel, .inr (.inr ⟨?_, ?_⟩)⟩, .inr ⟨?_, .inl ?_⟩, trivial⟩ <;>
      decide +kernel
  exact ⟨sound, (volumes_are_gains_on_sound_ramps 1 moves).2.2.1 sound⟩

theorem ramp_leaves_the_gains :
    let low := (settled (.ofBits 3)).play [.aim 0 5, .next, .next, .next, .next]
    let far := (settled 1).play [.aim (.ofBits 0x7f800000) 0, .aim 1 2, .next]
    low.current < 0 ∧ low.current.toBits = 0x80000001 ∧ far.current.isNaN = true := by
  decide +kernel

end Ramp

end SharedAudio

import SharedAudio.Proofs.Endpoint.Lockstep

namespace SharedAudio

def Call.muted : Call → Call
  | .wrote samples frames timeout answer => .wrote (samples.map fun _ => 0) frames timeout answer
  | call => call

structure Channel.Looks (c d : Channel) : Prop where
  id : d.id = c.id
  state : d.state = c.state
  events : d.events = c.events
  transferred : d.transferred = c.transferred
  attachment : d.ring.attachment = c.ring.attachment

def Channel.Spared (own key : Nat) (c d : Channel) : Prop := if key = own then c.Looks d else d = c

namespace Channel.Spared

variable {own key : Nat} {c d : Channel}

theorem looks (h : Spared own key c d) : c.Looks d := by
  rw [Spared] at h
  split at h
  · exact h
  · subst h
    exact ⟨rfl, rfl, rfl, rfl, rfl⟩

theorem isRunning (h : Spared own key c d) : d.isRunning = c.isRunning := by
  rw [Channel.isRunning, Channel.isRunning, h.looks.state]

theorem eq_of_ne (ne : key ≠ own) (h : Spared own key c d) : d = c := by
  rwa [Spared, if_neg ne] at h

theorem change (h : Spared own key c d) (act other : Channel → Channel)
    (same : key ≠ own → act = other) (looks : c.Looks d → (act c).Looks (other d)) :
    Spared own key (act c) (other d) := by
  rw [Spared] at h ⊢
  split at h
  next is => rw [if_pos is]; exact looks h
  next ne => rw [if_neg ne, h, same ne]

theorem enter (h : Spared own key c d) (e : StreamEvent) :
    Spared own key (c.enter e) (d.enter e) := by
  refine h.change (·.enter e) (·.enter e) (fun _ => rfl) fun looks => ?_
  rw [Channel.enter, Channel.enter, looks.state]
  split
  · exact ⟨looks.id, rfl, by rw [looks.events], looks.transferred, looks.attachment⟩
  · exact looks

theorem stepGain (h : Spared own key c d) : Spared own key c.stepGain d.stepGain :=
  h.change Channel.stepGain Channel.stepGain (fun _ => rfl) fun looks =>
    ⟨looks.id, looks.state, looks.events, looks.transferred, looks.attachment⟩

theorem setVolume (h : Spared own key c d) (volume : Sample) (bursts : UInt32) :
    Spared own key (c.setVolume volume bursts) (d.setVolume volume bursts) :=
  h.change (·.setVolume volume bursts) (·.setVolume volume bursts) (fun _ => rfl) fun looks =>
    ⟨looks.id, looks.state, looks.events, looks.transferred, looks.attachment⟩

theorem record (h : Spared own key c d) {a b : Mixer.Share}
    (attachment : b.ring.attachment = a.ring.attachment)
    (same : d.ring = c.ring → b.ring = a.ring ∧ b.underflowed = a.underflowed ∧
      b.frames = a.frames) : Spared own key (c.record a) (d.record b) := by
  rw [Spared] at h ⊢
  split at h
  next is =>
    rw [if_pos is]
    exact ⟨h.id, h.state, h.events, rfl, attachment⟩
  next ne =>
    subst h
    obtain ⟨ring, underflowed, frames⟩ := same rfl
    rw [if_neg ne, Channel.record, Channel.record, ring, underflowed, frames]

theorem refl (own key : Nat) (c : Channel) : Spared own key c c := by
  rw [Spared]
  split
  · exact ⟨rfl, rfl, rfl, rfl, rfl⟩
  · rfl

end Channel.Spared

namespace Mixer

variable {m n : Mixer} {r q : Ring} {volume other : Sample}

theorem add?_alike {a b : Share} (alike : m.Alike n) (same : q.attachment = r.attachment)
    (here : m.add? r volume = some a) (there : n.add? q other = some b) :
    a.mixer.Alike b.mixer ∧ b.ring.attachment = a.ring.attachment ∧
      (q = r → b.ring = a.ring ∧ b.underflowed = a.underflowed ∧ b.frames = a.frames) := by
  have before := Alike.of_add? here
  have after := Alike.of_add? there
  have between : a.mixer.Alike b.mixer :=
    ⟨after.channels.trans (alike.channels.trans before.channels.symm),
      after.burst.trans (alike.burst.trans before.burst.symm),
      after.size.trans (alike.size.trans before.size.symm)⟩
  simp only [add?, alike.channels, alike.burst, alike.size] at here there
  split at here <;> cases here
  split at there <;> cases there
  refine ⟨between, same, fun equal => ?_⟩
  simp only [Share.underflowed, equal, and_self]

end Mixer

def Tolerance.samples (own : Nat) : Tolerance where
  output _ a _ b _ := b.map Call.muted = a.map Call.muted
  sums p q := q.size = p.size
  counts _ _ := True
  references _ x y := y = x
  channel := Channel.Spared own
  fit _ width c := c.channels = width

def Tolerance.silence (own : Nat) : Tolerance where
  output _ a x b y := b = a ∧ y = x
  sums p q := q = p
  counts x y := y = x
  references _ x y := y = x
  channel := Channel.Spared own
  fit key _ c := key = own → c.isRunning = false

namespace Tolerance

theorem take_samples {own key : Nat} {m n : Mixing} (h : m.Near (samples own) n)
    (fit : m.Fit (samples own) key) : (m.take key).Near (samples own) (n.take key) := by
  obtain ⟨p, all, underflows⟩ := m
  obtain ⟨q, others, counts⟩ := n
  obtain ⟨mixers, channels, -⟩ := h
  dsimp only at mixers channels
  cases mixers with
  | none => exact ⟨.none, channels, trivial⟩
  | @some x y mixers =>
    rcases channels_cases channels key with ⟨here, there⟩ | ⟨c, d, here, there, near⟩
    · simp only [Mixing.take, here, there]
      exact ⟨.some mixers, channels, trivial⟩
    simp only [Mixing.take, here, there, near.isRunning]
    split
    next running =>
      obtain ⟨shaped, width⟩ := fit x c rfl here
      have alike : x.Alike y := ⟨mixers.channels, mixers.burst, mixers.sum⟩
      have wide : x.channels.toNat = c.ring.channels := width ▸ c.toNat_channels
      have wide' : y.channels.toNat = d.ring.channels := by
        rw [alike.channels, wide, Ring.channels, Ring.channels, near.looks.attachment]
      obtain ⟨a, added⟩ := Option.ne_none_iff_exists'.mp
        (Mixer.add?_ne_none (r := c.stepGain.ring) c.stepGain.applied wide shaped)
      obtain ⟨b, added'⟩ := Option.ne_none_iff_exists'.mp
        (Mixer.add?_ne_none (r := d.stepGain.ring) d.stepGain.applied wide' (alike.shaped shaped))
      obtain ⟨alike, attachment, same⟩ := Mixer.add?_alike alike near.looks.attachment added added'
      rw [added, added']
      exact ⟨.some ⟨alike.channels, alike.burst, alike.size⟩,
        channels_set channels (near.stepGain.record attachment same), trivial⟩
    next => exact ⟨.some mixers, channels, trivial⟩

theorem muted_push {a b : Array Call} {x y : Call} (h : b.map Call.muted = a.map Call.muted)
    (same : y.muted = x.muted) :
    (b.push y).map Call.muted = (a.push x).map Call.muted := by
  rw [Array.map_push, Array.map_push, h, same]

theorem muted_wrote {p q : Array Sample} (sizes : q.size = p.size) (frames timeout : UInt64)
    (answer : Answer) :
    (Call.wrote q frames timeout answer).muted = (Call.wrote p frames timeout answer).muted := by
  have silent : q.map (fun _ => (0 : Sample)) = p.map fun _ => 0 := by
    rw [Array.map_const', Array.map_const', sizes]
  rw [Call.muted, Call.muted, silent]

theorem lawful_samples (own : Nat) : (samples own).Lawful where
  noted call _ h := muted_push h rfl
  wrote frames timeout answer _ sums h := muted_push h (muted_wrote sums frames timeout answer)
  delivered frames timeout sums h := muted_push h (muted_wrote sums frames timeout _)
  same _ := rfl
  cleared sums := by simpa [samples] using sums
  limited l sums := by
    simp only [samples, Limiter.size_apply] at *
    exact sums
  none := trivial
  counted h := congrArg (· + 1) h
  id near := near.looks.id
  state near := near.looks.state
  width near := by
    rw [Channel.channels, Channel.channels, Ring.channels, near.looks.attachment]
    rfl
  enter e near := near.enter e
  aim volume bursts near := near.setVolume volume bursts
  newborn key id ring := .refl own key _
  take := take_samples
  fit {_ _ c d} _ attachment width := by
    have same : d.channels = c.channels := by
      rw [Channel.channels, Channel.channels, Ring.channels, attachment]
      rfl
    exact same.trans width

theorem strict_silence (own : Nat) : (silence own).Strict :=
  ⟨fun _ _ => .rfl, fun _ _ => .rfl⟩

theorem take_silence {own key : Nat} {m n : Mixing} (h : m.Near (silence own) n)
    (fit : m.Fit (silence own) key) : (m.take key).Near (silence own) (n.take key) := by
  obtain ⟨p, all, underflows⟩ := m
  obtain ⟨q, others, counts⟩ := n
  obtain ⟨mixers, channels, same⟩ := h
  dsimp only at mixers channels
  cases same
  cases mixers with
  | none => exact ⟨.none, channels, rfl⟩
  | @some x y mixers =>
    have alike := mixers.eq (strict_silence own)
    subst alike
    rcases channels_cases channels key with ⟨here, there⟩ | ⟨c, d, here, there, near⟩
    · simp only [Mixing.take, here, there]
      exact ⟨.some mixers, channels, rfl⟩
    by_cases is : key = own
    · have still := (fit y c rfl here).2 is
      rw [Mixing.take_of_not_running here still,
        Mixing.take_of_not_running there (near.isRunning.trans still)]
      exact ⟨.some mixers, channels, rfl⟩
    · have same := near.eq_of_ne is
      subst same
      simp only [Mixing.take, here, there]
      split
      · cases y.add? d.stepGain.ring d.stepGain.applied with
        | none => exact ⟨.none, channels_set channels (.refl _ _ _), rfl⟩
        | some share =>
          exact ⟨.some ⟨rfl, rfl, rfl⟩, channels_set channels (.refl _ _ _), rfl⟩
      · exact ⟨.some mixers, channels, rfl⟩

theorem lawful_silence (own : Nat) : (silence own).Lawful where
  noted call _ h := ⟨congrArg (·.push call) h.1, h.2⟩
  wrote frames timeout answer _ sums h := by
    cases sums
    exact ⟨by rw [h.1], h.2⟩
  delivered frames timeout sums h := by
    cases sums
    exact ⟨by rw [h.1], rfl⟩
  same _ := rfl
  cleared sums := by cases sums; rfl
  limited l sums := by cases sums; rfl
  none := rfl
  counted h := congrArg (· + 1) h
  id near := near.looks.id
  state near := near.looks.state
  width near := by
    rw [Channel.channels, Channel.channels, Ring.channels, near.looks.attachment]
    rfl
  enter e near := near.enter e
  aim volume bursts near := near.setVolume volume bursts
  newborn key id ring := .refl own key _
  take := take_silence
  fit running _ still is := by
    have before := still is
    cases now : Channel.isRunning _
    · rfl
    · rw [running now] at before
      cases before

end Tolerance

end SharedAudio

import SharedAudio.Proofs.Server.Bursts

namespace SharedAudio

variable {Q : Ring → Prop}

structure Ring.Mixable (Q : Ring → Prop) : Prop where
  heap : ∀ capacity channels, Q (heap capacity channels)
  share : ∀ {m : Mixer} {r : Ring} {volume : Sample} {share : Mixer.Share},
    m.add? r volume = some share → Q r → Q share.ring

def Operation.Upholds (Q : Ring → Prop) (op : Operation) : Prop :=
  (∀ id ring, op = .addChannel id ring → Q ring) ∧
    ∀ key act, Channel.Deed op key act → ∀ c : Channel, Q c.ring → Q (act c).ring

theorem Mixing.rings_take (mixable : Ring.Mixable Q) {m : Mixing} {key : Nat}
    (rings : ∀ (key : Nat) (c : Channel), m.channels[key]? = some c → Q c.ring) :
    ∀ (other : Nat) (c : Channel), (m.take key).channels[other]? = some c → Q c.ring := by
  intro other c there
  by_cases same : key = other
  · subst same
    unfold take at there
    split at there
    next mixer before _ present =>
      have inside : key < m.channels.size := (Array.getElem?_eq_some_iff.mp present).1
      split at there
      · dsimp only at there
        split at there
        next share added =>
          rw [Array.getElem?_setIfInBounds_self_of_lt inside] at there
          cases there
          exact mixable.share added (rings key before present)
        next =>
          rw [Array.getElem?_setIfInBounds_self_of_lt inside] at there
          cases there
          exact rings key before present
      · exact rings key c there
    next => exact rings key c there
  · rw [getElem?_take_of_ne same] at there
    exact rings other c there

theorem Mixing.rings_foldl (mixable : Ring.Mixable Q) {m : Mixing} (keys : List Nat)
    (rings : ∀ (key : Nat) (c : Channel), m.channels[key]? = some c → Q c.ring) :
    ∀ (other : Nat) (c : Channel), (keys.foldl take m).channels[other]? = some c → Q c.ring := by
  induction keys generalizing m with
  | nil => exact rings
  | cons key keys ih => exact ih (rings_take mixable rings)

namespace Site

variable {s t : Site}

def Rings (Q : Ring → Prop) (s : Site) : Prop :=
  ∀ (key : Nat) (c : Channel), s.channels[key]? = some c → Q c.ring

namespace Rings

theorem of_same (h : s.Rings Q) (same : s.SameRings t) : t.Rings Q := by
  intro key c there
  have kept := same key
  rw [there] at kept
  obtain ⟨before, was, ring⟩ := Option.map_eq_some_iff.mp kept.symm
  have same : before.ring = c.ring := ring
  rw [← same]
  exact h key before was

theorem of_either (mixable : Ring.Mixable Q) (h : s.Rings Q)
    (either : s.Calm t ∨ ∃ line mixer ready, s.Mixes line mixer ready ∧
      t = ready.continueLoop mixer) : t.Rings Q := by
  rcases either with calm | ⟨line, mixer, ready, mixes, rfl⟩
  · exact h.of_same calm.rings
  · rw [Rings, channels_continueLoop]
    exact Mixing.rings_foldl mixable (m := ⟨some mixer.clear, ready.channels,
      ready.endpoint.underflows⟩) _ (h.of_same mixes.rings)

theorem grantUpTo (mixable : Ring.Mixable Q) (h : s.Rings Q) (n granted : Nat) :
    (s.grantUpTo n granted).2.Rings Q :=
  grantUpTo_induction (P := Site.Rings Q)
    (fun granted h => h.of_either mixable granted.calm_or_mixes) h n granted

end Rings

end Site

namespace Server

variable {s t : Server}

def Rings (Q : Ring → Prop) (s : Server) : Prop :=
  ∀ (key : Nat) (c : Channel), s.channels[key]? = some c → Q c.ring

namespace Rings

theorem of_channels (h : s.Rings Q) (same : t.channels = s.channels) : t.Rings Q := by
  rw [Rings, same]
  exact h

theorem actOn (h : s.Rings Q) (k : Nat) {act : Site → Site}
    (keeps : ∀ site : Site, site.Rings Q → (act site).Rings Q) : (s.actOn k act).Rings Q := by
  cases found : s.site? k with
  | none => rwa [actOn_of_none found]
  | some site =>
    rw [actOn_of_site found]
    refine keeps site ?_
    rw [Site.Rings, (endpoint_of_site? found).2]
    exact h

theorem actOnChannel (h : s.Rings Q) (key : Nat) {act : Channel → Channel}
    (keeps : ∀ c : Channel, Q c.ring → Q (act c).ring) : (s.actOnChannel key act).Rings Q := by
  intro other d there
  rw [getElem?_actOnChannel] at there
  split at there
  · obtain ⟨c, found, rfl⟩ := Option.map_eq_some_iff.mp there
    exact keeps c (h other c found)
  · exact h other d there

theorem addChannel (h : s.Rings Q) (id : StreamId) {ring : Ring} (new : Q ring) :
    (s.addChannel id ring).2.Rings Q := by
  intro key c there
  rw [Server.addChannel, Array.getElem?_push] at there
  split at there
  · cases there
    exact new
  · exact h key c there

theorem unreference (h : s.Rings Q) (k : Nat) : (s.unreference k).Rings Q := by
  obtain ⟨count, eq | eq⟩ := s.unreference_cases k
  · rw [eq]
    exact h
  · rw [eq]
    have unlisted : Rings Q { s.setReferences k count with
        held := s.held.filter (· != k) } := h
    exact unlisted.actOn k fun site rings => rings.of_same (site.calm_closeStream.announce _).rings

theorem perform (mixable : Ring.Mixable Q) (h : s.Rings Q) {op : Operation}
    (upholds : op.Upholds Q) :
    (s.perform op).Rings Q := by
  have deed := s.deed_perform op
  generalize s.perform op = t at deed ⊢
  cases deed with
  | still | addEndpoint | drainLog => exact h
  | acquire config plan => exact h.of_channels (s.channels_acquire config plan)
  | release handle k =>
    have left : (s.letGo handle).Rings Q := h
    exact left.unreference k
  | grant k n => exact h.actOn k fun _ rings => rings.grantUpTo mixable n 0
  | createChannel => exact h.addChannel ⟨s.nextStream⟩ (mixable.heap _ _)
  | addChannel id ring => exact h.addChannel id (upholds.1 id ring rfl)
  | register k key c =>
    exact h.actOn k fun site rings => rings.of_same (site.calm_register key c).rings
  | start op k id =>
    exact h.actOn k fun site rings => rings.of_either mixable (site.start_calm_or_mixes id)
  | site op k act deed => exact h.actOn k fun site rings => rings.of_same (deed.calm site).rings
  | channel op key act deed => exact h.actOnChannel key (upholds.2 key act deed)

theorem run (mixable : Ring.Mixable Q) (options : Options) {ops : List Operation}
    (upholds : ∀ op ∈ ops, op.Upholds Q) : (run { options } ops).Rings Q := by
  have kept (s : Server) (h : s.Rings Q) : (s.run ops).Rings Q := by
    induction ops generalizing s with
    | nil => exact h
    | cons op ops ih =>
      exact ih (fun other member => upholds other (List.mem_cons_of_mem op member)) _
        (h.perform mixable (upholds op List.mem_cons_self))
  refine kept _ fun key c there => ?_
  simp at there

end Rings

end Server

end SharedAudio

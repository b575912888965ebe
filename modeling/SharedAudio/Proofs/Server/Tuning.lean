import SharedAudio.Proofs.Mixing.Chorus
import SharedAudio.Proofs.Server.Enrolment

namespace SharedAudio

theorem Channel.tuning_enter (c : Channel) (e : StreamEvent) : (c.enter e).tuning = c.tuning := by
  rw [tuning, c.ramp_enter, c.applied_enter, tuning]

theorem Channel.Deed.tuning {op : Operation} {key : Nat} {act : Channel → Channel}
    (h : Channel.Deed op key act) (still : ¬op.Tunes) (c : Channel) :
    (act c).tuning = c.tuning :=
  h.keeps Channel.tuning_enter (fun _ _ => rfl) (fun _ _ => rfl) (fun tunes => absurd tunes still) c

theorem Site.getElem?_setVolume (s : Site) (id : StreamId) (volume : Sample) (key : Nat) :
    (s.setVolume id volume).2.channels[key]? =
      if s.find? id = some key then
        s.channels[key]?.map (Channel.setVolume volume s.endpoint.options.rampBursts)
      else s.channels[key]? := by
  rw [setVolume]
  cases found : s.find? id with
  | none => rfl
  | some aimed =>
    rw [getElem?_modifyChannel]
    simp only [Option.some.injEq]

namespace Server

variable {s t : Server} {op : Operation} {k key : Nat} {site ready : Site} {line : Line}
  {mixer : Mixer}

def aims? (s : Server) : Operation → Option Nat
  | .setVolume k id _ => (s.site? k).bind (·.find? id)
  | .setLevel id _ => (s.find? id).bind fun k => (s.site? k).bind (·.find? id)
  | .setGain key _ _ => some key
  | _ => none

def tuning (s : Server) (key : Nat) : Ramp × Sample :=
  (s.channels[key]?.map Channel.tuning).getD (.settled 1, 1)

theorem tuning_of_channel {c : Channel} (h : s.channels[key]? = some c) :
    s.tuning key = c.tuning := by
  rw [tuning, h]
  rfl

theorem tuning_congr
    (same : t.channels[key]?.map Channel.tuning = s.channels[key]?.map Channel.tuning) :
    t.tuning key = s.tuning key := by rw [tuning, same, tuning]

section Tunes

def KeepsTuning (s t : Server) : Prop := ∀ key, t.tuning key = s.tuning key

theorem KeepsTuning.trans {u : Server} (h : s.KeepsTuning t) (g : t.KeepsTuning u) :
    s.KeepsTuning u := fun key => (g key).trans (h key)

theorem KeepsTuning.of_channels (same : t.channels = s.channels) : s.KeepsTuning t :=
  fun key => tuning_congr (by rw [same])

theorem KeepsTuning.putSite (found : s.site? k = some site) {after : Site}
    (keeps : Keeps Channel.tuning site.channels after.channels) :
    s.KeepsTuning (s.putSite k after) := by
  intro key
  have kept := keeps key
  rw [(endpoint_of_site? found).2] at kept
  exact tuning_congr kept

theorem KeepsTuning.actOn (k : Nat) {act : Site → Site}
    (keeps : ∀ site : Site, Keeps Channel.tuning site.channels (act site).channels) :
    s.KeepsTuning (s.actOn k act) :=
  fun key => tuning_congr (s.keeps_actOn k keeps key)

theorem KeepsTuning.addChannel (s : Server) (id : StreamId) (ring : Ring) :
    s.KeepsTuning (s.addChannel id ring).2 := by
  intro key
  rw [tuning, Server.addChannel, Array.getElem?_push, tuning]
  split
  next last =>
    rw [last, Array.getElem?_eq_none (Nat.le_refl _)]
    rfl
  next => rfl

theorem KeepsTuning.unreference (s : Server) (k : Nat) : s.KeepsTuning (s.unreference k) := by
  obtain ⟨count, eq | eq⟩ := s.unreference_cases k
  · rw [eq]
    exact fun _ => rfl
  · rw [eq, retire_eq]
    refine KeepsTuning.actOn (s := (s.setReferences k count).unlist k) k fun site => ?_
    rw [Site.channels_announce]
    exact Site.keeps_closeStream Channel.tuning_enter site

theorem actOn_keepsTuning_or_mixes (k : Nat) {act : Site → Site}
    (either : ∀ site : Site, Keeps Channel.tuning site.channels (act site).channels ∨
      ∃ line mixer ready, site.Mixes line mixer ready ∧ act site = ready.continueLoop mixer) :
    s.KeepsTuning (s.actOn k act) ∨ s.MixesTo (s.actOn k act) :=
  actOn_or_mixes (R := fun site after => Keeps Channel.tuning site.channels after.channels) k
    (.of_channels rfl) (fun _ _ found keeps => .putSite found keeps) either

theorem perform_keepsTuning_or_mixes (s : Server) (single : op.units = [op]) (still : ¬op.Tunes) :
    s.KeepsTuning (s.perform op) ∨ s.MixesTo (s.perform op) := by
  have deed := s.deed_perform op
  generalize s.perform op = t at deed ⊢
  cases deed with
  | still | addEndpoint | drainLog => exact .inl (.of_channels rfl)
  | acquire config plan => exact .inl (.of_channels (s.channels_acquire config plan))
  | release handle k =>
    have left : s.KeepsTuning (s.letGo handle) := .of_channels rfl
    exact .inl (left.trans (.unreference _ k))
  | grant k n =>
    rw [Operation.eq_one_of_units single]
    refine actOn_keepsTuning_or_mixes k fun site => ?_
    rcases site.grantUpTo_one_cases with eq | granted
    · rw [eq]
      exact .inl (.refl _)
    · exact granted.keeps_or_mixes Channel.tuning_enter
  | createChannel k capacity channels =>
    exact .inl (KeepsTuning.addChannel s ⟨s.nextStream⟩ (.heap capacity channels))
  | addChannel id ring => exact .inl (.addChannel s id ring)
  | register k key c => exact .inl (.actOn k fun site => .of_eq (site.channels_register key c))
  | start op k id =>
    exact actOn_keepsTuning_or_mixes k fun site =>
      site.start_keeps_or_mixes Channel.tuning_enter id
  | site op k act deed =>
    exact .inl (.actOn k (deed.keeps Channel.tuning_enter fun tunes => absurd tunes still))
  | channel op key act deed =>
    exact .inl fun other => tuning_congr (s.map_actOnChannel key (deed.tuning still) other)

theorem getElem?_actOn_setVolume (s : Server) (k : Nat) (id : StreamId) (volume : Sample) :
    ∃ bursts, ∀ key : Nat,
      (s.actOn k fun site => (site.setVolume id volume).2).channels[key]? =
        if (s.site? k).bind (·.find? id) = some key then
          s.channels[key]?.map (Channel.setVolume volume bursts)
        else s.channels[key]? := by
  cases found : s.site? k with
  | none => exact ⟨0, fun key => by rw [actOn_of_none found]; rfl⟩
  | some site =>
    refine ⟨site.endpoint.options.rampBursts, fun key => ?_⟩
    rw [actOn_of_site found, ← (endpoint_of_site? found).2]
    exact site.getElem?_setVolume id volume key

theorem getElem?_perform_tunes (s : Server) (tunes : op.Tunes) :
    ∃ volume bursts, ∀ key : Nat, (s.perform op).channels[key]? =
      if s.aims? op = some key then s.channels[key]?.map (Channel.setVolume volume bursts)
      else s.channels[key]? := by
  cases op with
  | setVolume k id volume =>
    rw [perform_setVolume]
    exact ⟨volume, s.getElem?_actOn_setVolume k id volume⟩
  | setLevel id level =>
    rcases s.perform_setLevel id level with ⟨unknown, eq⟩ | ⟨k, known, eq⟩
    · refine ⟨0, 0, fun key => ?_⟩
      rw [eq, aims?, unknown]
      rfl
    · rw [eq, aims?, known]
      exact ⟨_, s.getElem?_actOn_setVolume k id (Decibel.toLinear level)⟩
  | setGain channel volume bursts =>
    refine ⟨volume, bursts, fun key => ?_⟩
    rw [perform_setGain, getElem?_actOnChannel, aims?]
    simp only [Option.some.injEq]
  | _ => exact tunes.elim

structure Tends (s t : Server) (aimed : Option Nat) : Prop where
  applied : ∀ key, (t.tuning key).2 = (s.tuning key).2
  others : ∀ key, aimed ≠ some key → t.tuning key = s.tuning key

theorem perform_tends_or_mixes (s : Server) (single : op.units = [op]) :
    s.Tends (s.perform op) (s.aims? op) ∨ s.MixesTo (s.perform op) := by
  by_cases tunes : op.Tunes
  · obtain ⟨volume, bursts, after⟩ := s.getElem?_perform_tunes tunes
    refine .inl ⟨fun key => ?_, fun key other => tuning_congr (by rw [after, if_neg other])⟩
    rw [tuning, after, tuning]
    split
    · cases s.channels[key]? <;> rfl
    · rfl
  · refine (s.perform_keepsTuning_or_mixes single tunes).imp_left fun keeps => ?_
    exact ⟨fun key => by rw [keeps], fun key _ => keeps key⟩

end Tunes

end Server

end SharedAudio

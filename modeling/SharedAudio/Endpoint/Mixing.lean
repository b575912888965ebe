import SharedAudio.Endpoint.Basic

namespace SharedAudio

-- There is no mixer left once a share did not fit.
structure Mixing where
  mixer : Option Mixer
  channels : Array Channel
  underflows : UInt64

namespace Mixing

def take (m : Mixing) (key : Nat) : Mixing :=
  match m.mixer, m.channels[key]? with
  | some mixer, some channel =>
    if channel.isRunning then
      let channel := channel.stepGain
      match mixer.add? channel.ring channel.applied with
      | some share =>
        { mixer := some share.mixer
          channels := m.channels.setIfInBounds key (channel.record share)
          underflows := if share.underflowed then m.underflows + 1 else m.underflows }
      | none => { m with mixer := none, channels := m.channels.setIfInBounds key channel }
    else m
  | _, _ => m

theorem take_of_not_running {m : Mixing} {key : Nat} {channel : Channel}
    (present : m.channels[key]? = some channel) (h : channel.isRunning = false) :
    m.take key = m := by
  unfold take
  rw [present]
  cases m.mixer <;> simp [h]

end Mixing

def Site.mix (s : Site) (mixer : Mixer) : Option Mixer × Site :=
  let begun : Mixing := ⟨some mixer.clear, s.channels, s.endpoint.underflows⟩
  let done := s.endpoint.registered.foldl Mixing.take begun
  let limited (m : Mixer) : Mixer := { m with sum := s.endpoint.options.limiter.apply m.sum }
  (done.mixer.map limited,
    { s with
      channels := done.channels
      endpoint := { s.endpoint with underflows := done.underflows } })

end SharedAudio

import SharedAudio.Sample

namespace SharedAudio

structure Ramp where
  current : Sample
  target : Sample
  step : Sample
  remaining : UInt32

namespace Ramp

def settled (volume : Sample) : Ramp :=
  let volume := Sample.positivePart volume
  ⟨volume, volume, 0, 0⟩

def aim (r : Ramp) (target : Sample) (bursts : UInt32) : Ramp :=
  let target := Sample.positivePart target
  if bursts = 0 then ⟨target, target, 0, 0⟩
  else { r with target, step := (target - r.current) / bursts.toFloat32, remaining := bursts }

def next (r : Ramp) : Ramp :=
  if r.remaining = 0 then r
  else
    let remaining := r.remaining - 1
    { r with remaining, current := if remaining = 0 then r.target else r.current + r.step }

@[simp] theorem next_of_remaining_zero {r : Ramp} (h : r.remaining = 0) : r.next = r := by
  simp [next, h]

@[simp] theorem target_next (r : Ramp) : r.next.target = r.target := by
  simp only [next]
  split <;> rfl

theorem target_aim (r : Ramp) (target : Sample) (bursts : UInt32) :
    (r.aim target bursts).target = Sample.positivePart target := by
  simp only [aim]
  split <;> rfl

end Ramp

end SharedAudio

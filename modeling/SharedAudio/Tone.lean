import SharedAudio.Word

namespace SharedAudio

structure Tone where
  phase : Float := 0
  step : Float
  channels : UInt64
  amplitude : Sample

namespace Tone

def new (sampleRate : UInt32) (frequency : Float) (amplitude : Sample) (channels : UInt64) :
    Tone where
  step := frequency / sampleRate.toFloat
  channels := max channels 1
  amplitude

def turn : Float := Float.ofBits 0x400921fb54442d18 * 2

def fraction (x : Float) : Float :=
  if x.floor == x then x * 0 else if x < 0 then x - x.ceil else x - x.floor

def value (t : Tone) : Sample := (turn * t.phase).sin.toFloat32 * t.amplitude

def advance (t : Tone) : Tone := { t with phase := fraction (t.phase + t.step) }

def values (t : Tone) : Nat → Array Sample → Array Sample × Tone
  | 0, done => (done, t)
  | frames + 1, done => t.advance.values frames (done.push t.value)

def fill (t : Tone) (block : Array Sample) : Nat × Array Sample × Tone :=
  let frames := block.size / t.channels.toNat
  let (values, t) := t.values frames #[]
  (frames, block.mapIdx fun i old => (values[i / t.channels.toNat]?).getD old, t)

def render? (t : Tone) (frames : UInt64) : Option (Array Sample × Tone) :=
  (Word.samples? frames t.channels).map fun samples => (t.fill (Array.replicate samples 0)).2

@[simp] theorem channels_advance (t : Tone) : t.advance.channels = t.channels := rfl

end Tone

end SharedAudio

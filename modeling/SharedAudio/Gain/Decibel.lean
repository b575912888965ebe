import SharedAudio.Sample

namespace SharedAudio.Decibel

def negativeInfinity : Sample := Float32.ofBits 0xff800000

def silence : Sample := -120

def ofLinear (gain : Sample) : Sample :=
  if 0 < gain then 20 * gain.log10 else negativeInfinity

def toLinear (level : Sample) : Sample :=
  if level ≤ silence then 0 else (10 : Sample).pow (level / 20)

def shown (gain : Sample) : Sample :=
  let level := ofLinear gain
  if silence < level then level else silence

end SharedAudio.Decibel

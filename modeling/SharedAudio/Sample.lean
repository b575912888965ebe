namespace SharedAudio

abbrev Sample := Float32

namespace Sample

def positivePart (x : Sample) : Sample := if 0 < x then x else 0

def clip (x : Sample) : Sample := if x < -1 then -1 else if 1 < x then 1 else x

def scaled (volume x : Sample) : Sample := if volume == 1 then x else x * volume

def energy (block : Array Sample) : Sample :=
  block.foldl (fun sum x => sum + x * x) 0

def rms (block : Array Sample) : Sample :=
  if block.isEmpty then 0 else (energy block / block.size.toUInt64.toFloat32).sqrt

end Sample

end SharedAudio

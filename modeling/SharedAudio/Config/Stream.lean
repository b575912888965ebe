namespace SharedAudio

inductive SampleFormat
  | float32
  | int16
deriving DecidableEq, Repr

def SampleFormat.name : SampleFormat → String
  | .float32 => "F32"
  | .int16 => "I16"

structure StreamConfig where
  sampleRate : UInt32 := 48000
  channels : UInt64 := 2
  format : SampleFormat := .float32
  device : UInt32 := 0
  burst : Option UInt64 := none
  capacity : Option UInt64 := none
  burstsPerBuffer : Option UInt64 := none
deriving DecidableEq, Repr

def StreamConfig.serves (c wanted : StreamConfig) : Bool :=
  c.sampleRate == wanted.sampleRate && c.channels == wanted.channels &&
    c.format == wanted.format && c.device == wanted.device

theorem StreamConfig.serves_iff {c wanted : StreamConfig} :
    c.serves wanted = true ↔ c.sampleRate = wanted.sampleRate ∧ c.channels = wanted.channels ∧
      c.format = wanted.format ∧ c.device = wanted.device := by
  simp [serves, and_assoc]

theorem StreamConfig.serves_comm (c d : StreamConfig) : c.serves d = d.serves c := by
  rw [Bool.eq_iff_iff, serves_iff, serves_iff]
  constructor <;> exact fun ⟨rate, channels, format, device⟩ =>
    ⟨rate.symm, channels.symm, format.symm, device.symm⟩

end SharedAudio

import MetricIntake.Frame.Limits
import MetricIntake.Packet.Policy

/-!
Contract: the configuration of an intake.

Owns: the settings, their defaults, and setters that keep sizes above zero.

Does not own: the command line that chooses settings.
-/

namespace MetricIntake

/-- The settings of an intake. -/
structure Config where
  maxFrameLength : Nat
  chunkSize : Nat
  readTimeout : Option Span
  validateOrder : Bool
  policy : KeyPolicy
deriving DecidableEq, Repr

namespace Config

/-- The greatest payload length where none is given: 500 MiB. -/
def defaultMaxFrameLength : Nat := 500 * 1024 * 1024

def defaultChunkSize : Nat := 4096

def default : Config :=
  { maxFrameLength := defaultMaxFrameLength
    chunkSize := defaultChunkSize
    readTimeout := none
    validateOrder := false
    policy := ⟨.medium, .medium⟩ }

/-- Another greatest payload length, at least one. -/
def withMaxFrameLength (config : Config) (length : Nat) : Config :=
  { config with maxFrameLength := max length 1 }

/-- Another size of one read, at least one. -/
def withChunkSize (config : Config) (size : Nat) : Config :=
  { config with chunkSize := max size 1 }

/-- Another time that a read may wait, or no bound. -/
def withReadTimeout (config : Config) (timeout : Option Span) : Config :=
  { config with readTimeout := timeout }

def withValidateOrder (config : Config) (validateOrder : Bool) : Config :=
  { config with validateOrder }

def withPolicy (config : Config) (policy : KeyPolicy) : Config :=
  { config with policy }

def frameLimits (config : Config) : Frame.Limits :=
  ⟨config.maxFrameLength, config.chunkSize, config.readTimeout⟩

end Config

end MetricIntake

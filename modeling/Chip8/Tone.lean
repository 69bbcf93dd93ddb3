import Chip8.Extent
import Chip8.Number.Binary64

/-!
# Tones

One period of a square wave in signed samples of sixteen bits: the first half up, the rest down. A
period has at least two samples, however high the pitch, and no more than can be counted.
-/

namespace Chip8

/-- Why there is no tone. -/
inductive ToneFault where
  | number (fault : NumberFault)
  | tooLong
  /-- The samples cannot be kept before they are scaled, when each takes up sixty-four bits. -/
  | extent (fault : ExtentFault)
  deriving DecidableEq

def ToneFault.message : ToneFault → String
  | number fault => fault.message
  | tooLong => "Maximum allowed size exceeded"
  | extent fault => fault.message

/-- A square wave. -/
structure Tone where
  /-- The value of the first half. -/
  up : Int
  /-- The value of the rest. -/
  down : Int
  length : Nat

namespace Tone

/-- The sample for an amplitude: cut off to a whole number, of which the low sixteen bits are kept.
What does not fit into thirty-two bits has none. -/
def sampleOf (amplitude : Float) : Int :=
  match Binary64.toInt amplitude with
  | .ok whole => if -0x80000000 ≤ whole ∧ whole < 0x80000000 then Int.bmod whole 0x10000 else 0
  | .error _ => 0

/-- The samples in a period of a pitch, cut off to a whole number. -/
def period (pitch : Float) (rate : Int) : Except NumberFault Int := do
  Binary64.toInt (← Binary64.div (← Binary64.ofInt rate) pitch)

/-- The square wave of a pitch for a number of samples per second, whose arrays may take up so many
bytes. -/
def square (room : Nat) (pitch : Float) (rate : Int) (volume : Float) : Except ToneFault Tone := do
  let samples := max ((← (period pitch rate).mapError .number).toNat) 2
  if !Integer64.holds samples then .error .tooLong
  else
    let _ ← (extents room [samples] .integer).mapError .extent
    .ok { up := sampleOf (1.0 * volume * 32767.0), down := sampleOf (-1.0 * volume * 32767.0)
          length := samples }

/-- The runs of equal samples, each value with its number. -/
def runs (tone : Tone) : List (Int × Nat) :=
  let half := tone.length / 2
  if tone.up = tone.down then [(tone.up, tone.length)]
  else [(tone.up, half), (tone.down, tone.length - half)]

/-- The two bytes of a sample, low one first. -/
def sampleBytes (sample : Int) : List UInt8 := [UInt8.ofInt sample, UInt8.ofInt (sample / 0x100)]

def bytes (tone : Tone) : List UInt8 :=
  tone.runs.flatMap fun (sample, count) => (List.replicate count (sampleBytes sample)).flatten

def buzzerRate : Int := 44100

def buzzerPitch : Float := 440.0

def buzzerVolume : Float := 0.1

end Tone

end Chip8

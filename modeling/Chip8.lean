import Chip8.Main
import Chip8.Tool.Desktop
import Chip8.Tool.Usual
import Chip8.Fault.Report
import Chip8.Proofs.Memory
import Chip8.Proofs.Memory.Bytewise
import Chip8.Proofs.Pattern
import Chip8.Proofs.Machine.Fetch
import Chip8.Proofs.Machine.Refusal
import Chip8.Proofs.Clock.Poll
import Chip8.Proofs.Emulator.Refinement
import Chip8.Proofs.Lfsr.Running
import Chip8.Proofs.Machine.Bounds
import Chip8.Proofs.Emulator.Loading
import Chip8.Proofs.Emulator.Bounds
import Chip8.Proofs.Clock.Tally
import Chip8.Proofs.Clock.Phase
import Chip8.Proofs.Clock.History
import Chip8.Proofs.CallStack
import Chip8.Proofs.Machine.Calls
import Chip8.Proofs.Emulator.Settings
import Chip8.Proofs.Memory.Contents
import Chip8.Proofs.Emulator.Renewal
import Chip8.Proofs.Clock.Exact
import Chip8.Proofs.Emulator.Polled
import Chip8.Proofs.Emulator.InStep
import Chip8.Proofs.Machine.Timers
import Chip8.Proofs.Emulator.Idle
import Chip8.Proofs.Emulator.FrameRate
import Chip8.Proofs.Machine.Footprint
import Chip8.Proofs.Emulator.Unskipped
import Chip8.Proofs.Clock.Lockstep
import Chip8.Proofs.Emulator.Journal
import Chip8.Proofs.Emulator.RandomStream
import Chip8.Proofs.Machine.Sound
import Chip8.Proofs.Emulator.Usage
import Chip8.Proofs.Emulator.SoundTimer
import Chip8.Proofs.Machine.Counter
import Chip8.Proofs.Machine.Sprite
import Chip8.Proofs.Screen.BitByBit
import Chip8.Proofs.Screen.Strokes
import Chip8.Proofs.Clock.Shift
import Chip8.Proofs.Emulator.Pauses
import Chip8.Proofs.Number.Double
import Chip8.Proofs.CommandLine.Walk
import Chip8.Proofs.CommandLine.Start
import Chip8.Proofs.Machine.Arithmetic
import Chip8.Proofs.Machine.Transfer
import Chip8.Proofs.Clock.CatchUp
import Chip8.Proofs.Clock.Retry
import Chip8.Proofs.Lfsr.Period
import Chip8.Proofs.Checksum.Division
import Chip8.Proofs.Checksum.Detection
import Chip8.Proofs.Emulator.FallbackSeed
import Chip8.Proofs.Lfsr.Output
import Chip8.Proofs.CommandLine.ColorText
import Chip8.Proofs.CommandLine.SeedText
import Chip8.Proofs.Emulator.Reports
import Chip8.Proofs.Headless
import Chip8.Proofs.CommandLine.Order
import Chip8.Proofs.Picture.Afterglow
import Chip8.Proofs.Window.Controls
import Chip8.Proofs.Window.Buzzer
import Chip8.Proofs.CallStack.BoundedList

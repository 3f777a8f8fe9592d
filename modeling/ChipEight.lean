import ChipEight.Digit
import ChipEight.Instruction
import ChipEight.Memory
import ChipEight.Registers
import ChipEight.CallStack
import ChipEight.Framebuffer
import ChipEight.Keypad
import ChipEight.Timer
import ChipEight.Schedule
import ChipEight.RandomSource
import ChipEight.Machine.Run
import ChipEight.Host.Scripted
import ChipEight.Window
import ChipEight.Tone
import ChipEight.Host.Desktop
import ChipEight.Main
import ChipEight.Proofs.CallStack
import ChipEight.Proofs.Memory
import ChipEight.Proofs.Framebuffer
import ChipEight.Proofs.Processor.Faults
import ChipEight.Proofs.Processor.Cycle
import ChipEight.Proofs.Processor.Runs
import ChipEight.Proofs.Processor.Atomicity
import ChipEight.Proofs.Processor.Effects
import ChipEight.Proofs.Processor.Invariant
import ChipEight.Proofs.Keypad
import ChipEight.Proofs.Processor.KeyWait
import ChipEight.Proofs.Processor.Presses
import ChipEight.Proofs.Processor.Calls
import ChipEight.Proofs.Processor.Ownership
import ChipEight.Proofs.Processor.ControlFlow
import ChipEight.Proofs.Processor.Drawing
import ChipEight.Proofs.Machine.View
import ChipEight.Proofs.Machine.Replay
import ChipEight.Proofs.Machine.Parts
import ChipEight.Proofs.Machine.Stages
import ChipEight.Proofs.Machine.Limits
import ChipEight.Proofs.Machine.Recorded
import ChipEight.Proofs.Machine.CleanUp
import ChipEight.Proofs.Machine.Presentation
import ChipEight.Proofs.Keypad.Latch
import ChipEight.Proofs.Processor.Surroundings
import ChipEight.Proofs.Processor.Configuration
import ChipEight.Proofs.Processor.Isolation
import ChipEight.Proofs.Processor.Index
import ChipEight.Proofs.Memory.Contents
import ChipEight.Proofs.Cadence
import ChipEight.Proofs.Machine.Throttle
import ChipEight.Proofs.Machine.Failures
import ChipEight.Proofs.CommandLine.Endings
import ChipEight.Proofs.Timer
import ChipEight.Proofs.Processor.Access
import ChipEight.Proofs.Processor.Arithmetic
import ChipEight.Proofs.Framebuffer.Algebra
import ChipEight.Proofs.Instruction
import ChipEight.Proofs.Instruction.Patterns
import ChipEight.Proofs.Instruction.Assembly
import ChipEight.Proofs.Memory.Listing
import ChipEight.Proofs.Machine.Trace
import ChipEight.Proofs.Processor.Blocks
import ChipEight.Proofs.Processor.Glyphs
import ChipEight.Proofs.Machine.Glyphs
import ChipEight.Proofs.Processor.Completions
import ChipEight.Proofs.Timer.History
import ChipEight.Proofs.Schedule
import ChipEight.Proofs.Machine.Input
import ChipEight.Proofs.Memory.Image
import ChipEight.Proofs.Machine.Loading

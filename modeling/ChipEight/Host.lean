import ChipEight.Framebuffer
import ChipEight.Keypad
import ChipEight.Processor.Basic
import ChipEight.Report
import ChipEight.Storage

namespace ChipEight

inductive Poll where
  | interrupted
  /-- What happened to the keys, and whether the window stays open. -/
  | events (keys : List KeyEvent) (goOn : Bool)
  deriving DecidableEq, Repr

structure Host (τ η : Type) where
  readClock : η → τ × η
  sleep : τ → η → η
  hasWindow : η → Bool
  poll : η → Poll × η
  present : Framebuffer → η → Except Storage.Exhausted η
  closeWindow : η → List Report × η
  hasSound : η → Bool
  setSound : Bool → η → η

structure Verdict where
  answer : Bool
  /-- The machine was told to stop while it was asking. -/
  stopped : Bool
  deriving DecidableEq, Repr

structure Limits (τ η : Type) where
  maxCycles : Option Int
  shouldStop : Option (Processor τ → η → Except Registers.BadRegister Verdict × η)

end ChipEight

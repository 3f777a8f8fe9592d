import ChipEight.Host
import ChipEight.Processor.Cycle
import ChipEight.Rom
import ChipEight.Schedule

namespace ChipEight

structure Setup where
  stackCapacity : Option Int
  options : Options
  seed : Int
  randomBytes : Option (Array UInt8)
  instructionRate : Option Int
  frameRate : Int
  glyphs : List UInt8

def Setup.standard : Setup where
  stackCapacity := some CallStack.defaultCapacity
  options := .standard
  seed := 0
  randomBytes := none
  instructionRate := some Schedule.defaultInstructionRate
  frameRate := Schedule.defaultFrameRate
  glyphs := Glyphs.standard

inductive StartError (τ : Type) where
  | capacity (e : CallStack.BadCapacity)
  | seed (e : BadSeed)
  | frequency (e : BadFrequency τ)
  | glyphs (e : Memory.BadGlyphs)
  | load (e : LoadError)

inductive Failure where
  | fault (f : Fault)
  | clock (e : NotFinite)
  | question (e : Registers.BadRegister)
  | picture (e : Storage.Exhausted)
  deriving DecidableEq, Repr

structure Machine (τ η : Type) where
  processor : Processor τ
  schedule : Schedule τ
  host : η
  running : Bool
  frames : Nat
  fault : Option Fault
  rom : Option Rom
  journal : Journal

variable {τ η : Type}

def StartError.message [TimeScale τ] : StartError τ → String
  | capacity e => e.message
  | seed e => e.message
  | frequency e => e.message
  | glyphs e => e.message
  | load e => e.message

def Failure.message : Failure → String
  | fault f => f.message
  | clock e => e.message
  | question e => e.message
  | picture e => e.message

def Processor.start? [TimeScale τ] (setup : Setup) : Except (StartError τ) (Processor τ) :=
  match CallStack.empty? setup.stackCapacity with
  | .error e => .error (.capacity e)
  | .ok stack =>
    match RandomSource.seeded? setup.seed with
    | .error e => .error (.seed e)
    | .ok source =>
      let source := setup.randomBytes.elim source (.cycle · 0)
      .ok (.initial stack source setup.options)

namespace Machine

def report (m : Machine τ η) (rs : List Report) : Machine τ η :=
  { m with journal := m.journal.add rs }

def loadProgram (m : Machine τ η) (program : List UInt8) : Nat × Machine τ η :=
  let (copied, memory) := m.processor.memory.loadProgram program
  (copied, { m with processor := { m.processor with memory := memory } }.report
    (Report.loading program))

def loadRom (m : Machine τ η) (path : String) (found : Entry) :
    Except LoadError (Nat × Machine τ η) :=
  match Rom.read? path found with
  | .error e => .error e
  | .ok rom =>
    let m := { m with rom := some rom }.report [.programRead rom.name rom.size]
    .ok (m.loadProgram rom.bytes)

def loadGlyphs (m : Machine τ η) (table : List UInt8) : Except Memory.BadGlyphs (Machine τ η) :=
  match m.processor.memory.loadGlyphs table with
  | .error e => .error e
  | .ok memory =>
    .ok ({ m with processor := { m.processor with memory := memory } }.report [.glyphsLoaded])

def applyKey (m : Machine τ η) (e : KeyEvent) : Machine τ η :=
  { m with processor := { m.processor with keypad := m.processor.keypad.apply e } }.report
    (Report.keyEvent m.processor.keypad e)

def applyKeys (m : Machine τ η) (es : List KeyEvent) : Machine τ η := es.foldl applyKey m

def stop (m : Machine τ η) : Machine τ η := { m with running := false }

/-- Makes a machine, with the program behind a path if one is given. What was reported is kept even
if the machine cannot be made. -/
def start? [TimeScale τ] (h : Host τ η) (setup : Setup) (host : η) (journal : Journal)
    (program : Option (String × Entry)) : Journal × Except (StartError τ) (Machine τ η) :=
  let journal := journal.add Report.parts
  match Processor.start? setup with
  | .error e => (journal, .error e)
  | .ok processor =>
    let journal := journal.add [.processorReady]
    let (now, host) := h.readClock host
    match Schedule.start? now setup.instructionRate setup.frameRate with
    | .error e => (journal, .error (.frequency e))
    | .ok schedule =>
      let m : Machine τ η :=
        { processor, schedule, host, journal, running := false, frames := 0, fault := none,
          rom := none }
      match m.loadGlyphs setup.glyphs with
      | .error e => (journal, .error (.glyphs e))
      | .ok m =>
        match program with
        | none =>
          let m := m.report [.machineReady]
          (m.journal, .ok m)
        | some (path, found) =>
          match m.loadRom path found with
          | .error e => (m.journal, .error (.load e))
          | .ok (_, m) =>
            let m := m.report [.machineReady]
            (m.journal, .ok m)

def cycle (m : Machine τ η) : Outcome Fault (Machine τ η) (Option Instruction) :=
  let m := m.report m.processor.cycleReports
  match m.processor.cycle with
  | .failed f p => .failed f { m with processor := p }
  | .done i p => .done i { m with processor := p }

def tick [TimeScale τ] (h : Host τ η) (m : Machine τ η) :
    Outcome Failure (Machine τ η) (Option Instruction) :=
  let (now, host) := h.readClock m.host
  let m := { m with host := host }
  match m.schedule.advance m.processor.timer now with
  | .failed e (schedule, timer) =>
    .failed (.clock e) { m with schedule, processor := { m.processor with timer } }
  | .done _ (schedule, timer) =>
    match { m with schedule, processor := { m.processor with timer } }.cycle with
    | .failed f m => .failed (.fault f) m
    | .done i m => .done i m

end Machine

def Memory.listing (m : Memory) (addr : Int) : Nat → Except Fault (List String)
  | 0 => .ok []
  | n + 1 =>
    match m.readWord addr with
    | .error f => .error f
    | .ok word =>
      match m.listing (addr + 2) n with
      | .error f => .error f
      | .ok lines => .ok (Instruction.line addr ⟨word⟩ :: lines)

end ChipEight

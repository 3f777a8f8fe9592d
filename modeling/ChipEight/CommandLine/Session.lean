import ChipEight.CommandLine.Arguments
import ChipEight.Host.Desktop
import ChipEight.Machine.Run

/-!
A whole session at the command line: read the arguments, load a program, and list it or run it in
a window. It leaves a text, a journal, and an exit status or an error that no text explains.
-/

namespace ChipEight.CommandLine

structure Workplace (τ : Type) where
  files : String → Entry
  windows : Bool
  sound : SoundDevice
  level : Level
  events : List (List WindowEvent)
  start : τ
  step : τ

/-- An error that leaves a session without a text. -/
inductive Abort (τ : Type) where
  | failure (e : Failure)
  | frequency (e : BadFrequency τ)
  | window (e : BadSize)
  | tone (e : ToneError)

inductive Ending (τ : Type) where
  | exit (status : Nat)
  | aborted (e : Abort τ)

structure Transcript (τ : Type) where
  output : String
  journal : Journal
  ending : Ending τ

inductive Stage (τ : Type) where
  | over (t : Transcript τ)
  | ready (output : String) (m : Machine τ (Desktop τ))

namespace Arguments

def level? (a : Arguments) : Option Level :=
  if a.debug then some .debug else if a.verbose then some .info else none

def setup (a : Arguments) (glyphs : List UInt8) : Setup :=
  { Setup.standard with
    options := ⟨!a.modernShift, a.strict⟩
    instructionRate := some a.rate
    glyphs }

def programPath? (a : Arguments) : Option String := a.program.filter (· ≠ "")

def glyphPath? (a : Arguments) : Option String := a.glyphs.filter (· ≠ "")

end Arguments

/-! The texts of a session. -/

def lines (ls : List String) : String := String.join (ls.map (· ++ "\n"))

def banner : String :=
  lines ["Chip8 VM - Sistema Iniciado", String.ofList (List.replicate 50 '=')]

def usage : String :=
  lines ["Error: Se requiere especificar una ROM",
    "Uso: python main.py <ruta_a_rom.ch8> [--debug]"]

def loadFailure (message : String) : String := lines ["", "❌ Error al cargar ROM: " ++ message]

def programInfo (r : Rom) : String :=
  lines (["", "📦 ROM cargada:", "   Nombre: " ++ r.name,
    "   Tamaño: " ++ toString r.size ++ " bytes"] ++
    if r.truncated then ["   ⚠️  La ROM no cabe entera en memoria y se ha truncado"] else [])

def noWindows : String :=
  lines ["", "❌ ERROR: Pygame no está instalado.", "", "Instala con: pip install pygame-ce"]

def ready : String :=
  lines ["", "✅ Sistema listo para ejecutar",
    "   Presiona Escape o cierra la ventana para detener", ""]

def runFailure (f : Fault) : String := lines ["", "❌ Error de ejecución: " ++ f.message]

section

variable {τ : Type} [TimeScale τ]

def glyphs? (files : String → Entry) (a : Arguments) :
    Except LoadError (List Report × List UInt8) :=
  match a.glyphPath? with
  | none => .ok ([], Glyphs.standard)
  | some path => do
    let table ← Glyphs.read? path (files path)
    return ([.glyphsRead (Disk.name path)], table)

def openDesktop? (w : Workplace τ) (a : Arguments) (m : Machine τ (Desktop τ)) :
    Journal × Except (Abort τ) (Machine τ (Desktop τ)) :=
  match Window.open? a.scale with
  | .error e => (m.journal, .error (.window e))
  | .ok window =>
    let m := { m with host := { m.host with window := some window } }.report
      [.windowOpened window.width window.height window.scale]
    if a.mute then (m.journal, .ok m)
    else
      match Beeper.open? SquareWave.defaultFrequency w.sound with
      | .error e => (m.journal, .error (.tone e))
      | .ok (reports, beeper) =>
        let m := { m with host := { m.host with beeper := some beeper } }.report reports
        (m.journal, .ok m)

def proceed (w : Workplace τ) (a : Arguments) (output : String) (m : Machine τ (Desktop τ)) :
    Stage τ :=
  let output := output ++ m.rom.elim "" programInfo
  if a.listing ≠ 0 then
    match m.processor.memory.listing m.processor.registers.pc.toNat a.listing.toNat with
    | .error f => .over ⟨output, m.journal, .aborted (.failure (.fault f))⟩
    | .ok ls => .over ⟨output ++ lines ls, m.journal, .exit 0⟩
  else if !w.windows then .over ⟨output ++ noWindows, m.journal, .exit 1⟩
  else
    match openDesktop? w a m with
    | (journal, .error e) => .over ⟨output, journal, .aborted e⟩
    | (_, .ok m) => .ready (output ++ ready) m

/-- Everything up to the run. Errors of loading are told in the output, but for a rate that is
larger than any time. -/
def prepare (w : Workplace τ) (a : Arguments) : Stage τ :=
  let journal := Journal.empty (a.level?.getD w.level)
  match a.programPath? with
  | none => .over ⟨banner ++ usage, journal, .exit 1⟩
  | some path =>
    match glyphs? w.files a with
    | .error e => .over ⟨banner ++ loadFailure e.message, journal, .exit 1⟩
    | .ok (reports, table) =>
      let host := Desktop.start w.start w.step w.events
      match Machine.start? Desktop.host (a.setup table) host (journal.add reports)
          (some (path, w.files path)) with
      | (journal, .error (.frequency .tooLarge)) =>
        .over ⟨banner, journal, .aborted (.frequency .tooLarge)⟩
      | (journal, .error e) => .over ⟨banner ++ loadFailure e.message, journal, .exit 1⟩
      | (_, .ok m) => proceed w a banner m

omit [TimeScale τ] in
def conclude (output : String) : Outcome Failure (Machine τ (Desktop τ)) Nat → Transcript τ
  | .done _ m => ⟨output, m.journal, .exit 0⟩
  | .failed (.fault f) m => ⟨output ++ runFailure f, m.journal, .exit 1⟩
  | .failed e m => ⟨output, m.journal, .aborted (.failure e)⟩

def noLimits : Limits τ (Desktop τ) := ⟨none, none⟩

/-- A session with given arguments; none if its run is not over after `fuel` turns. -/
def execute (fuel : Nat) (w : Workplace τ) (a : Arguments) : Option (Transcript τ) :=
  match prepare w a with
  | .over t => some t
  | .ready output m => (m.run Desktop.host noLimits fuel).map (conclude output)

/-- A whole session. Arguments that are refused leave the status 2 and no output. -/
def perform (fuel : Nat) (w : Workplace τ) (arguments : List String) : Option (Transcript τ) :=
  match Request.parse arguments with
  | .error _ => some ⟨"", .empty w.level, .exit 2⟩
  | .ok .help => some ⟨"", .empty w.level, .exit 0⟩
  | .ok (.execute a) => execute fuel w a

end

end ChipEight.CommandLine

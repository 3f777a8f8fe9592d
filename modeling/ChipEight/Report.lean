import ChipEight.Fault
import ChipEight.Framebuffer
import ChipEight.Instruction
import ChipEight.Keypad
import ChipEight.Memory

namespace ChipEight

inductive Level where
  | debug
  | info
  | warning
  | error
  deriving DecidableEq, Repr

namespace Level

def rank : Level → Nat
  | debug => 0
  | info => 1
  | warning => 2
  | error => 3

def name : Level → String
  | debug => "DEBUG"
  | info => "INFO"
  | warning => "WARNING"
  | error => "ERROR"

end Level

inductive Report where
  | screenReady
  | timerReady
  | keypadReady
  | processorReady
  | glyphsLoaded
  | programCut (size : Nat)
  | programLoaded (copied : Nat)
  | machineReady
  | programRead (name : String) (size : Nat)
  | glyphsRead (name : String)
  | strangeKey (key : Int)
  | keyPressed (key : Digit)
  | keyReleased (key : Digit)
  | delayWritten (value : UInt8)
  | soundWritten (value : UInt8)
  | instruction (addr : UInt16) (i : Instruction)
  | unknownIgnored (word addr : UInt16)
  | waiting (x : Digit)
  | keyTaken (key x : Digit)
  | loopStarted
  | fatalFault (pc : UInt16) (f : Fault)
  | loopStopped (cycles : Nat)
  | heartbeat (pc : UInt16) (executed : Nat) (delay sound : UInt8)
  | windowOpened (width height scale : Int)
  | windowClosed
  | soundReady (frequency : Int) (channels : Nat)
  | soundMissing (reason : String)
  deriving DecidableEq, Repr

namespace Report

def level : Report → Level
  | screenReady | timerReady | keypadReady | glyphsLoaded | programLoaded _ | keyPressed _
  | keyReleased _ | delayWritten _ | soundWritten _ | instruction _ _ | waiting _
  | keyTaken _ _ => .debug
  | processorReady | programCut _ | machineReady | programRead _ _ | glyphsRead _ | loopStarted
  | loopStopped _ | heartbeat _ _ _ _ | windowOpened _ _ _ | windowClosed
  | soundReady _ _ => .info
  | strangeKey _ | unknownIgnored _ _ | soundMissing _ => .warning
  | fatalFault _ _ => .error

open Text in
def text : Report → String
  | screenReady =>
    "Display inicializado (" ++ toString Framebuffer.width ++ "x" ++ toString Framebuffer.height ++
      ")"
  | timerReady => "Timer inicializado (DT=0, ST=0)"
  | keypadReady => "Keypad inicializado: todas las teclas soltadas"
  | processorReady => "CPU inicializada"
  | glyphsLoaded => "Fuente cargada en 0x" ++ hex 3 Memory.glyphStart
  | programCut size =>
    "Programa truncado: " ++ toString size ++ " bytes, solo caben " ++
      toString Memory.programCapacity
  | programLoaded copied =>
    "Programa cargado en 0x" ++ hex 3 Memory.programStart ++ " (" ++ toString copied ++ " bytes)"
  | machineReady => "Sistema Chip8 inicializado"
  | programRead name size => "ROM cargada: " ++ name ++ " (" ++ toString size ++ " bytes)"
  | glyphsRead name => "Fuente cargada: " ++ name
  | strangeKey key => "Keypad: Tecla desconocida " ++ toString key ++ ", ignorando"
  | keyPressed key => "Keypad: tecla 0x" ++ hex 1 key.val ++ " pulsada"
  | keyReleased key => "Keypad: tecla 0x" ++ hex 1 key.val ++ " soltada"
  | delayWritten value => "Timer: DT escrito = " ++ toString value.toNat
  | soundWritten value => "Timer: ST escrito = " ++ toString value.toNat
  | instruction addr i => i.line addr.toNat
  | unknownIgnored word addr =>
    "Opcode desconocido 0x" ++ hex 4 word.toNat ++ " en 0x" ++ hex 3 addr.toNat ++ ", ignorando"
  | waiting x => "Fx0A: esperando tecla para V" ++ hex 1 x.val
  | keyTaken key x => "Fx0A: tecla 0x" ++ hex 1 key.val ++ " -> V" ++ hex 1 x.val
  | loopStarted => "Ejecutando bucle principal"
  | fatalFault pc f => "Fallo fatal en PC=0x" ++ hex 3 pc.toNat ++ ": " ++ f.message
  | loopStopped cycles => "Bucle detenido tras " ++ toString cycles ++ " ciclos"
  | heartbeat pc executed delay sound =>
    "💓 Heartbeat ... PC=0x" ++ hex 3 pc.toNat ++ " | Instrucciones=" ++ toString executed ++
      " | DT=" ++ toString delay.toNat ++ " ST=" ++ toString sound.toNat
  | windowOpened width height scale =>
    "Renderer inicializado: " ++ toString width ++ "x" ++ toString height ++ " (scale=" ++
      toString scale ++ ")"
  | windowClosed => "Renderer cerrado"
  | soundReady frequency channels =>
    "Audio inicializado: " ++ toString frequency ++ " Hz, " ++ toString channels ++ " canal(es)"
  | soundMissing reason => "Audio no disponible, pitido desactivado: " ++ reason

def parts : List Report := [screenReady, timerReady, keypadReady]

def loading (program : List UInt8) : List Report :=
  let copied := (Memory.fitting program).length
  (if copied < program.length then [programCut program.length] else []) ++ [programLoaded copied]

def keyEvent (p : Keypad) : KeyEvent → List Report
  | .press k =>
    match Digit.ofInt? k with
    | none => [strangeKey k]
    | some k => if p.held.get k then [] else [keyPressed k]
  | .release k =>
    match Digit.ofInt? k with
    | none => [strangeKey k]
    | some k => if p.held.get k then [keyReleased k] else []

end Report

structure Journal where
  threshold : Level
  entries : List Report
  deriving DecidableEq, Repr

namespace Journal

def empty (threshold : Level) : Journal := ⟨threshold, []⟩

def add (j : Journal) (reports : List Report) : Journal :=
  { j with entries :=
      (reports.filter fun r => j.threshold.rank ≤ r.level.rank).reverse ++ j.entries }

def toList (j : Journal) : List Report := j.entries.reverse

end Journal

end ChipEight

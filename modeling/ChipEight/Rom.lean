import ChipEight.Disk
import ChipEight.Memory
import ChipEight.Text.Quoted

namespace ChipEight

/-- A program with the name of its file, whole even where memory cannot hold it. -/
structure Rom where
  name : String
  bytes : List UInt8
  deriving DecidableEq, Repr

inductive LoadError where
  | programMissing (path : String)
  | programUnreadable (path : String)
  | programEmpty (path : String)
  | glyphsMissing (path : String)
  | glyphsFolder (path : String)
  | glyphsSize (name : String) (size : Nat)
  | pathTooLong (path : String)
  deriving DecidableEq, Repr

def LoadError.message : LoadError → String
  | programMissing path => "ROM no encontrada: " ++ path
  | programUnreadable path => "Error al leer ROM: " ++ path
  | programEmpty path => "ROM vacía: " ++ path
  | glyphsMissing path => "Fuente no encontrada: " ++ path
  | glyphsFolder path => "[Errno 21] Is a directory: " ++ Text.quoted (Disk.tidy path)
  | glyphsSize name size =>
    "La fuente debe tener exactamente " ++ toString Glyphs.tableSize ++ " bytes, " ++ name ++
      " tiene " ++ toString size
  | pathTooLong path => "[Errno 36] File name too long: " ++ Text.quoted (Disk.tidy path)

namespace Rom

def size (r : Rom) : Nat := r.bytes.length

def truncated (r : Rom) : Bool := Memory.programCapacity < r.size

def read? (path : String) : Entry → Except LoadError Rom
  | .missing => .error (.programMissing path)
  | .folder => .error (.programUnreadable path)
  | .file [] => .error (.programEmpty path)
  | .file bytes => .ok ⟨Disk.name path, bytes⟩
  | .tooLong => .error (.pathTooLong path)

end Rom

def Glyphs.read? (path : String) : Entry → Except LoadError (List UInt8)
  | .missing => .error (.glyphsMissing path)
  | .folder => .error (.glyphsFolder path)
  | .file bytes =>
    if bytes.length = Glyphs.tableSize then .ok bytes
    else .error (.glyphsSize (Disk.name path) bytes.length)
  | .tooLong => .error (.pathTooLong path)

end ChipEight

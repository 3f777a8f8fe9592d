import ChipEight.Bytes
import ChipEight.Fault
import ChipEight.Glyphs

namespace ChipEight

structure Memory where
  cells : Bytes 4096
  deriving DecidableEq

namespace Memory

def size : Nat := 0x1000

def glyphStart : Nat := 0x050

def programStart : Nat := 0x200

def programCapacity : Nat := size - programStart

def zeros : Memory := ⟨Vector.replicate 4096 0⟩

/-- The byte at an address; the addresses past the end read as zero. -/
def cell (m : Memory) (a : Nat) : UInt8 := m.cells[a]?.getD 0

/-- All bytes of a block lie in memory. An empty block may start at the end. -/
def Within (addr size : Int) : Prop := 0 ≤ addr ∧ 0 ≤ size ∧ addr + size ≤ Memory.size

instance (addr size : Int) : Decidable (Within addr size) :=
  inferInstanceAs (Decidable (_ ∧ _ ∧ _))

def slice (m : Memory) (a n : Nat) : List UInt8 := (List.range n).map fun k => m.cell (a + k)

def readBlock (m : Memory) (addr size : Int) : Except Fault (List UInt8) :=
  if Within addr size then .ok (m.slice addr.toNat size.toNat) else .error (.memory addr size)

def readByte (m : Memory) (addr : Int) : Except Fault UInt8 :=
  if Within addr 1 then .ok (m.cell addr.toNat) else .error (.memory addr 1)

/-- The byte at `addr` is the high one. -/
def readWord (m : Memory) (addr : Int) : Except Fault UInt16 :=
  if Within addr 2 then
    .ok ((m.cell addr.toNat).toUInt16 <<< 8 ||| (m.cell (addr.toNat + 1)).toUInt16)
  else .error (.memory addr 2)

def writeBlock (m : Memory) (addr : Int) (bytes : List UInt8) : Except Fault Memory :=
  if Within addr bytes.length then .ok ⟨Bytes.splice m.cells addr.toNat bytes⟩
  else .error (.memory addr bytes.length)

def writeValues (m : Memory) (addr : Int) (values : List Int) : Except Fault Memory :=
  m.writeBlock addr (values.map UInt8.ofInt)

def writeByte (m : Memory) (addr value : Int) : Except Fault Memory :=
  m.writeValues addr [value]

def fitting (program : List UInt8) : List UInt8 := program.take programCapacity

/-- Copies a program to its place and counts the bytes copied. What does not fit is left out. -/
def loadProgram (m : Memory) (program : List UInt8) : Nat × Memory :=
  ((fitting program).length, ⟨Bytes.splice m.cells programStart (fitting program)⟩)

structure BadGlyphs where
  size : Nat
  deriving DecidableEq, Repr

def BadGlyphs.message (e : BadGlyphs) : String :=
  "La fuente debe tener exactamente " ++ toString Glyphs.tableSize ++ " bytes, tiene " ++
    toString e.size

def loadGlyphs (m : Memory) (table : List UInt8) : Except BadGlyphs Memory :=
  if table.length = Glyphs.tableSize then .ok ⟨Bytes.splice m.cells glyphStart table⟩
  else .error ⟨table.length⟩

end Memory

end ChipEight

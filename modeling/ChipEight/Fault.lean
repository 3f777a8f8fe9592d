import ChipEight.Text.Hex

namespace ChipEight

inductive Fault where
  | memory (addr size : Int)
  | stackUnderflow
  | stackOverflow (capacity : Nat) (addr : Int)
  | unknownOpcode (word addr : Int)
  deriving DecidableEq, Repr

namespace Fault

open Text in
def message : Fault → String
  | memory addr size =>
    let first := "Acceso fuera de memoria: 0x" ++ hex 4 addr
    if 1 < size then first ++ "..0x" ++ hex 4 (addr + size - 1) else first
  | stackUnderflow => "Retorno con la pila de llamadas vacía"
  | stackOverflow capacity addr =>
    "Pila llena (" ++ toString capacity ++ " niveles) al llamar desde 0x" ++ hex 3 addr
  | unknownOpcode word addr => "Opcode desconocido 0x" ++ hex 4 word ++ " en 0x" ++ hex 3 addr

end Fault

end ChipEight

import ChipEight.Framebuffer
import ChipEight.Keypad
import ChipEight.Storage
import ChipEight.Word64

/-!
The window: the colours and the size of what it shows, and what its events mean to the keys. The
keys are four rows on the left of the keyboard, from 1 to 4 down to Z to V. The desktop measures in
numbers of 32 bits; what a larger number has beyond them is lost.
-/

namespace ChipEight

structure Colour where
  red : UInt8
  green : UInt8
  blue : UInt8
  deriving DecidableEq, Repr

structure Palette where
  unlit : Colour
  lit : Colour
  deriving DecidableEq, Repr

namespace Palette

def standard : Palette := ⟨⟨8, 24, 32⟩, ⟨224, 248, 208⟩⟩

def colour (p : Palette) (on : Bool) : Colour := if on then p.lit else p.unlit

end Palette

inductive BadColours where
  | shade (n : Int)
  | missing (index count : Nat)
  deriving DecidableEq, Repr

def BadColours.message : BadColours → String
  | shade n => Word64.misfit n "uint8"
  | missing index count => Framebuffer.outOfBounds index 0 count

namespace Colour

def shade? (n : Int) : Except BadColours UInt8 :=
  if 0 ≤ n ∧ n < 256 then .ok (UInt8.ofNat n.toNat) else .error (.shade n)

def ofShades? : Int × Int × Int → Except BadColours Colour
  | (red, green, blue) => do return ⟨← shade? red, ← shade? green, ← shade? blue⟩

end Colour

namespace Framebuffer

/-- The colours of the pixels, column by column. -/
def colours (f : Framebuffer) (p : Palette) : List Colour :=
  (List.range width).flatMap fun x => (List.range height).map fun y => p.colour (f.pixel x y)

/-- The colours of the pixels from a list that begins with those of unlit and lit pixels. A colour
that no pixel has may be missing. -/
def coloursFrom? (f : Framebuffer) : List Colour → Except BadColours (List Colour)
  | unlit :: lit :: _ => .ok (f.colours ⟨unlit, lit⟩)
  | [unlit] => if f.litCount = 0 then .ok (f.colours ⟨unlit, unlit⟩) else .error (.missing 1 1)
  | [] => .error (.missing (if f.pixel 0 0 then 1 else 0) 0)

def coloursFromShades? (f : Framebuffer) (shades : List (Int × Int × Int)) :
    Except BadColours (List Colour) := do
  f.coloursFrom? (← shades.mapM Colour.ofShades?)

end Framebuffer

inductive WindowEvent where
  | keyDown (code : Int)
  | keyUp (code : Int)
  | quit
  | other
  deriving DecidableEq, Repr

namespace WindowEvent

def escape : Int := 27

def keyTable : List (Int × Int) :=
  [(49, 0x1), (50, 0x2), (51, 0x3), (52, 0xC),
   (113, 0x4), (119, 0x5), (101, 0x6), (114, 0xD),
   (97, 0x7), (115, 0x8), (100, 0x9), (102, 0xE),
   (122, 0xA), (120, 0x0), (99, 0xB), (118, 0xF)]

def leaves : WindowEvent → Bool
  | quit => true
  | keyDown code => code = escape
  | _ => false

def keyEvent? : WindowEvent → Option KeyEvent
  | keyDown code => (keyTable.lookup code).map .press
  | keyUp code => (keyTable.lookup code).map .release
  | _ => none

/-- The key events that come before the user leaves, and whether the user stays. -/
def readQueue (es : List WindowEvent) : List KeyEvent × Bool :=
  ((es.takeWhile (!·.leaves)).filterMap keyEvent?, !es.any leaves)

end WindowEvent

structure Window where
  scale : Int
  palette : Palette
  shown : Option Framebuffer
  deriving DecidableEq

inductive BadSize where
  | noNumbers
  | negative
  deriving DecidableEq, Repr

def BadSize.message : BadSize → String
  | noNumbers => "size must be two numbers"
  | negative => "Cannot set negative sized display mode"

inductive BadPlace where
  | noNumbers
  | outside
  deriving DecidableEq, Repr

def BadPlace.message : BadPlace → String
  | noNumbers => "position must be a sequence of two numbers"
  | outside => "pixel index out of range"

/-- What the desktop takes a length to be: its low 32 bits, as a number with a sign. -/
def onDesktop (n : Int) : Int := n.bmod 0x100000000

namespace Window

def defaultScale : Int := 10

def desktop : Nat × Nat := (1024, 768)

def longestSide : Nat := 16384

def width (w : Window) : Int := Framebuffer.width * w.scale

def height (w : Window) : Int := Framebuffer.height * w.scale

def open? : Option Int → Except BadSize Window
  | none => .error .noNumbers
  | some scale =>
    let w : Window := ⟨scale, .standard, none⟩
    if !Word64.signed w.width then .error .noNumbers
    else if onDesktop w.width < 0 || onDesktop w.height < 0 then .error .negative
    else .ok w

def dots (w : Window) : Nat := (onDesktop w.height).toNat / Framebuffer.height

def extent (w : Window) : Nat × Nat :=
  if w.dots = 0 then desktop
  else
    (min (Framebuffer.width * w.dots) longestSide, min (Framebuffer.height * w.dots) longestSide)

def dotBytes : Nat := 4

def pictureBytes (w : Window) : Nat :=
  dotBytes * (Framebuffer.width * w.dots) * (Framebuffer.height * w.dots)

def present? (w : Window) (f : Framebuffer) : Except Storage.Exhausted Window :=
  if Storage.limit < w.pictureBytes then .error ⟨w.pictureBytes⟩
  else .ok { w with shown := some f }

def colour? (w : Window) (x y : Int) : Except BadPlace Colour :=
  let column := onDesktop x
  let row := onDesktop y
  if !(Word64.signed x && Word64.signed y) then .error .noNumbers
  else if 0 ≤ column ∧ column < w.extent.1 ∧ 0 ≤ row ∧ row < w.extent.2 then
    match w.shown with
    | some f =>
      if w.dots = 0 then .ok ⟨0, 0, 0⟩
      else .ok (w.palette.colour (f.pixel (column.toNat / w.dots) (row.toNat / w.dots)))
    | none => .ok ⟨0, 0, 0⟩
  else .error .outside

end Window

end ChipEight

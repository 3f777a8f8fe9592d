import ChipEight.Word64

/-!
The screen of 64 columns and 32 rows. A row is a word of 64 bits whose most significant bit is
column 0; sprites are eight columns wide, are drawn by exclusive or, and are cut at the edges.
-/

namespace ChipEight

structure Framebuffer where
  rows : Vector (BitVec 64) 32
  dirty : Bool
  deriving DecidableEq

namespace Framebuffer

def width : Nat := 64

def height : Nat := 32

def spriteWidth : Nat := 8

def blank : Framebuffer := ⟨Vector.replicate 32 0, true⟩

def row (f : Framebuffer) (y : Nat) : BitVec 64 := f.rows[y]?.getD 0

def pixel (f : Framebuffer) (x y : Nat) : Bool := (f.row y).getMsbD x

def clear (_ : Framebuffer) : Framebuffer := blank

def markShown (f : Framebuffer) : Framebuffer := { f with dirty := false }

/-- A byte of a sprite laid across a row, its most significant bit at column `x`. Bits left of
column 0 and right of column 63 fall away. -/
def span (x : Int) (b : UInt8) : BitVec 64 :=
  let leftmost := b.toBitVec.setWidth 64 <<< 56
  if x ≤ -8 ∨ 64 ≤ x then 0
  else if 0 ≤ x then leftmost >>> x.toNat
  else leftmost <<< (-x).toNat

def overlay (rows : Vector (BitVec 64) 32) (x y : Int) : List UInt8 → Bool × Vector (BitVec 64) 32
  | [] => (false, rows)
  | b :: bs =>
    if 0 ≤ y ∧ y < 32 then
      let old := rows[y.toNat]?.getD 0
      let new := span x b
      let (hit, rows) := overlay (rows.setIfInBounds y.toNat (old ^^^ new)) x (y + 1) bs
      (old &&& new != 0 || hit, rows)
    else overlay rows x (y + 1) bs

def OnScreen (x y : Int) (rows : Nat) : Prop :=
  0 < rows ∧ y < 32 ∧ 0 < y + rows ∧ x < 64 ∧ 0 < x + 8

instance (x y : Int) (rows : Nat) : Decidable (OnScreen x y rows) :=
  inferInstanceAs (Decidable (_ ∧ _ ∧ _ ∧ _ ∧ _))

/-- Draws a sprite with its top left pixel at column `x` and row `y`; the answer is whether it put
out a lit pixel. -/
def draw (f : Framebuffer) (x y : Int) (sprite : List UInt8) : Bool × Framebuffer :=
  if OnScreen x y sprite.length then
    let (hit, rows) := overlay f.rows x y sprite
    (hit, ⟨rows, true⟩)
  else (false, f)

def litColumns (r : BitVec 64) : List Nat := (List.range 64).filter fun x => r.getMsbD x

def litCount (f : Framebuffer) : Nat := (f.rows.toList.flatMap litColumns).length

inductive BadPixel where
  | row (y : Int)
  | column (x : Int)
  /-- A number that fills a word of 64 bits, so that no room is left for its sign. -/
  | signLost
  | noNumber
  deriving DecidableEq, Repr

def outOfBounds (index : Int) (axis size : Nat) : String :=
  "index " ++ toString index ++ " is out of bounds for axis " ++ toString axis ++ " with size " ++
    toString size

namespace BadPixel

def message : BadPixel → String
  | row y => outOfBounds y 0 height
  | column x => outOfBounds x 1 width
  | signLost => "Python int too large to convert to C long"
  | noNumber =>
    "only integers, slices (`:`), ellipsis (`...`), numpy.newaxis (`None`) and integer or " ++
      "boolean arrays are valid indices"

def ofNumber? (i : Int) : Option BadPixel :=
  if Word64.signed i then none else some (if Word64.unsigned i then signLost else noNumber)

end BadPixel

/-- Negative positions count from the end. -/
def position? (bound : Nat) (i : Int) : Option Nat :=
  if 0 ≤ i ∧ i < bound then some i.toNat
  else if -bound ≤ i ∧ i < 0 then some (i + bound).toNat
  else none

/-- Both numbers are checked before the screen is looked at, the row always before the column. -/
def pixel? (f : Framebuffer) (x y : Int) : Except BadPixel Bool :=
  match (BadPixel.ofNumber? y).or (BadPixel.ofNumber? x) with
  | some e => .error e
  | none =>
    match position? height y, position? width x with
    | some y, some x => .ok (f.pixel x y)
    | none, _ => .error (.row y)
    | some _, none => .error (.column x)

def litRows (f : Framebuffer) : List (Nat × BitVec 64) :=
  f.rows.toList.zipIdx.filterMap fun (r, y) => if r = 0 then none else some (y, r)

end Framebuffer

end ChipEight

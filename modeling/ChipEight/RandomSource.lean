namespace ChipEight

structure SeedPool where
  key : UInt32
  words : Vector UInt32 4
  deriving DecidableEq

namespace SeedPool

def hash (factor key word : UInt32) : UInt32 × UInt32 :=
  let next := key * factor
  let v := (word ^^^ key) * next
  (v ^^^ (v >>> 16), next)

def mix (x y : UInt32) : UInt32 :=
  let r := 0xca01f9dd * x - 0x4973f715 * y
  r ^^^ (r >>> 16)

def stir (p : SeedPool) (word : UInt32) (d : Fin 4) : SeedPool :=
  let (v, key) := hash 0x931e8875 p.key word
  ⟨key, p.words.setIfInBounds d.val (mix (p.words.get d) v)⟩

def digits (seed : Nat) : List UInt32 :=
  (List.range (seed.log2 / 32 + 1)).map fun k => UInt32.ofNat (seed >>> (32 * k))

def fill (ds : List UInt32) : SeedPool :=
  (List.finRange 4).foldl (fun p (i : Fin 4) =>
    let (v, key) := hash 0x931e8875 p.key (ds[i]?.getD 0)
    ⟨key, p.words.setIfInBounds i.val v⟩) ⟨0x43b0d7e5, Vector.replicate 4 0⟩

def spread (p : SeedPool) : SeedPool :=
  (List.finRange 4).foldl (fun p s =>
    ((List.finRange 4).filter (· ≠ s)).foldl (fun p d => p.stir (p.words.get s) d) p) p

def ofSeed (seed : Nat) : SeedPool :=
  let ds := digits seed
  (ds.drop 4).foldl (fun p w => (List.finRange 4).foldl (fun p d => p.stir w d) p)
    (spread (fill ds))

def output (p : SeedPool) : List UInt32 :=
  ((List.range 8).foldl (fun (ws, key) i =>
    let (v, key) := hash 0x58f38ded key (p.words[i % 4]?.getD 0)
    (ws ++ [v], key)) (([] : List UInt32), (0x8b51f9dd : UInt32))).1

def number (p : SeedPool) (j : Nat) : UInt64 :=
  let word (i : Nat) := (p.output[i]?.getD 0).toUInt64
  word (2 * j) ||| word (2 * j + 1) <<< 32

end SeedPool

/-- A linear congruential generator of 128 bits. Each of its outputs gives two bytes. -/
structure Generator where
  state : BitVec 128
  increment : BitVec 128
  pending : Option UInt8
  deriving DecidableEq

namespace Generator

def next (g : Generator) : Generator :=
  { g with state := g.state * 0x2360ed051fc65da44385df649fccf645 + g.increment }

def ofSeed (seed : Nat) : Generator :=
  let w := (SeedPool.ofSeed seed).number
  let join (high low : UInt64) : BitVec 128 := high.toBitVec ++ low.toBitVec
  let increment := join (w 2) (w 3) <<< 1 ||| 1
  next ⟨increment + join (w 0) (w 1), increment, none⟩

/-- The two halves of the state, folded and rotated by its top six bits. -/
def word (g : Generator) : BitVec 64 :=
  (g.state.extractLsb' 64 64 ^^^ g.state.extractLsb' 0 64).rotateRight (g.state >>> 122).toNat

def draw (g : Generator) : UInt8 × Generator :=
  match g.pending with
  | some b => (b, { g with pending := none })
  | none =>
    let g := g.next
    (⟨g.word.extractLsb' 24 8⟩, { g with pending := some ⟨g.word.extractLsb' 56 8⟩ })

end Generator

inductive RandomSource where
  | cycle (values : Array UInt8) (position : Nat)
  | generator (g : Generator)
  deriving DecidableEq

structure BadSeed where
  seed : Int
  deriving DecidableEq, Repr

def BadSeed.message (_ : BadSeed) : String := "expected non-negative integer"

namespace RandomSource

def seeded? (seed : Int) : Except BadSeed RandomSource :=
  if seed < 0 then .error ⟨seed⟩ else .ok (.generator (Generator.ofSeed seed.toNat))

def draw : RandomSource → UInt8 × RandomSource
  | cycle values position =>
    (values[position % values.size]?.getD 0, cycle values (position + 1))
  | generator g =>
    let (b, g) := g.draw
    (b, generator g)

end RandomSource

end ChipEight

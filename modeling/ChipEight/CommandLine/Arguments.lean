import ChipEight.Schedule
import ChipEight.Text.Integer
import ChipEight.Window

/-!
The arguments of the command line: options, which may be shortened as long as only one fits, and
at most one program. A double dash ends the options.
-/

namespace ChipEight.CommandLine

structure Arguments where
  program : Option String
  glyphs : Option String
  /-- Instructions a second; 0 sets no limit. -/
  rate : Int
  /-- The scale of the window, unless it was left without a value. -/
  scale : Option Int
  modernShift : Bool
  strict : Bool
  mute : Bool
  listing : Int
  debug : Bool
  verbose : Bool
  deriving DecidableEq, Repr

def Arguments.standard : Arguments where
  program := none
  glyphs := none
  rate := Schedule.defaultInstructionRate
  scale := some Window.defaultScale
  modernShift := false
  strict := false
  mute := false
  listing := 0
  debug := false
  verbose := false

inductive Choice where
  | help
  | flag (set : Arguments → Arguments)
  | path (set : Option String → Arguments → Arguments)
  | number (set : Option Int → Arguments → Arguments)

def choices : List (String × Choice) :=
  [("--help", .help),
   ("--font", .path fun path a => { a with glyphs := path }),
   ("--ips", .number fun n a => { a with rate := n.getD 0 }),
   ("--scale", .number fun n a => { a with scale := n }),
   ("--modern-shift", .flag fun a => { a with modernShift := true }),
   ("--strict", .flag fun a => { a with strict := true }),
   ("--mute", .flag fun a => { a with mute := true }),
   ("--disassemble", .number fun n a => { a with listing := n.getD 0 }),
   ("--debug", .flag fun a => { a with debug := true }),
   ("--verbose", .flag fun a => { a with verbose := true })]

inductive Misuse where
  | ambiguous (option : String)
  | unexpectedValue (value : String)
  | missingValue
  | notInteger (value : String)
  | leftOver (arguments : List String)
  deriving DecidableEq, Repr

def Misuse.message : Misuse → String
  | ambiguous option => "ambiguous option: " ++ option
  | unexpectedValue value => "ignored explicit argument " ++ value
  | missingValue => "expected one argument"
  | notInteger value => "invalid int value: " ++ value
  | leftOver arguments => "unrecognized arguments: " ++ " ".intercalate arguments

inductive Token where
  | operand (text : String)
  | choice (c : Choice) (attached : Option String)
  | unknown (text : String)
  | divider

/-- A number below zero, with or without a fraction; a line break may follow. -/
def negativeNumber (s : String) : Bool :=
  let digits (cs : List Char) := !cs.isEmpty && cs.all fun c => (Text.digit? c).isSome
  match s.toList with
  | '-' :: cs =>
    let cs := if cs.getLast? = some '\n' then cs.dropLast else cs
    let whole := cs.takeWhile (· ≠ '.')
    match cs.dropWhile (· ≠ '.') with
    | [] => digits whole
    | _ :: fraction => (whole.isEmpty || digits whole) && digits fraction
  | _ => false

def splitValue (s : String) : String × Option String :=
  let cs := s.toList
  match cs.dropWhile (· ≠ '=') with
  | [] => (s, none)
  | _ :: value => (String.ofList (cs.takeWhile (· ≠ '=')), some (String.ofList value))

/-- A short option can only ask for help. Its letter may be repeated, also behind an equals sign;
anything else is a value, which it does not take. -/
def shortToken (letters : List Char) : Token :=
  let value := if letters.head? = some '=' then letters.tail else letters
  let repeated := !value.isEmpty && value.all (· = 'h')
  .choice .help (if letters.isEmpty || repeated then none else some (String.ofList value))

/-- An option in full wins over those that it shortens. -/
def optionToken (s : String) : Except Misuse Token :=
  let (name, attached) := splitValue s
  match choices.lookup name with
  | some c => .ok (.choice c attached)
  | none =>
    match choices.filter fun c => name.isPrefixOf c.1 with
    | [] => .ok (if s.contains ' ' then .operand s else .unknown s)
    | [c] => .ok (.choice c.2 attached)
    | _ => .error (.ambiguous s)

def token (s : String) : Except Misuse Token :=
  match s.toList with
  | '-' :: '-' :: _ => optionToken s
  | '-' :: 'h' :: letters => .ok (shortToken letters)
  | '-' :: _ :: _ =>
    .ok (if negativeNumber s || s.contains ' ' then .operand s else .unknown s)
  | _ => .ok (.operand s)

def tokens : List String → Except Misuse (List Token)
  | [] => .ok []
  | "--" :: rest => .ok (.divider :: rest.map .operand)
  | s :: rest => do return (← token s) :: (← tokens rest)

inductive Request where
  | help
  | execute (a : Arguments)

structure Reading where
  arguments : Arguments
  placed : Bool
  leftOver : List String

namespace Reading

def start : Reading := ⟨.standard, false, []⟩

def change (r : Reading) (f : Arguments → Arguments) : Reading :=
  { r with arguments := f r.arguments }

def place (r : Reading) (program : Option String) : Reading :=
  { r with arguments := { r.arguments with program := program }, placed := true }

def leave (r : Reading) (s : String) : Reading := { r with leftOver := r.leftOver ++ [s] }

/-- The value of an option; a double dash in its place leaves it out. -/
def given (value : String) : Option String := if value = "--" then none else some value

def setPath (r : Reading) (set : Option String → Arguments → Arguments) (value : String) :
    Reading :=
  r.change (set (given value))

def setNumber (r : Reading) (set : Option Int → Arguments → Arguments) (value : String) :
    Except Misuse Reading :=
  match given value with
  | none => .ok (r.change (set none))
  | some digits =>
    match Text.integer? digits with
    | some n => .ok (r.change (set (some n)))
    | none => .error (.notInteger digits)

end Reading

/-- Reads the arguments from left to right. Help is given at once; what is left over is refused at
the end. A divider next to the program belongs to it. -/
def interpret (r : Reading) : List Token → Except Misuse Request
  | [] => if r.leftOver.isEmpty then .ok (.execute r.arguments) else .error (.leftOver r.leftOver)
  | .choice .help none :: _ => .ok .help
  | .choice .help (some value) :: _ => .error (.unexpectedValue value)
  | .choice (.flag set) none :: rest => interpret (r.change set) rest
  | .choice (.flag _) (some value) :: _ => .error (.unexpectedValue value)
  | .choice (.path set) (some value) :: rest => interpret (r.setPath set value) rest
  | .choice (.path set) none :: .operand value :: rest => interpret (r.setPath set value) rest
  | .choice (.path _) none :: _ => .error .missingValue
  | .choice (.number set) (some value) :: rest => do
    interpret (← r.setNumber set value) rest
  | .choice (.number set) none :: .operand value :: rest => do
    interpret (← r.setNumber set value) rest
  | .choice (.number _) none :: _ => .error .missingValue
  | .unknown s :: rest => interpret (r.leave s) rest
  | .operand s :: .divider :: rest =>
    if r.placed then interpret ((r.leave s).leave "--") rest
    else interpret (r.place (some s)) rest
  | .operand s :: rest => if r.placed then interpret (r.leave s) rest
    else interpret (r.place (some s)) rest
  | .divider :: .operand s :: rest =>
    if r.placed then interpret ((r.leave "--").leave s) rest
    else interpret (r.place (some s)) rest
  | .divider :: rest => if r.placed then interpret (r.leave "--") rest
    else interpret (r.place none) rest

def Request.parse (arguments : List String) : Except Misuse Request := do
  interpret .start (← tokens arguments)

end ChipEight.CommandLine

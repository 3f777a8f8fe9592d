/-!
A working folder with its files, and the paths that lead to them. Empty components and single dots
are passed over; two dots lead from a folder to the one that holds it.
-/

namespace ChipEight

inductive Entry where
  | missing
  | folder
  | file (bytes : List UInt8)
  /-- The path cannot be followed, for it has a name that is too long, or is too long itself. -/
  | tooLong
  deriving DecidableEq, Repr

structure Disk where
  folders : List (List String)
  files : List (List String × List UInt8)

namespace Disk

def empty : Disk := ⟨[], []⟩

def components (path : String) : List String :=
  (path.splitOn "/").filter fun c => c ≠ "" ∧ c ≠ "."

def name (path : String) : String := (components path).getLast?.getD ""

/-- The slashes that a path from the root begins with: two stay two, any other number is one. -/
def root (path : String) : String :=
  match (path.toList.takeWhile (· = '/')).length with
  | 0 => ""
  | 2 => "//"
  | _ => "/"

def tidy (path : String) : String :=
  let tidied := root path ++ "/".intercalate (components path)
  if tidied = "" then "." else tidied

def enter (place : List String) (c : String) : List String :=
  if c = ".." then place.dropLast else place ++ [c]

def follow (place : List String) : List String → List String × List (List String)
  | [] => (place, [])
  | c :: rest =>
    let (reached, passed) := follow (enter place c) rest
    (reached, place :: passed)

def addFolder (d : Disk) (path : String) : Disk :=
  let (reached, passed) := follow [] (components path)
  { d with folders := reached :: passed ++ d.folders }

def addFile (d : Disk) (path : String) (bytes : List UInt8) : Disk :=
  let (reached, passed) := follow [] (components path)
  { folders := passed ++ d.folders, files := (reached, bytes) :: d.files }

def entryAt (d : Disk) (place : List String) : Entry :=
  match d.files.find? (·.1 = place) with
  | some f => .file f.2
  | none => if place = [] || d.folders.contains place then .folder else .missing

def nameLimit : Nat := 255

def pathLimit : Nat := 4095

def belowRoot : List String → Entry
  | [] => .folder
  | c :: rest =>
    if c = ".." then belowRoot rest
    else if nameLimit < c.utf8ByteSize then .tooLong
    else .missing

/-- Walks on from a place inside the working folder, given by its components, or from a folder
`above` levels over it. Only a folder leads further. -/
def walk (d : Disk) (above : Nat) (place : List String) : List String → Entry
  | [] => if above = 0 then d.entryAt place else .folder
  | c :: rest =>
    if above = 0 then
      match d.entryAt place with
      | .folder =>
        if nameLimit < c.utf8ByteSize then .tooLong
        else if c = ".." && place = [] then walk d 1 [] rest
        else walk d 0 (enter place c) rest
      | _ => .missing
    else if c = ".." then walk d (above + 1) [] rest
    else if nameLimit < c.utf8ByteSize then .tooLong
    else .missing

/-- What stands behind a path; nothing if a zero character is in it. -/
def entry (d : Disk) (path : String) : Entry :=
  if path.contains '\x00' then .missing
  else if pathLimit < (tidy path).utf8ByteSize then .tooLong
  else if root path = "" then d.walk 0 [] (components path)
  else belowRoot (components path)

end Disk

end ChipEight

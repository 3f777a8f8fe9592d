import ChipEight.CommandLine.Session

namespace ChipEight.CommandLine

def behind (path : String) : IO Entry := do
  try return .file (← IO.FS.readBinFile (Disk.tidy path)).toList
  catch
    | .inappropriateType _ 21 _ => return .folder
    | .invalidArgument _ 22 _ => return .missing
    | .invalidArgument .. => return .tooLong
    | .noFileOrDirectory .. => return .missing
    | .inappropriateType .. => return .missing
    | _ => return .folder

def seconds : IO Float := return (← IO.monoNanosNow).toFloat / 1e9

def tell (j : Journal) : IO Unit := j.toList.forM fun r => IO.eprintln r.text

partial def drive (l : Loop Float (Desktop Float)) :
    IO (Outcome Failure (Loop Float (Desktop Float)) Unit) := do
  let m := l.machine
  tell m.journal
  let now ← seconds
  let m := { m with host := m.host.setClock now, journal := .empty m.journal.threshold }
  match Loop.turn Desktop.host noLimits { l with machine := m } with
  | .failed e l => return .failed e l
  | .done false l => return .done () l
  | .done true l =>
    IO.sleep (l.machine.host.slept * 1000).toUInt32
    drive l

def finish (t : Transcript Float) : IO UInt32 := do
  tell t.journal
  IO.print t.output
  match t.ending with
  | .exit status => return UInt32.ofNat status
  | .aborted (.failure e) => IO.eprintln e.message
  | .aborted (.frequency e) => IO.eprintln e.message
  | .aborted (.window e) => IO.eprintln e.message
  | .aborted (.tone e) => IO.eprintln e.message
  return 1

def session (a : Arguments) : IO UInt32 := do
  let program ← behind (a.program.getD "")
  let glyphs ← behind (a.glyphs.getD "")
  let w : Workplace Float :=
    { files := fun path => if a.program = some path then program else glyphs
      windows := true
      sound := .missing "no device"
      level := .error
      events := []
      start := ← seconds
      step := 0 }
  match prepare w a with
  | .over t => finish t
  | .ready output m =>
    IO.print output
    finish (conclude "" (Loop.finish Desktop.host (← drive (Loop.start Desktop.host m))))

end ChipEight.CommandLine

open ChipEight.CommandLine in
def main (arguments : List String) : IO UInt32 := do
  match Request.parse arguments with
  | .error e =>
    IO.eprintln e.message
    return 2
  | .ok .help => return 0
  | .ok (.execute a) => session a

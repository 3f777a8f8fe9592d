import ChipEight.Machine.Basic

/-!
The main loop. A turn asks the window, grants a batch of cycles, and shows a frame or sleeps. The
question whether to stop is put before every cycle and once more at the start of a turn.
-/

namespace ChipEight

variable {τ η : Type} [TimeScale τ]

structure Loop (τ η : Type) where
  machine : Machine τ η
  cycles : Nat

namespace Loop

omit [TimeScale τ] in
/-- Asks whether to stop. A positive answer stops the machine. -/
def cancelled (lim : Limits τ η) (l : Loop τ η) : Outcome Failure (Loop τ η) Bool :=
  let m := l.machine
  let spent := lim.maxCycles.any (· ≤ (l.cycles : Int))
  if !m.running then .done true l
  else
    match lim.shouldStop with
    | none => .done spent l
    | some ask =>
      match ask m.processor m.host with
      | (.error e, host) => .failed (.question e) { l with machine := { m with host } }
      | (.ok verdict, host) =>
        let running := !verdict.answer && !verdict.stopped
        .done (verdict.answer || spent) { l with machine := { m with host, running } }

def batch (h : Host τ η) (lim : Limits τ η) : Nat → Loop τ η → Outcome Failure (Loop τ η) Unit
  | 0, l => .done () l
  | budget + 1, l =>
    match l.cancelled lim with
    | .failed e l => .failed e l
    | .done true l => .done () l
    | .done false l =>
      match l.machine.tick h with
      | .failed e m => .failed e { l with machine := m }
      | .done _ m => batch h lim budget ⟨m, l.cycles + 1⟩

def heartbeatFrames : Nat := 60

omit [TimeScale τ] in
def showScreen (h : Host τ η) (m : Machine τ η) : Except Storage.Exhausted (Machine τ η) :=
  if h.hasWindow m.host && m.processor.screen.dirty then
    match h.present m.processor.screen m.host with
    | .error e => .error e
    | .ok host =>
      .ok { m with
        host
        processor := { m.processor with screen := m.processor.screen.markShown } }
  else .ok m

omit [TimeScale τ] in
def endFrame (h : Host τ η) (m : Machine τ η) : Machine τ η :=
  let m :=
    if h.hasSound m.host then { m with host := h.setSound m.processor.timer.sounding m.host } else m
  let m := { m with frames := m.frames + 1 }
  if m.frames % heartbeatFrames = 0 then
    let p := m.processor
    m.report [.heartbeat p.registers.pc p.executed p.timer.delay p.timer.sound]
  else m

omit [TimeScale τ] in
def pollWindow (h : Host τ η) (m : Machine τ η) : Bool × Machine τ η :=
  if h.hasWindow m.host then
    let (poll, host) := h.poll m.host
    let m := { m with host := host }
    match poll with
    | .interrupted => (true, m)
    | .events keys goOn =>
      let m := m.applyKeys keys
      (false, if goOn then m else m.stop)
  else (false, m)

/-- The end of a turn: a frame if one is due, and otherwise, if no cycle was granted, sleep. -/
def rest (h : Host τ η) (budget : Nat) (l : Loop τ η) : Outcome Failure (Loop τ η) Bool :=
  let m := l.machine
  let (now, host) := h.readClock m.host
  let m := { m with host := host }
  match m.schedule.frameDue now with
  | .error e => .failed (.clock e) { l with machine := m }
  | .ok (due, schedule) =>
    let m := { m with schedule := schedule }
    if due then
      match showScreen h m with
      | .error e => .failed (.picture e) { l with machine := m }
      | .ok m => .done true { l with machine := endFrame h m }
    else if budget = 0 then
      let (now, host) := h.readClock m.host
      let host := h.sleep (m.schedule.idleTime now) host
      .done true { l with machine := { m with host := host } }
    else .done true { l with machine := m }

/-- The answer is whether another turn follows. -/
def turn (h : Host τ η) (lim : Limits τ η) (l : Loop τ η) : Outcome Failure (Loop τ η) Bool :=
  match pollWindow h l.machine with
  | (true, m) => .done false { l with machine := m }
  | (false, m) =>
    match cancelled lim { l with machine := m } with
    | .failed e l => .failed e l
    | .done true l => .done false l
    | .done false l =>
      let m := l.machine
      let (now, host) := h.readClock m.host
      let m := { m with host := host }
      match m.schedule.instructionsDue now with
      | .error e => .failed (.clock e) { l with machine := m }
      | .ok (budget, schedule) =>
        match batch h lim budget { l with machine := { m with schedule := schedule } } with
        | .failed e l => .failed e l
        | .done _ l => rest h budget l

def turns (h : Host τ η) (lim : Limits τ η) :
    Nat → Loop τ η → Option (Outcome Failure (Loop τ η) Unit)
  | 0, _ => none
  | fuel + 1, l =>
    match turn h lim l with
    | .failed e l => some (.failed e l)
    | .done false l => some (.done () l)
    | .done true l => turns h lim fuel l

/-- A run begins with the clock: what has passed before does not count. -/
def start (h : Host τ η) (m : Machine τ η) : Loop τ η :=
  let (now, host) := h.readClock m.host
  let m := { m with host, running := true, fault := none, schedule := m.schedule.restart now }
  ⟨m.report [.loopStarted], 0⟩

omit [TimeScale τ] in
def cleanUp (h : Host τ η) (m : Machine τ η) : Machine τ η :=
  let m := m.stop
  let m := if h.hasSound m.host then { m with host := h.setSound false m.host } else m
  if h.hasWindow m.host then
    let (reports, host) := h.closeWindow m.host
    { m with host := host }.report reports
  else m

omit [TimeScale τ] in
def finish (h : Host τ η) : Outcome Failure (Loop τ η) Unit → Outcome Failure (Machine τ η) Nat
  | .done _ l => .done l.cycles ((cleanUp h l.machine).report [.loopStopped l.cycles])
  | .failed (.fault f) l =>
    let m := { l.machine with fault := some f }
    .failed (.fault f) (cleanUp h (m.report [.fatalFault m.processor.registers.pc f]))
  | .failed e l => .failed e (cleanUp h l.machine)

end Loop

/-- A whole run; none if it is not over after `fuel` turns. -/
def Machine.run (h : Host τ η) (lim : Limits τ η) (fuel : Nat) (m : Machine τ η) :
    Option (Outcome Failure (Machine τ η) Nat) :=
  (Loop.turns h lim fuel (Loop.start h m)).map (Loop.finish h)

end ChipEight

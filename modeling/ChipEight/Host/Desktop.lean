import ChipEight.Host
import ChipEight.TimeScale
import ChipEight.Tone
import ChipEight.Window

/-!
A host with a window and a tone. The events wait in queues, one for each time that the window is
asked; the clock moves by a fixed step at every reading, and by all that is slept.
-/

namespace ChipEight

structure Desktop (τ : Type) where
  now : τ
  step : τ
  slept : τ
  window : Option Window
  beeper : Option Beeper
  queues : List (List WindowEvent)

namespace Desktop

variable {τ : Type} [TimeScale τ]

def start (now step : τ) (queues : List (List WindowEvent)) : Desktop τ :=
  ⟨now, step, TimeScale.zero, none, none, queues⟩

def setClock (d : Desktop τ) (now : τ) : Desktop τ := { d with now := now, slept := TimeScale.zero }

omit [TimeScale τ] in
def pollWindow (d : Desktop τ) : Poll × Desktop τ :=
  let (keys, stays) := WindowEvent.readQueue (d.queues.head?.getD [])
  (.events keys stays, { d with queues := d.queues.tail })

omit [TimeScale τ] in
def present (f : Framebuffer) (d : Desktop τ) : Except Storage.Exhausted (Desktop τ) :=
  match d.window with
  | none => .ok d
  | some w =>
    match w.present? f with
    | .error e => .error e
    | .ok w => .ok { d with window := some w }

def host : Host τ (Desktop τ) where
  readClock d := (d.now + d.step, { d with now := d.now + d.step })
  sleep t d := { d with now := d.now + t, slept := d.slept + t }
  hasWindow d := d.window.isSome
  poll := pollWindow
  present := present
  closeWindow d := ([.windowClosed], d)
  hasSound d := d.beeper.isSome
  setSound on d := { d with beeper := d.beeper.map (·.set on) }

end Desktop

end ChipEight

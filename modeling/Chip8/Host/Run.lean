import Chip8.Host

/-!
A run of the host: one step for every reading of the clock, until the keys ask to quit, something
fails or the clock gives out. What was drawn last is shown before a run that was asked to quit
ends.
-/

namespace Chip8

/-- A clock that can be read a limited number of times. A reading beyond all doubles fails. -/
structure Clock where
  time? : Nat → Option Float
  limit : Nat

namespace Clock

/-- A clock whose readings are evenly spaced, in microseconds. -/
def steady (start step : Int) (limit : Nat) : Clock where
  time? reading := Time.ofMicroseconds? (start + reading * step)
  limit := limit

end Clock

namespace Host

variable {δ σ : Type} [Display δ] [KeySource σ]

inductive RunEnd where
  | quit
  | clockStopped
  | failed (fault : Fault)
  deriving DecidableEq, Repr

/-- The outcome of a run, with the lines that were written and the readings of the clock. -/
structure Run (δ σ : Type) where
  host : Host δ σ
  ending : RunEnd
  lines : Array String
  readings : Nat

/-- One turn of the loop at a time: a step, and the last refresh if it asks to quit. The answer is
the line that was written, and how the run ends if it ends here. -/
def turn (host : Host δ σ) (time : Float) : Host δ σ × Option String × Option RunEnd :=
  let (host, reply) := host.step time
  match reply.fault, reply.quit with
  | some fault, _ => (host, reply.trace, some (.failed fault))
  | none, true =>
      let (host, fault) := host.refresh false
      (host, reply.trace, some ((fault.map RunEnd.failed).getD .quit))
  | none, false => (host, reply.trace, none)

/-- A run after `readings` readings of the clock, with `left` more to come. Before a reading
returns, `arrive` brings the events of that reading to the keys. -/
def runFrom (time? : Nat → Option Float) (arrive : Nat → σ → σ) :
    (left readings : Nat) → (lines : Array String) → Host δ σ → Run δ σ
  | 0, readings, lines, host => { host, ending := .clockStopped, lines, readings }
  | left + 1, readings, lines, host =>
      match time? readings with
      | none => { host, ending := .failed .beyondDoubles, lines, readings }
      | some time =>
          let (host, trace, ending) := { host with keys := arrive readings host.keys }.turn time
          let lines := lines ++ trace.toArray
          match ending with
          | some ending => { host, ending, lines, readings := readings + 1 }
          | none => runFrom time? arrive left (readings + 1) lines host

/-- Runs the host by a clock. -/
def run (host : Host δ σ) (clock : Clock) (arrive : Nat → σ → σ) : Run δ σ :=
  runFrom clock.time? arrive clock.limit 0 #[] host

end Host

end Chip8

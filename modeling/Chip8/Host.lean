import Chip8.ClockSpeed
import Chip8.Display
import Chip8.KeySource
import Chip8.Machine

/-!
The host drives a machine in time. Four things fall due at times of their own: a report of the
rates, an update of the display, a tick of the timers and a cycle. A step at a given time does
what is due, in that order and each at most once, and sets the next time from the given one, so
nothing is made up for. Keys are polled with the display, and an answer to quit ends the step;
every cycle starts with the latest key states.
-/

namespace Chip8

/-- When each activity falls due next. -/
structure Deadlines where
  report : Float := 0.0
  update : Float := 0.0
  tick : Float := 0.0
  cycle : Float := 0.0

structure Host (δ σ : Type) where
  machine : Machine
  keys : σ
  display : δ
  /-- Seconds from one cycle to the next. -/
  interval : Float
  /-- Everything is due straight away. -/
  deadlines : Deadlines := {}
  /-- Updates of the display since the last report. -/
  updates : Nat := 0
  /-- Cycles that have not failed since the last report. -/
  cycles : Nat := 0

namespace Host

variable {δ σ : Type} [Display δ] [KeySource σ]

/-- Cycles in a second, where no other number is given. -/
def defaultClockSpeed : Int := 500

inductive Fault where
  | machine (failure : Machine.Failure)
  | display (fault : Display.Fault)
  /-- Time and clock speed are beyond all doubles, or the time is not finite. -/
  | beyondDoubles
  deriving DecidableEq, Repr

def Fault.message : Fault → String
  | .machine failure => failure.fault.message
  | .display fault => fault.message
  | .beyondDoubles => "The time or the clock speed is out of range"

/-- What a step has to say beside the next state. -/
structure Reply where
  quit : Bool := false
  fault : Option Fault := none
  trace : Option String := none

/-! ### Display -/

/-- Hands the picture to the display if it is newer than the last, or always by `force`. -/
def refresh (host : Host δ σ) (force : Bool) : Host δ σ × Option Fault :=
  if force || host.machine.screen.mark.stale then
    match Display.drawFrame host.display host.machine.screen.dump with
    | (display, some fault) => ({ host with display }, some (.display fault))
    | (display, none) =>
        let screen := host.machine.screen.setMark .shown
        ({ host with display, machine := { host.machine with screen } }, none)
  else
    (host, none)

/-- The title that tells the rates. -/
def rateTitle (updates cycles : String) : String :=
  Banner.name ++ " - " ++ updates ++ " FPS, " ++ cycles ++ " OPS"

/-- Shows a title. -/
def showTitle (host : Host δ σ) (title : String) : Host δ σ × Option Fault :=
  let (display, fault) := Display.setTitle host.display title
  ({ host with display }, fault.map .display)

/-- Shows the rates in the title. -/
def reportRates (host : Host δ σ) (updates cycles : Nat) : Host δ σ × Option Fault :=
  host.showTitle (rateTitle (toString updates) (toString cycles))

/-! ### Building -/

inductive BuildFault where
  | clockSpeedNotPositive
  | host (fault : Fault)
  deriving DecidableEq, Repr

def BuildFault.message : BuildFault → String
  | .clockSpeedNotPositive => "Clock speed must be a positive number of operations per second"
  | .host fault => fault.message

/-- The seconds between two cycles at a clock speed. -/
def intervalOf (clockSpeed : ClockSpeed) : Except BuildFault Float :=
  if clockSpeed.isPositive then
    match clockSpeed.interval? with
    | some interval => .ok interval
    | none => .error (.host .beyondDoubles)
  else
    .error .clockSpeedNotPositive

/-- A host around a machine, with its picture already on the display. -/
def build (machine : Machine) (keys : σ) (display : δ) (clockSpeed : ClockSpeed) :
    Except BuildFault (Host δ σ) := do
  let interval ← intervalOf clockSpeed
  match Display.setResolution display Machine.screenWidth Machine.screenHeight with
  | (_, some fault) => throw (.host (.display fault))
  | (display, none) =>
      match refresh { machine, keys, display, interval } true with
      | (_, some fault) => throw (.host fault)
      | (host, none) => return host

/-! ### Steps -/

/-- Reports the rates since the last report, and starts to count again. -/
def reportStage (host : Host δ σ) (time : Float) : Host δ σ × Option Fault :=
  if host.deadlines.report ≤ time then
    if time.isInf then (host, some .beyondDoubles) else
    let report := Time.wholeSeconds time + 1.0
    let host := { host with deadlines := { host.deadlines with report } }
    match host.reportRates host.updates host.cycles with
    | (host, some fault) => (host, some fault)
    | (host, none) => ({ host with updates := 0, cycles := 0 }, none)
  else
    (host, none)

/-- How an update of the display, due or not, ends. -/
inductive UpdateEnd where
  | done
  | quit
  | failed (fault : Fault)
  deriving DecidableEq, Repr

/-- Polls the keys and updates the display, unless the poll asks to quit. -/
def updateStage (host : Host δ σ) (time : Float) : Host δ σ × UpdateEnd :=
  if host.deadlines.update ≤ time then
    match KeySource.poll host.keys with
    | (true, keys) => ({ host with keys }, .quit)
    | (false, keys) =>
        let update := time + Time.refreshInterval
        let host := { host with keys, deadlines := { host.deadlines with update } }
        match host.refresh false with
        | (host, some fault) => (host, .failed fault)
        | (host, none) => ({ host with updates := host.updates + 1 }, .done)
  else
    (host, .done)

/-- Ticks the timers. -/
def tickStage (host : Host δ σ) (time : Float) : Host δ σ :=
  if host.deadlines.tick ≤ time then
    let tick := time + Time.tickInterval
    { host with deadlines := { host.deadlines with tick }, machine := host.machine.tick }
  else
    host

/-- Runs a cycle of the machine with the latest key states. -/
def cycleStage (host : Host δ σ) (time : Float) : Host δ σ × Reply :=
  if host.deadlines.cycle ≤ time then
    let cycle := time + host.interval
    let host := { host with deadlines := { host.deadlines with cycle } }
    match host.machine.setKeys (KeySource.states host.keys).toList with
    | (machine, some fault) =>
        ({ host with machine }, { fault := some (.machine { fault, report := none }) })
    | (machine, none) =>
        let (machine, reply) := machine.cycle
        let host := { host with machine }
        match reply.failure with
        | some failure => (host, { fault := some (.machine failure), trace := reply.trace })
        | none => ({ host with cycles := host.cycles + 1 }, { trace := reply.trace })
  else
    (host, {})

/-- Does what is due at a time. -/
def step (host : Host δ σ) (time : Float) : Host δ σ × Reply :=
  match host.reportStage time with
  | (host, some fault) => (host, { fault := some fault })
  | (host, none) =>
      match host.updateStage time with
      | (host, .quit) => (host, { quit := true })
      | (host, .failed fault) => (host, { fault := some fault })
      | (host, .done) => (host.tickStage time).cycleStage time

end Host

end Chip8

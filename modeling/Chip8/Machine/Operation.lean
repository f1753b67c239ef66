import Chip8.Machine

/-!
What a host can do with a machine, as data, and runs of such operations. A run goes on after an
operation that fails, as a host may.
-/

namespace Chip8

namespace Machine

inductive Operation where
  | loadProgram (program : List UInt8)
  | cycle
  | tick
  | reset
  | pause
  | resume
  | setKey (key : Int) (down : Bool)
  | setKeys (states : List Bool)
  deriving DecidableEq, Repr

/-- The outcome of an operation that writes: the machine that is left, and the failure if there is
one. -/
def settle : Machine × Option Fault → Machine × Reply
  | (left, none) => (left, {})
  | (left, some fault) => (left, { failure := some { fault, report := none } })

def apply (machine : Machine) : Operation → Machine × Reply
  | .loadProgram program => settle (machine.loadProgram program)
  | .cycle => machine.cycle
  | .tick => (machine.tick, {})
  | .reset => (machine.reset, {})
  | .pause => (machine.pause, {})
  | .resume => (machine.resume, {})
  | .setKey key down => settle (machine.setKey key down)
  | .setKeys states => settle (machine.setKeys states)

/-- Applies operations one after the other, with the reply of each. -/
def run (machine : Machine) : List Operation → Machine × List Reply
  | [] => (machine, [])
  | operation :: rest =>
      let (next, reply) := machine.apply operation
      let (last, replies) := next.run rest
      (last, reply :: replies)

/-- Every operation has its reply. -/
@[simp] theorem length_replies_run (operations : List Operation) (machine : Machine) :
    (machine.run operations).2.length = operations.length := by
  induction operations generalizing machine with
  | nil => rfl
  | cons operation rest ih => simp [run, ih]

/-- A run of operations can be broken off and taken up again. -/
theorem run_append (first second : List Operation) (machine : Machine) :
    machine.run (first ++ second) =
      (((machine.run first).1.run second).1,
        (machine.run first).2 ++ ((machine.run first).1.run second).2) := by
  induction first generalizing machine with
  | nil => rfl
  | cons operation rest ih => simp [run, ih]

/-- Applies operations up to the first that fails, and adds the lines that are written to
`lines`. -/
def runUntilFailure (lines : Array String) (machine : Machine) :
    List Operation → Machine × Array String × Option Failure
  | [] => (machine, lines, none)
  | operation :: rest =>
      let (next, reply) := machine.apply operation
      let lines := lines ++ reply.trace.toArray
      match reply.failure with
      | some failure => (next, lines, some failure)
      | none => runUntilFailure lines next rest

end Machine

end Chip8

import Chip8.CallStack

/-!
What can be asked of a call stack, as data.
-/

namespace Chip8.CallStack

inductive Request where
  | push (item : Int)
  | pop
  | clear
  | isEmpty
  deriving DecidableEq, Repr

inductive Answer where
  | done
  | item (item : Int)
  | truth (truth : Bool)
  deriving DecidableEq, Repr

abbrev Reply := Except Fault Answer

def apply (stack : CallStack) : Request → CallStack × Reply
  | .push item =>
      let (left, fault) := stack.push item
      (left, fault.elim (.ok .done) .error)
  | .pop =>
      let (left, popped) := stack.pop
      (left, popped.map .item)
  | .clear => (stack.clear, .ok .done)
  | .isEmpty => (stack, .ok (.truth stack.isEmpty))

end Chip8.CallStack

/-!
The bounded stack of return addresses. A push onto a full stack and a pop from an empty one are
refused; a stack of capacity zero or less is always full. Both answer the stack that they leave,
also when they are refused.
-/

namespace Chip8

structure CallStack where
  capacity : Int
  /-- The entries, newest first. -/
  entries : List Int := []
  deriving DecidableEq, Repr

namespace CallStack

/-- Levels of nesting that the machine allows. -/
def depthLimit : Nat := 16

inductive Fault where
  | overflow
  | underflow
  deriving DecidableEq, Repr

def Fault.message : Fault → String
  | .overflow => "Stack overflow"
  | .underflow => "Stack underflow"

/-- The entries, oldest first. -/
def toList (stack : CallStack) : List Int := stack.entries.reverse

def isEmpty (stack : CallStack) : Bool := stack.entries.isEmpty

def push (stack : CallStack) (item : Int) : CallStack × Option Fault :=
  if stack.capacity ≤ stack.entries.length then (stack, some .overflow)
  else ({ stack with entries := item :: stack.entries }, none)

/-- Pushes items in turn, up to the first that is refused. -/
def pushAll (stack : CallStack) : List Int → CallStack × Option Fault
  | [] => (stack, none)
  | item :: rest =>
      match stack.push item with
      | (next, none) => next.pushAll rest
      | (left, some fault) => (left, some fault)

/-- Takes the newest entry. -/
def pop (stack : CallStack) : CallStack × Except Fault Int :=
  match stack.entries with
  | [] => (stack, .error .underflow)
  | item :: rest => ({ stack with entries := rest }, .ok item)

def clear (stack : CallStack) : CallStack := { stack with entries := [] }

/-! ### Entries after each operation -/

@[simp] theorem toList_clear (stack : CallStack) : stack.clear.toList = [] := rfl

@[simp] theorem isEmpty_eq_true_iff (stack : CallStack) :
    stack.isEmpty = true ↔ stack.toList = [] := by
  simp [isEmpty, toList]

/-- A push is refused exactly at the capacity, and then leaves the entries alone. -/
theorem push_of_full {stack : CallStack} (full : stack.capacity ≤ stack.entries.length)
    (item : Int) : stack.push item = (stack, some .overflow) :=
  if_pos full

theorem push_of_room {stack : CallStack} (room : stack.entries.length < stack.capacity)
    (item : Int) : stack.push item = ({ stack with entries := item :: stack.entries }, none) :=
  if_neg (Int.not_le.mpr room)

theorem toList_of_push {stack : CallStack} (room : stack.entries.length < stack.capacity)
    (item : Int) : (stack.push item).1.toList = stack.toList ++ [item] := by
  rw [push_of_room room]
  simp [toList]

/-- As many items are pushed as there is room for. -/
theorem toList_pushAll (stack : CallStack) (items : List Int) :
    (stack.pushAll items).1.toList =
      stack.toList ++ items.take (stack.capacity - stack.entries.length).toNat := by
  induction items generalizing stack with
  | nil => simp [pushAll]
  | cons item rest ih =>
      unfold pushAll
      by_cases full : stack.capacity ≤ stack.entries.length
      · rw [push_of_full full]
        simp [Int.toNat_of_nonpos (Int.sub_nonpos_of_le full)]
      · have left : (stack.capacity - stack.entries.length).toNat =
            (stack.capacity - (stack.entries.length + 1 : Nat)).toNat + 1 := by omega
        rw [push_of_room (Int.not_le.mp full)]
        simp only
        rw [ih, left]
        simp [toList]

/-- A pop takes back what was pushed last. -/
theorem pop_of_push {stack : CallStack} (room : stack.entries.length < stack.capacity)
    (item : Int) : (stack.push item).1.pop = (stack, .ok item) := by
  rw [push_of_room room]
  rfl

end CallStack

end Chip8

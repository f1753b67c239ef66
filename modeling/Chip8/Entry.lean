/-!
What is entered for a setting: a value, or something that is no value of the setting, such as
nothing at all. What is no value is refused where the setting is used, and only there.
-/

namespace Chip8

inductive Entry (α : Type) where
  | value (value : α)
  | unusable
  deriving DecidableEq, Repr

namespace Entry

variable {α β : Type}

def value? : Entry α → Option α
  | .value entered => some entered
  | .unusable => none

def map (f : α → β) : Entry α → Entry β
  | .value entered => .value (f entered)
  | .unusable => .unusable

@[simp] theorem value?_map (f : α → β) (entry : Entry α) :
    (entry.map f).value? = entry.value?.map f := by
  cases entry <;> rfl

end Entry

end Chip8

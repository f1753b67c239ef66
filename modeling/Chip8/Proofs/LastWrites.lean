/-!
What the entries of a history write last.

* `lastWrite?` — what the last of the entries that write has written.
* `lastWrite?_cons`, `lastWrite?_append` — histories taken apart.
-/

namespace Chip8

variable {α β : Type} {writes? : α → Option β}

/-- What is written last by the entries of a history, of which some write and others do not. -/
def lastWrite? (writes? : α → Option β) (history : List α) : Option β :=
  (history.filterMap writes?).getLast?

@[simp] theorem lastWrite?_nil : lastWrite? writes? [] = none := rfl

/-- An entry counts if none behind it writes. -/
theorem lastWrite?_cons (entry : α) (rest : List α) :
    lastWrite? writes? (entry :: rest) = (lastWrite? writes? rest).or (writes? entry) := by
  simp only [lastWrite?, List.filterMap_cons]
  cases writes? entry with
  | none => exact Option.or_none.symm
  | some written =>
      rw [List.getLast?_cons]
      cases (rest.filterMap writes?).getLast? <;> rfl

theorem lastWrite?_append (first second : List α) :
    lastWrite? writes? (first ++ second) =
      (lastWrite? writes? second).or (lastWrite? writes? first) := by
  induction first with
  | nil => exact Option.or_none.symm
  | cons entry rest ih =>
      rw [List.cons_append, lastWrite?_cons, lastWrite?_cons, ih, Option.or_assoc]

end Chip8

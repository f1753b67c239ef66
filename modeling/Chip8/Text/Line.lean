/-!
Texts of a single line. They can be written one after the other, with a line break behind each, and
told apart again.
-/

namespace Chip8.Text

/-- The text has no line break. -/
def IsLine (text : String) : Prop := '\n' ∉ text.toList

instance IsLine.decidable (text : String) : Decidable (IsLine text) :=
  inferInstanceAs (Decidable (_ ∉ _))

@[simp] theorem isLine_append {first second : String} :
    IsLine (first ++ second) ↔ IsLine first ∧ IsLine second := by
  simp [IsLine]

theorem isLine_join {texts : List String} (lines : ∀ text ∈ texts, IsLine text) :
    IsLine (String.join texts) := by
  intro broken
  rw [String.toList_join] at broken
  obtain ⟨text, member, inside⟩ := List.mem_flatMap.mp broken
  exact lines text member inside

end Chip8.Text

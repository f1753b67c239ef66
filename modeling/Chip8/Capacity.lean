/-!
What a host can count: sizes are counted in signed words of 64 bits. There is room for as much as
can be counted.
-/

namespace Chip8.Capacity

/-- The number is a signed word of 64 bits. -/
def IsWord (number : Int) : Prop := -0x8000000000000000 ≤ number ∧ number < 0x8000000000000000

instance (number : Int) : Decidable (IsWord number) := inferInstanceAs (Decidable (_ ∧ _))

theorem isWord_of_le {number bound : Int} (low : 0 ≤ number) (high : number ≤ bound)
    (word : IsWord bound) : IsWord number :=
  ⟨Int.le_trans (by decide) low, Int.lt_of_le_of_lt high word.2⟩

/-- What is refused because it cannot be counted. -/
def refusal : String := "The size does not fit into a word of 64 bits"

end Chip8.Capacity

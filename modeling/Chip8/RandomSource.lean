/-!
A source of random numbers. Its answers are any integers, fixed in advance by position, so a
run is a function of them; what was asked for is kept.
-/

namespace Chip8

structure RandomSource where
  answer : Nat → Int
  /-- The bounds of every request so far, oldest first. -/
  requests : List (Int × Int) := []

namespace RandomSource

/-- A source that answers the numbers of a list over and over, and zero if it has none. -/
def cycling (answers : List Int) : RandomSource :=
  { answer := fun position => answers[position % answers.length]?.getD 0 }

/-- Asks for a number between `low` and `high`. The answer is passed on as it is. -/
def draw (source : RandomSource) (low high : Int) : Int × RandomSource :=
  (source.answer source.requests.length,
    { source with requests := source.requests ++ [(low, high)] })

end RandomSource

end Chip8

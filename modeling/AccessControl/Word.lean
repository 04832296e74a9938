/-!
The ranges of machine words. An unsigned word of `n` bits holds the numbers below `bound n`, a
signed one those from `-bound (n - 1)` on and below `bound (n - 1)`.
-/

namespace AccessControl.Word

/-- The least number that does not fit an unsigned word of so many bits. -/
def bound (bits : Nat) : Nat :=
  Nat.pow 2 bits

/-- The number fits a signed word of so many bits and one more. -/
def fitsSigned (bits : Nat) (n : Int) : Bool :=
  -(bound bits : Int) ≤ n && n < (bound bits : Int)

end AccessControl.Word

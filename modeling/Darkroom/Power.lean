/-!
# Powers

Powers of two and of ten, of which sizes, masks and scales are made.
-/

namespace Darkroom

abbrev twoPow (n : Nat) : Nat := Nat.pow 2 n

abbrev tenPow (n : Nat) : Nat := Nat.pow 10 n

end Darkroom

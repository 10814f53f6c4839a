import Darkroom.Failure
/-!
# Decompression bombs

A second line of defence below the caller's budget: no container may declare more pixels than
this library is ready to make.
-/

namespace Darkroom

def bombLimit : Nat := 178956970

/-- An axis of zero counts as one. -/
def refuseBomb (width height : Nat) : Except Failure Unit :=
  let pixels := max 1 width * max 1 height
  if bombLimit < pixels then
    .error ⟨.bomb, s!"Image size ({pixels} pixels) exceeds limit of {bombLimit} pixels, " ++
      "could be decompression bomb DOS attack."⟩
  else .ok ()

end Darkroom

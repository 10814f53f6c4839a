import Darkroom.Dimensions
import Darkroom.Http.Message
import Darkroom.Validation.Scalar
/-!
# Parameters

What a query asks for: the box for a thumbnail or a crop, and whether a thumbnail is to fit into
it. All complaints about a query are told in one answer.
-/

namespace Darkroom

namespace Parameters

open Validation

/-- The largest side that can be asked for. -/
def greatestSide : Int := 16384

def side : Rule Int := atMost greatestSide (atLeast 1 integer)

private def parameter {α : Type} (r : Http.Request) (name : String) (rule : Rule α)
    (default : Option α := none) : Checked α :=
  field name rule ((r.parameter? name).map Json.string) default

def crop (r : Http.Request) : Checked Dimensions :=
  Dimensions.mk <$> parameter r "width" side <*> parameter r "height" side

/-- A thumbnail fits into its box unless the query says otherwise. -/
def thumbnail (r : Http.Request) : Checked (Dimensions × Bool) :=
  Prod.mk <$> crop r <*> parameter r "fit" boolean (some true)

/-! ## Complaints -/

def issueJson (i : Issue) : Json :=
  .object ([("type", .string i.complaint.label),
      ("loc", .array [.string "query", .string i.field]),
      ("msg", .string i.complaint.message), ("input", i.value.getD .null)] ++
    (i.complaint.bound?.map fun (name, n) => ("ctx", Json.object [(name, .int n)])).toList)

def refusal {ω : Type} (issues : List Issue) : Http.Response ω :=
  .ofJson 422 (.object [("detail", .array (issues.map issueJson))])

end Parameters

end Darkroom

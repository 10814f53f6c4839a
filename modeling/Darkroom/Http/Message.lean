import Darkroom.Http.Address
import Darkroom.Json.Basic
import Darkroom.Text.Percent
/-!
# Requests and responses

A request's body comes in parts. A response is JSON, plain text or something encoded by a codec.
-/

namespace Darkroom

namespace Http

/-! ## Requests -/

structure Request where
  method : String
  path : String
  query : String := ""
  headers : List (String × String) := []
  parts : List Bytes := []
deriving Repr, Inhabited

/-- The first header of that name, in capitals or not. -/
def header? (headers : List (String × String)) (name : String) : Option String :=
  (headers.find? fun h => h.1.toLower == name.toLower).map (·.2)

namespace Request

def header? (r : Request) (name : String) : Option String := Http.header? r.headers name

def host (r : Request) : String := (r.header? "Host").getD "testserver"

/-! ### Queries -/

/-- A name without a sign of equality after it has an empty value. -/
private def parameter (part : List Char) : String × String :=
  let plain (cs : List Char) : String :=
    Text.Percent.decode (String.ofList (cs.map fun c => if c = '+' then ' ' else c))
  (plain (part.takeWhile (· != '=')), plain ((part.dropWhile (· != '=')).drop 1))

/-- What a query says, in order; bytes that are no ASCII stand for one character each. -/
def parameters (r : Request) : List (String × String) :=
  let parts := (Bytes.latin1 (Bytes.utf8 r.query)).toList.splitOn '&'
  (parts.filter (!·.isEmpty)).map parameter

/-- The last value counts. -/
def parameter? (r : Request) (name : String) : Option String :=
  r.parameters.reverse.lookup name

/-! ### Addresses -/

/-- What stands behind the scheme in the address of a path on the same host, with the same query. -/
def location (r : Request) (path : String) : String :=
  r.host ++ path ++ if r.query.isEmpty then "" else "?" ++ r.query

/-- The path as the address of the request has it, if that address makes sense. -/
def addressedPath (r : Request) : Except Failure String := Address.path (r.location r.path)

private def standsInAddress (c : Char) : Bool :=
  c.isAlphanum || "_.-~:/%#?=@[]!$&'()*+,;".contains c

def addressOf (r : Request) (path : String) : String :=
  Text.Percent.encode standsInAddress ("http://" ++ r.location path)

end Request

/-! ## Responses -/

inductive Body (ω : Type)
  | json (j : Json)
  | text (s : String)
  | encoded (o : ω)

structure Response (ω : Type) where
  status : Nat
  contentType : Option String
  headers : List (String × String) := []
  body : Body ω

namespace Response

variable {ω : Type}

def ofJson (status : Nat) (j : Json) : Response ω :=
  { status, contentType := some "application/json", body := .json j }

def ofText (status : Nat) (s : String) : Response ω :=
  { status, contentType := some "text/plain; charset=utf-8", body := .text s }

def ofEncoded (mediaType : String) (o : ω) : Response ω :=
  { status := 200, contentType := some mediaType, body := .encoded o }

/-- Sends the client to another address, with nothing to read here. -/
def redirect (address : String) : Response ω :=
  { status := 307, contentType := none, headers := [("location", address)], body := .text "" }

def header? (r : Response ω) (name : String) : Option String := Http.header? r.headers name

/-- The header takes the place of those of its name. -/
def withHeader (r : Response ω) (name value : String) : Response ω :=
  { r with headers := r.headers.filter (·.1.toLower != name.toLower) ++ [(name, value)] }

end Response

end Http

end Darkroom

import Darkroom.Http.Application
/-!
# Routes

A path belongs to one route at most, which answers one method. A path that differs from a
route's by slashes at its end only is told where to go.
-/

namespace Darkroom

namespace Http

structure Route (ω : Type) where
  method : String
  path : String
  answer : Application ω

namespace Route

variable {ω : Type}

/-- One line feed after the path does no harm. -/
def leadsTo (route : Route ω) (path : String) : Bool :=
  path == route.path || path == route.path ++ "\n"

/-- The path with the slashes at its end taken off, or with one put there. -/
def otherPath (path : String) : String :=
  if path.endsWith "/" then
    String.ofList (path.toList.reverse.dropWhile (· == '/')).reverse
  else path ++ "/"

private def detail (text : String) : Json := .object [("detail", .string text)]

def notFound : Response ω := .ofJson 404 (detail "Not Found")

def notAllowed (route : Route ω) : Response ω :=
  (Response.ofJson 405 (detail "Method Not Allowed")).withHeader "allow" route.method

private def unlogged (response : Response ω) : Application ω := fun _ known =>
  ⟨.ok response, known, []⟩

/-- Paths are compared as they come. -/
def dispatch (routes : List (Route ω)) : Application ω := fun r known =>
  match routes.find? (·.leadsTo r.path) with
  | some route =>
    if route.method == r.method then route.answer r known
    else unlogged (notAllowed route) r known
  | none =>
    let other := otherPath r.path
    if r.path != "/" && routes.any (·.leadsTo other) then
      unlogged (.redirect (r.addressOf other)) r known
    else unlogged notFound r known

end Route

end Http

end Darkroom

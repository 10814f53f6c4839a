import Darkroom.Log.Line
/-!
# Where log records go

Loggers have dotted names and take their level from the nearest one above them that has a level
of its own. Records that pass go to the handlers at the root. `Hub.setUp` puts a single handler
there in place of all others, step by step.
-/

namespace Darkroom

namespace Log

inductive Style
  | console
  | json
deriving DecidableEq, Repr, Inhabited

/-- A handler writes lines in a style; one put there by somebody else writes none. -/
structure Handler where
  level : Level
  style : Option Style
deriving DecidableEq, Repr, Inhabited

/-- Loggers pass all their records on, none is switched off, no filters are set, and no level is
shut out for all of them. No number is too long for a line. -/
structure Hub where
  root : Level := .warning
  handlers : List Handler := []
  /-- The levels of loggers below the root that have one. -/
  levels : List (String × Level) := []
deriving Repr, Inhabited

namespace Hub

/-- What comes before the dots of a name, all of it read backwards. It is not empty: the character before a dot belongs to
it, even if that is a dot. -/
private def beforeDots : List Char → List (List Char)
  | '.' :: c :: rest => (c :: rest) :: beforeDots rest
  | _ :: rest => beforeDots rest
  | [] => []

/-- The names of a logger and of all above it, the nearest first. -/
def ancestry (logger : String) : List String :=
  logger :: (beforeDots logger.toList.reverse).map fun name => String.ofList name.reverse

/-- The level of its own that a logger has. A level of zero is none. -/
def ownLevel (h : Hub) (name : String) : Option Level := (h.levels.lookup name).filter (·.number != 0)

def effectiveLevel (h : Hub) (logger : String) : Level := ((ancestry logger).findSome? h.ownLevel).getD h.root

def Style.line (timestamp : String) (r : Record) : Style → String
  | .console => r.consoleLine timestamp
  | .json => r.jsonLine timestamp

/-- The logger above all others, which goes without a name as well. -/
def rootName : String := "root"

def rooted (r : Record) : Record := if r.logger = "" then { r with logger := rootName } else r

/-- The lines a record becomes. -/
def emit (h : Hub) (timestamp : String) (r : Record) : List String :=
  let r := rooted r
  let threshold := if r.logger = rootName then h.root else h.effectiveLevel r.logger
  if !r.level.passes threshold then []
  else h.handlers.filterMap fun handler =>
    if r.level.number < handler.level.number then none
    else handler.style.map (Style.line timestamp r)

/-! ## Setting up -/

/-- Steps that change where records go. What the steps before a failing one have changed stays changed. -/
abbrev Change := ExceptT Failure (StateM Hub)

def levelNamed (level : String) : Change Level :=
  match Level.ofName? level with
  | some l => return l
  | none => throw (.value s!"Unknown level: {Text.quoted level}")

def setRootLevel (level : String) : Change Unit := do
  let l ← levelNamed level
  modify fun h => { h with root := l }

def removeHandler (handler : Handler) : Change Unit :=
  modify fun h => { h with handlers := h.handlers.erase handler }

def addHandler (handler : Handler) : Change Unit :=
  modify fun h => { h with handlers := h.handlers ++ [handler] }

def setLevel (logger : String) (l : Level) : Change Unit :=
  modify fun h => { h with levels := (logger, l) :: h.levels.filter (·.1 != logger) }

/-- Loggers that say too much below warnings. -/
def quietLoggers : List String := ["PIL", "uvicorn.access"]

/-- One handler at a level in a style, in place of all that there are. -/
def setUp (level : String) (style : Style) : Change Unit := do
  setRootLevel level
  (← get).handlers.forM removeHandler
  let l ← levelNamed level
  addHandler ⟨l, some style⟩
  quietLoggers.forM fun logger => setLevel logger .warning

/-- What is said once logging is set up. -/
def greeting (level : String) (style : Style) : Record :=
  { level := .info, logger := rootName
    text := s!"Logging configured: level={level}, json=" ++
      (if style = .json then "True" else "False") }

/-- Sets up and says so. -/
def setUpAndGreet (timestamp level : String) (style : Style) : Change (List String) := do
  setUp level style
  return (← get).emit timestamp (greeting level style)

end Hub

end Log

end Darkroom

import Darkroom.Json.Basic
/-!
# Log records
-/

namespace Darkroom

namespace Log

/-- Levels are ordered by number, and five of them have names. -/
structure Level where
  number : Int
deriving DecidableEq, Repr, Inhabited

namespace Level

def debug : Level := ⟨10⟩
def info : Level := ⟨20⟩
def warning : Level := ⟨30⟩
def error : Level := ⟨40⟩
def critical : Level := ⟨50⟩

def name (l : Level) : String :=
  match l.number with
  | 0 => "NOTSET"
  | 10 => "DEBUG"
  | 20 => "INFO"
  | 30 => "WARNING"
  | 40 => "ERROR"
  | 50 => "CRITICAL"
  | n => s!"Level {n}"

/-- Two levels have a second name. -/
def ofName? : String → Option Level
  | "NOTSET" => some ⟨0⟩
  | "DEBUG" => some debug
  | "INFO" => some info
  | "WARN" | "WARNING" => some warning
  | "ERROR" => some error
  | "FATAL" | "CRITICAL" => some critical
  | _ => none

/-- Nothing is logged at level zero or below, whatever the threshold. -/
def passes (l threshold : Level) : Bool := 0 < l.number && threshold.number ≤ l.number

end Level

/-- One line of a log, before it is laid out. -/
structure Record where
  level : Level
  logger : String
  text : String
  attributes : Attributes := []
  /-- What is told of a failure that is at hand. -/
  exception : Option String := none
  path : String := ""
  line : Int := 0
deriving Repr, Inhabited

end Log

end Darkroom

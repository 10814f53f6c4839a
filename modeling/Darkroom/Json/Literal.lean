import Darkroom.Json.Basic
import Darkroom.Text.Quoted
/-!
# Values in messages

How a value reads where a message names it: texts inside other values stand in quotes, and the
words for nothing and for the two truth values begin with a capital.
-/

namespace Darkroom

namespace Json

mutual

def literal (quote : String → String) : Json → String
  | null => "None"
  | bool true => "True"
  | bool false => "False"
  | int n => toString n
  | real x => x.repr
  | string s => quote s
  | array items => "[" ++ literalItems quote items ++ "]"
  | object fields => "\x7b" ++ literalFields quote fields ++ "\x7d"

def literalItems (quote : String → String) : List Json → String
  | [] => ""
  | [x] => literal quote x
  | x :: y :: rest => literal quote x ++ ", " ++ literalItems quote (y :: rest)

def literalFields (quote : String → String) : List (String × Json) → String
  | [] => ""
  | [(k, v)] => quote k ++ ": " ++ literal quote v
  | (k, v) :: f :: rest =>
    quote k ++ ": " ++ literal quote v ++ ", " ++ literalFields quote (f :: rest)

end

/-- A text reads as itself. -/
def text : Json → String
  | string s => s
  | j => j.literal Text.quoted

end Json

end Darkroom

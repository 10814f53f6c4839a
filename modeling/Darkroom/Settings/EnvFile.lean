import Darkroom.Text.Blank
/-!
# Environment files

A file of lines `NAME=value`. A value may stand in quotes, where it may go over several lines
and have escapes, and it may refer to earlier names and to the environment as `$\x7bNAME\x7d` or
`$\x7bNAME:-default\x7d`. A line that makes no sense is passed over.
-/

namespace Darkroom

namespace EnvFile

/-- A name and its value, or no value where a name stands alone. -/
abbrev Binding := String × Option String

private def isBreak (c : Char) : Bool := c == '\n' || c == '\r'

/-- Spacing within a line. -/
private def isGap (c : Char) : Bool := Text.isSpacing c && !isBreak c

private def skipGap (cs : List Char) : List Char := cs.dropWhile isGap

/-- Every line break becomes the same. -/
def oneBreak : List Char → List Char
  | '\r' :: '\n' :: rest => '\n' :: oneBreak rest
  | '\r' :: rest => '\n' :: oneBreak rest
  | c :: rest => c :: oneBreak rest
  | [] => []

/-- The mark that some editors put in front of a text. -/
private def withoutMark : List Char → List Char
  | '\uFEFF' :: rest => rest
  | cs => cs

/-! ## Names -/

private def skipExport (cs : List Char) : List Char :=
  let word := "export".toList
  if word.isPrefixOf cs then
    match cs.drop word.length with
    | c :: rest => if isGap c then skipGap rest else cs
    | [] => cs
  else cs

/-- A name and what follows. A comment has no name, which is not an error. -/
private def name? (cs : List Char) : Option (Option String × List Char) :=
  match cs with
  | '#' :: _ => some (none, cs)
  | '\'' :: rest =>
    let inside := rest.takeWhile (· != '\'')
    match rest.dropWhile (· != '\'') with
    | _ :: after => if inside.isEmpty then none else some (some (String.ofList inside), after)
    | [] => none
  | _ =>
    let isNameChar (c : Char) := !(c == '=' || c == '#' || Text.isSpacing c)
    let inside := cs.takeWhile isNameChar
    if inside.isEmpty then none else some (some (String.ofList inside), cs.dropWhile isNameChar)

/-! ## Values -/

/-- Everything up to a quote that has no backslash before it, and what follows that quote. -/
private def untilQuote (quote : Char) : List Char → Option (List Char × List Char)
  | [] => none
  | '\\' :: c :: rest =>
    if c = quote then (untilQuote quote rest).map fun (inside, after) => ('\\' :: c :: inside, after)
    else (untilQuote quote (c :: rest)).map fun (inside, after) => ('\\' :: inside, after)
  | c :: rest =>
    if c = quote then some ([], rest)
    else (untilQuote quote rest).map fun (inside, after) => (c :: inside, after)
termination_by cs => cs.length

/-- Where every quote has a backslash before it, the last one closes all the same. -/
private def untilLastQuote (quote : Char) : List Char → Option (List Char × List Char)
  | [] => none
  | c :: rest =>
    match untilLastQuote quote rest with
    | some (inside, after) => some (c :: inside, after)
    | none => if c = quote then some ([], rest) else none

private def quotedPart? (quote : Char) (cs : List Char) : Option (List Char × List Char) :=
  (untilQuote quote cs).or (untilLastQuote quote cs)

private def singleEscape? : Char → Option Char
  | '\\' => some '\\'
  | '\'' => some '\''
  | _ => none

private def doubleEscape? : Char → Option Char
  | '"' => some '"'
  | 'a' => some '\x07'
  | 'b' => some '\x08'
  | 'f' => some '\x0c'
  | 'n' => some '\n'
  | 'r' => some '\r'
  | 't' => some '\t'
  | 'v' => some '\x0b'
  | c => singleEscape? c

/-- An escape that is unknown stays as it is written. -/
private def unescaped (escape? : Char → Option Char) : List Char → List Char
  | '\\' :: c :: rest =>
    match escape? c with
    | some e => e :: unescaped escape? rest
    | none => '\\' :: unescaped escape? (c :: rest)
  | c :: rest => c :: unescaped escape? rest
  | [] => []
termination_by cs => cs.length

/-- Cuts a comment off, which has a blank before it. -/
private def withoutComment (before : Char) : List Char → List Char
  | [] => []
  | c :: rest =>
    if c = '#' ∧ Text.isSpacing before then [] else c :: withoutComment c rest

private def value? (cs : List Char) : Option (List Char × List Char) :=
  match cs with
  | '\'' :: rest => (quotedPart? '\'' rest).map fun (v, after) => (unescaped singleEscape? v, after)
  | '"' :: rest => (quotedPart? '"' rest).map fun (v, after) => (unescaped doubleEscape? v, after)
  | _ =>
    let line := cs.takeWhile (!isBreak ·)
    some (Text.trimRight Text.isSpacing (withoutComment '=' line), cs.dropWhile (!isBreak ·))

/-! ## Lines -/

/-- What follows the end of a line, if nothing but a comment stands before it. -/
private def endOfLine? (cs : List Char) : Option (List Char) :=
  let rest := match skipGap cs with
    | '#' :: comment => comment.dropWhile (!isBreak ·)
    | _ => cs
  match skipGap rest with
  | [] => some []
  | c :: rest => if isBreak c then some rest else none

private def nextLine (cs : List Char) : List Char := (cs.dropWhile (!isBreak ·)).drop 1

/-- One binding and what follows its line. -/
private def binding (cs : List Char) : Option Binding × List Char :=
  let cs := skipExport cs
  match name? cs with
  | none => (none, nextLine cs)
  | some (name, afterName) =>
    let afterName := skipGap afterName
    match afterName with
    | '=' :: rest =>
      let rest := skipGap rest
      match value? rest with
      | none => (none, nextLine rest)
      | some (value, rest) =>
        match endOfLine? rest with
        | some after => (name.map fun n => (n, some (String.ofList value)), after)
        | none => (none, nextLine rest)
    | rest =>
      match endOfLine? rest with
      | some after => (name.map fun n => (n, none), after)
      | none => (none, nextLine rest)

private def bindings : Nat → List Char → List Binding
  | 0, _ => []
  | fuel + 1, cs =>
    match cs.dropWhile Text.isSpacing with
    | [] => []
    | cs =>
      let (found, rest) := binding cs
      found.toList ++ bindings fuel rest

/-! ## References -/

/-- A reference behind its opening brace: the name, the default and what follows. -/
private def reference? (cs : List Char) : Option (String × Option (List Char) × List Char) :=
  let ends (c : Char) := c == '\x7d' || c == ':'
  let name := String.ofList (cs.takeWhile (!ends ·))
  match cs.dropWhile (!ends ·) with
  | '\x7d' :: rest => some (name, none, rest)
  | ':' :: '-' :: rest =>
    match rest.dropWhile (· != '\x7d') with
    | _ :: after => some (name, some (rest.takeWhile (· != '\x7d')), after)
    | [] => none
  | _ => none

/-- Puts the values of references in their place; each takes some characters of the fuel. -/
private def resolved (value? : String → Option String) : Nat → List Char → List Char
  | 0, cs => cs
  | _, [] => []
  | fuel + 1, '$' :: '\x7b' :: rest =>
    match reference? rest with
    | some (name, default, after) =>
      ((value? name).map String.toList).getD (default.getD []) ++ resolved value? fuel after
    | none => '$' :: resolved value? fuel ('\x7b' :: rest)
  | fuel + 1, c :: rest => c :: resolved value? fuel rest

/-- A name keeps the place where it first stood and gets its last value. -/
def put (known : List Binding) (b : Binding) : List Binding :=
  if known.any (·.1 == b.1) then known.map fun k => if k.1 == b.1 then b else k
  else known ++ [b]

/-- References go to earlier lines first and then to the environment; a name without a value
counts as empty. -/
private def resolveOnto (environment : List (String × String)) (known : List Binding) (b : Binding) :
    List Binding :=
  let value? (name : String) : Option String :=
    match known.lookup name with
    | some v => some (v.getD "")
    | none => environment.lookup name
  put known (b.1, b.2.map fun v =>
    String.ofList (resolved value? v.length v.toList))

/-- The bindings of a file, each name once. -/
def parse (environment : List (String × String)) (text : String) : List Binding :=
  let cs := withoutMark (oneBreak text.toList)
  (bindings cs.length cs).foldl (resolveOnto environment) []

end EnvFile

end Darkroom

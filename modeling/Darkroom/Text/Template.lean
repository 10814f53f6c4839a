import Darkroom.Json.Literal
import Darkroom.Text.Number
/-!
# Templates

Texts with directives that begin with a percent sign, each of which a value is put in place of.
A directive tells the conversion, and may tell flags, a width and a precision before it; with
a name it takes its value from a mapping, else it takes the next of the values in a row.
-/

namespace Darkroom

namespace Template

/-- Why a template and its values do not go together. -/
inductive Fault
  /-- A value of the wrong kind, or too few or too many values. -/
  | mismatch
  | malformed (message : String)
  | unknownName (name : String)
  | outOfRange
deriving DecidableEq, Repr

/-! ## Values -/

/-- The values not yet used, and the mapping they may be taken from. -/
structure Supply where
  mapping : Option Attributes := none
  row : List Json := []

/-- A mapping also stands for one value, namely itself. -/
def Supply.ofMapping (fields : Attributes) : Supply := ⟨some fields, [.object fields]⟩

def Supply.next (s : Supply) : Except Fault (Json × Supply) :=
  match s.row with
  | [] => .error .mismatch
  | v :: rest => .ok (v, { s with row := rest })

/-- A named value is the next to be used, and no other is left in the row. -/
def Supply.named (s : Supply) (name : String) : Except Fault Supply :=
  match s.mapping with
  | none => .error .mismatch
  | some fields =>
    match fields.get? name with
    | some v => .ok { s with row := [v] }
    | none => .error (.unknownName name)

def Supply.checkUsedUp (s : Supply) : Except Fault Unit :=
  if s.mapping.isNone ∧ !s.row.isEmpty then .error .mismatch else .ok ()

/-! ## Directives -/

structure Flags where
  left : Bool := false
  plus : Bool := false
  blank : Bool := false
  alternate : Bool := false
  zero : Bool := false

structure Directive where
  flags : Flags
  width : Nat
  precision : Option Nat
  conversion : Char

private def readFlags (f : Flags) : List Char → Flags × List Char
  | '-' :: rest => readFlags { f with left := true } rest
  | '+' :: rest => readFlags { f with plus := true } rest
  | ' ' :: rest => readFlags { f with blank := true } rest
  | '#' :: rest => readFlags { f with alternate := true } rest
  | '0' :: rest => readFlags { f with zero := true } rest
  | rest => (f, rest)

private def wholeNumber : Json → Except Fault Int
  | .int n => .ok n
  | .bool b => .ok b.toInt
  | _ => .error .mismatch

/-- A number written out, or the next value for a star. -/
private def readNumber (s : Supply) : List Char → Except Fault (Int × Supply × List Char)
  | '*' :: rest => do
    let (v, s) ← s.next
    return (← wholeNumber v, s, rest)
  | cs => .ok (Text.decimal (cs.takeWhile Char.isDigit), s, cs.dropWhile Char.isDigit)

/-- A name up to the bracket that closes the one before it. -/
private def readName (depth : Nat) : List Char → Option (List Char × List Char)
  | [] => none
  | ')' :: rest =>
    match depth with
    | 0 => some ([], rest)
    | depth + 1 => (readName depth rest).map fun (name, after) => (')' :: name, after)
  | c :: rest =>
    (readName (if c = '(' then depth + 1 else depth) rest).map fun (name, after) =>
      (c :: name, after)

private def takeNamed (s : Supply) : List Char → Except Fault (Supply × List Char)
  | '(' :: rest =>
    if s.mapping.isNone then .error .mismatch
    else match readName 0 rest with
      | none => .error (.malformed "incomplete format key")
      | some (name, after) => do return (← s.named (String.ofList name), after)
  | cs => .ok (s, cs)

/-- What stands behind a percent sign, as far as its conversion. -/
private def readDirective (s : Supply) (cs : List Char) :
    Except Fault (Directive × Supply × List Char) := do
  let (s, cs) ← takeNamed s cs
  let (flags, cs) := readFlags {} cs
  let (width, s, cs) ← readNumber s cs
  let flags := { flags with left := flags.left || width < 0 }
  let (precision, s, cs) ← match cs with
    | '.' :: rest => do
      let (n, s, rest) ← readNumber s rest
      pure (some n.toNat, s, rest)
    | cs => pure (none, s, cs)
  let cs := match cs with
    | 'h' :: rest | 'l' :: rest | 'L' :: rest => rest
    | cs => cs
  match cs with
  | [] => .error (.malformed "incomplete format")
  | conversion :: rest => return (⟨flags, width.natAbs, precision, conversion⟩, s, rest)

/-! ## Conversions -/

/-- A value ready to be laid out; only numbers are filled with zeros. -/
private structure Converted where
  sign : List Char := []
  marker : List Char := []
  body : List Char
  numeric : Bool := false

private def laidOut (d : Directive) (c : Converted) : List Char :=
  let head := c.sign ++ c.marker
  let gap := d.width - (head.length + c.body.length)
  if d.flags.left then head ++ c.body ++ List.replicate gap ' '
  else if d.flags.zero && c.numeric then head ++ List.replicate gap '0' ++ c.body
  else List.replicate gap ' ' ++ head ++ c.body

private def signOf (d : Directive) (negative : Bool) : List Char :=
  if negative then ['-'] else if d.flags.plus then ['+'] else if d.flags.blank then [' '] else []

private def convertedText (d : Directive) (s : String) : Converted :=
  { body := match d.precision with
      | some n => s.toList.take n
      | none => s.toList }

private def convertedInteger (d : Directive) (n : Int) : Converted :=
  let (base, marker) := match d.conversion with
    | 'o' => (8, ['0', 'o'])
    | 'x' => (16, ['0', 'x'])
    | 'X' => (16, ['0', 'X'])
    | _ => (10, [])
  let digits := Nat.toDigits base n.natAbs
  let digits := if d.conversion = 'X' then digits.map Char.toUpper else digits
  { sign := signOf d (n < 0)
    marker := if d.flags.alternate then marker else []
    body := List.replicate (d.precision.getD 0 - digits.length) '0' ++ digits
    numeric := true }

private def convertedReal (d : Directive) (x : Binary64) : Converted :=
  let places := d.precision.getD 6
  let text := match x with
    | .nan => "nan"
    | .infinity _ => "inf"
    | .finite _ m q =>
      match d.conversion.toLower with
      | 'e' => Binary64.scientific places d.flags.alternate m q
      | 'f' => Binary64.fixed places d.flags.alternate m q
      | _ => Binary64.general places d.flags.alternate m q
  { sign := signOf d x.isNegative
    body := (if d.conversion.isUpper then text.toUpper else text).toList
    numeric := true }

/-- Reals lose their fraction. -/
private def toInteger : Json → Except Fault Int
  | .real x =>
    match x, x.truncate? with
    | _, some n => .ok n
    | .nan, _ => .error (.malformed "cannot convert float NaN to integer")
    | _, _ => .error .outOfRange
  | j => wholeNumber j

private def toReal : Json → Except Fault Binary64
  | .real x => .ok x
  | j => do
    match Binary64.ofInt (← wholeNumber j) with
    | .infinity _ => .error .outOfRange
    | x => .ok x

private def toCharacter : Json → Except Fault Char
  | .string s =>
    match s.toList with
    | [c] => .ok c
    | _ => .error .mismatch
  | j => do
    let n ← wholeNumber j
    if 0 ≤ n ∧ n ≤ 0x10FFFF then .ok (Char.ofNat n.toNat) else .error .outOfRange

private def unknownConversion (c : Char) (index : Nat) : Fault :=
  let shown := if 31 ≤ c.toNat ∧ c.toNat < 127 then c else '?'
  .malformed (s!"unsupported format character '{shown}' " ++
    s!"(0x{String.ofList (Nat.toDigits 16 c.toNat)}) at index {index}")

/-- `index` is where the conversion stands in its template. -/
private def converted (d : Directive) (index : Nat) (v : Json) : Except Fault Converted :=
  match d.conversion with
  | 's' => .ok (convertedText d v.text)
  | 'r' => .ok (convertedText d (v.literal Text.quoted))
  | 'a' => .ok (convertedText d (v.literal Text.quotedAscii))
  | 'c' => (toCharacter v).map fun c => { body := [c] }
  | 'd' | 'i' | 'u' => (toInteger v).map (convertedInteger d)
  | 'o' | 'x' | 'X' => (wholeNumber v).map (convertedInteger d)
  | 'e' | 'E' | 'f' | 'F' | 'g' | 'G' => (toReal v).map (convertedReal d)
  | c => .error (unknownConversion c index)

/-! ## Filling in -/

/-- Each character and each directive takes some of the fuel; `size` is that of the template. -/
private def fill (size : Nat) : Nat → Supply → List Char → Except Fault (List Char × Supply)
  | 0, s, _ | _, s, [] => .ok ([], s)
  | fuel + 1, s, '%' :: cs => do
    let (d, s, rest) ← readDirective s cs
    if d.conversion = '%' then
      let (more, s) ← fill size fuel s rest
      return ('%' :: more, s)
    let (v, s) ← s.next
    let c ← converted d (size - rest.length - 1) v
    let (more, s) ← fill size fuel s rest
    return (laidOut d c ++ more, s)
  | fuel + 1, s, c :: cs => do
    let (more, s) ← fill size fuel s cs
    return (c :: more, s)

/-- The template with its values in place; every value in a row must be used. -/
def render (template : String) (values : Supply) : Except Fault String := do
  let cs := template.toList
  let (text, rest) ← fill cs.length cs.length values cs
  rest.checkUsedUp
  return String.ofList text

end Template

end Darkroom

import Darkroom.Text.Utf8
/-!
# Percent signs in addresses

A byte is written as a percent sign and two hexadecimal digits where it cannot stand for itself.
-/

namespace Darkroom

namespace Text

namespace Percent

/-- A percent sign without two digits after it stands for itself. -/
def decodeBytes : List Char → Bytes
  | '%' :: h :: l :: rest =>
    match Bytes.hexValue? h, Bytes.hexValue? l with
    | some high, some low => (16 * high + low).toUInt8 :: decodeBytes rest
    | _, _ => 0x25 :: decodeBytes (h :: l :: rest)
  | c :: rest => c.toNat.toUInt8 :: decodeBytes rest
  | [] => []
termination_by cs => cs.length

private def isAscii (c : Char) : Bool := c.toNat < 0x80

/-- Each run of ASCII characters is read on its own; other characters stand for themselves. -/
def decode (s : String) : String :=
  String.join ((s.toList.splitBy fun c d => isAscii c == isAscii d).map fun run =>
    if run.all isAscii then (decodeBytes run).utf8Lossy else String.ofList run)

def encodeByte (b : UInt8) : List Char :=
  ['%', (Bytes.hexDigit (b.toNat / 16)).toUpper, (Bytes.hexDigit (b.toNat % 16)).toUpper]

/-- The characters that are kept stand for themselves. -/
def encode (keep : Char → Bool) (s : String) : String :=
  String.ofList (s.toList.flatMap fun c =>
    if keep c then [c] else (Bytes.utf8 c.toString).flatMap encodeByte)

end Percent

end Text

end Darkroom

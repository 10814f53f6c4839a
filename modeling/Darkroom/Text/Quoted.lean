import Darkroom.Bytes
import Darkroom.Text.Printable
/-!
# Quoted text

Text between quotes with everything that does not print escaped. Single quotes are used unless
the text holds one and no double quote.
-/

namespace Darkroom

namespace Text

private def hexEscape (mark : Char) (width n : Nat) : List Char :=
  '\\' :: mark :: (Bytes.paddedHex width n).toList

def escaped (quote : Char) (c : Char) : List Char :=
  if c = quote ∨ c = '\\' then ['\\', c]
  else if c = '\n' then ['\\', 'n']
  else if c = '\r' then ['\\', 'r']
  else if c = '\t' then ['\\', 't']
  else if isPrintable c then [c]
  else if c.toNat < 0x100 then hexEscape 'x' 2 c.toNat
  else if c.toNat < 0x10000 then hexEscape 'u' 4 c.toNat
  else hexEscape 'U' 8 c.toNat

/-- Characters outside ASCII are escaped as well. -/
def escapedAscii (quote : Char) (c : Char) : List Char :=
  if c.toNat < 0x80 then escaped quote c
  else if c.toNat < 0x100 then hexEscape 'x' 2 c.toNat
  else if c.toNat < 0x10000 then hexEscape 'u' 4 c.toNat
  else hexEscape 'U' 8 c.toNat

private def between (escape : Char → Char → List Char) (s : String) : String :=
  let cs := s.toList
  let quote := if cs.contains '\'' && !cs.contains '"' then '"' else '\''
  String.ofList (quote :: cs.flatMap (escape quote) ++ [quote])

def quoted (s : String) : String := between escaped s

def quotedAscii (s : String) : String := between escapedAscii s

end Text

end Darkroom

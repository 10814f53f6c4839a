/-!
# Bytes

File contents and request bodies are lists of bytes. This module holds their two number
readings, their text readings and the two check sums that image files carry.
-/

namespace Darkroom

abbrev Bytes := List UInt8

namespace Bytes

/-! ## Numbers -/

/-- Most significant byte first. -/
def bigEndian (b : Bytes) : Nat :=
  b.foldl (fun n x => n * 256 + x.toNat) 0

/-- Least significant byte first. -/
def littleEndian (b : Bytes) : Nat :=
  b.foldr (fun x n => x.toNat + 256 * n) 0

/-- The `count` low bytes of a number, least significant first. -/
def ofNatLittle (count n : Nat) : Bytes :=
  (List.range count).map fun i => (n / Nat.pow 256 i).toUInt8

/-- The first `n` bytes and the rest, if there are as many. -/
def splitExact? (n : Nat) (b : Bytes) : Option (Bytes × Bytes) :=
  let taken := b.take n
  if taken.length = n then some (taken, b.drop n) else none

/-! ## Text -/

/-- One character a byte. -/
def latin1 (b : Bytes) : String :=
  String.ofList (b.map fun x => Char.ofNat x.toNat)

def utf8 (s : String) : Bytes :=
  s.toUTF8.toList

/-! ## Hexadecimal -/

def hexDigit (n : Nat) : Char :=
  if n < 10 then Char.ofNat (48 + n) else Char.ofNat (87 + n)

def hexValue? (c : Char) : Option Nat :=
  if '0' ≤ c ∧ c ≤ '9' then some (c.toNat - 48)
  else if 'a' ≤ c ∧ c ≤ 'f' then some (c.toNat - 87)
  else if 'A' ≤ c ∧ c ≤ 'F' then some (c.toNat - 55)
  else none

/-- Two lower-case digits a byte. -/
def toHex (b : Bytes) : String :=
  String.ofList (b.flatMap fun x => [hexDigit (x.toNat / 16), hexDigit (x.toNat % 16)])

/-- The number in four or eight lower-case digits, zeros in front. -/
def paddedHex (width n : Nat) : String :=
  String.ofList ((List.range width).reverse.map fun i => hexDigit (n / Nat.pow 16 i % 16))

private def ofHexDigits (acc : Array UInt8) : List Char → Option Bytes
  | [] => some acc.toList
  | [_] => none
  | h :: l :: rest => do
    let high ← hexValue? h
    let low ← hexValue? l
    ofHexDigits (acc.push (high * 16 + low).toUInt8) rest

def ofHex? (s : String) : Option Bytes :=
  ofHexDigits #[] s.toList

/-! ## Check sums -/

private def crcBit (r : UInt32) : UInt32 :=
  if r &&& 1 = 1 then (r >>> 1) ^^^ 0xEDB88320 else r >>> 1

/-- One byte of the cyclic redundancy check, eight shifts through the reversed polynomial. -/
private def crcByte (r : UInt32) (x : UInt8) : UInt32 :=
  (List.range 8).foldl (fun r _ => crcBit r) (r ^^^ x.toUInt32)

def crc32 (b : Bytes) : UInt32 :=
  b.foldl crcByte 0xFFFFFFFF ^^^ 0xFFFFFFFF

/-- The pair of sums modulo 65521 that ends a compressed stream. -/
def adler32 (b : Bytes) : Nat :=
  let (low, high) := b.foldl (fun (s, t) x =>
    let s := (s + x.toNat) % 65521
    (s, (t + s) % 65521)) (1, 0)
  high * 65536 + low

end Bytes

end Darkroom

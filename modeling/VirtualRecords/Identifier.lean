import VirtualRecords.Json.Basic
import VirtualRecords.Text.Hex
import VirtualRecords.Text.Letter

/-! Identifiers of entities and records: 128-bit numbers, written as 32 hexadecimal
digits in groups of 8, 4, 4, 4 and 12 with hyphens between them. They may also be
read without hyphens, in braces, or behind `urn:uuid:`. -/

namespace VirtualRecords

structure Identifier where
  bits : BitVec 128
deriving DecidableEq

namespace Identifier

def nil : Identifier := ⟨0⟩

/-- The identifier with the given number in its 122 free bits; the other six say that it
was chosen at random. -/
def ofFreeBits (n : Nat) : Identifier :=
  ⟨BitVec.ofNat 48 (n >>> 74) ++ (4 : BitVec 4) ++ BitVec.ofNat 12 (n >>> 62) ++
    (2 : BitVec 2) ++ BitVec.ofNat 62 n⟩

instance : Ord Identifier := ⟨fun a b => compare a.bits.toNat b.bits.toNat⟩

def hexText (id : Identifier) : List Char :=
  let digits := Nat.toDigits 16 id.bits.toNat
  List.replicate (32 - digits.length) '0' ++ digits

def groupLengths : List Nat := [8, 4, 4, 4, 12]

def hyphenate : List Nat → List Char → List Char
  | [], digits => digits
  | [_], digits => digits
  | n :: m :: more, digits => digits.take n ++ '-' :: hyphenate (m :: more) (digits.drop n)

def text (id : Identifier) : String :=
  String.ofList (hyphenate groupLengths id.hexText)

def ofHex? (digits : List Char) : Option Identifier :=
  if digits.length = 32 then
    (Text.hexDigits? digits).map fun n => ⟨BitVec.ofNat 128 n⟩
  else none

def ofHyphenated? (text : List Char) : Option Identifier :=
  let digits := text.filter (· != '-')
  if hyphenate groupLengths digits = text then ofHex? digits else none

def urnMarks : List (List Char) := ["urn:uuid:".toList, "URN:UUID:".toList]

def ofChars? (text : List Char) : Option Identifier :=
  if text.length = 32 then ofHex? text
  else if text.length = 36 then ofHyphenated? text
  else if text.length = 38 then
    match text with
    | '\x7b' :: rest => if rest.getLast? = some '\x7d' then ofHyphenated? rest.dropLast else none
    | _ => none
  else if text.length = 45 ∧ text.take 9 ∈ urnMarks then ofHyphenated? (text.drop 9)
  else none

def ofText? (text : String) : Option Identifier := ofChars? text.toList

def ofJson? : Json → Option Identifier
  | .string s => ofText? s
  | _ => none

def toJson (id : Identifier) : Json := .string id.text

end Identifier
end VirtualRecords

import ForumSummary.Json.Outline
import ForumSummary.Text.Split
import ForumSummary.Text.Utf8

/-!
# Targets of requests

A target is a path, and a query after a question mark; a fragment is cut off. In a path a percent
sign and two hexadecimal digits stand for an octet, and the octets must be UTF-8. A query holds
pairs between ampersands, in which a plus sign stands for a space as well, and octets that are no
UTF-8 are replaced. A percent sign without two digits stands for itself.
-/

namespace ForumSummary.Http

/-- The value of an octet as a hexadecimal digit. -/
def hexOctet? (b : UInt8) : Option Nat :=
  Json.hexValue? (Char.ofNat b.toNat)

/-- The octets that a text with percent signs stands for. -/
def percentDecode : List UInt8 → List UInt8
  | [] => []
  | 0x25 :: a :: b :: r =>
    match hexOctet? a, hexOctet? b with
    | some high, some low => UInt8.ofNat (high * 16 + low) :: percentDecode r
    | _, _ => 0x25 :: percentDecode (a :: b :: r)
  | c :: r => c :: percentDecode r

/-- The text of a segment of a path. -/
def segmentText? (cs : List Char) : Option (List Char) :=
  Utf8.read? (percentDecode (Utf8.encode cs))

/-- The text of a name or a value in a query. -/
def formText (cs : List Char) : List Char :=
  Utf8.lossy (percentDecode (Utf8.encode (cs.map fun c => if c = '+' then ' ' else c)))

/-- The pair that a part of a query writes; without an equals sign the value is empty. -/
def formPair (cs : List Char) : String × String :=
  let (name, value) := Text.splitFirst '=' cs
  (String.ofList (formText name), String.ofList (formText (value.getD [])))

/-- The pairs of a query, in order. -/
def formPairs (query : List Char) : List (String × String) :=
  ((Text.split '&' query).filter (!·.isEmpty)).map formPair

/-- The target of a request. -/
structure Target where
  /-- The segments of the path, as they are written. -/
  path : List (List Char)
  query : List Char

/-- The target of a text. -/
def Target.ofText (text : String) : Target :=
  let (whole, _) := Text.splitFirst '#' text.toList
  let (path, query) := Text.splitFirst '?' whole
  ⟨Text.split '/' path, query.getD []⟩

end ForumSummary.Http

import ForumSummary.Json.Basic
import ForumSummary.Text.Escaped

/-!
# JSON text

Two layouts of a value: `compact` has no blanks at all, and `pretty` puts every item and member on a
line of its own, two spaces deeper than its container. In strings only the quote, the backslash and
the control characters below U+0020 are escaped.
-/

namespace ForumSummary.Json

/-- The short escape of a control character, where it has one. -/
def shortEscape? (c : Char) : Option Char :=
  if c = '\x08' then some 'b'
  else if c = '\x09' then some 't'
  else if c = '\x0a' then some 'n'
  else if c = '\x0c' then some 'f'
  else if c = '\x0d' then some 'r'
  else none

/-- A character of a string literal. -/
def escape (c : Char) : List Char :=
  if c = '"' ∨ c = '\\' then ['\\', c]
  else if c.toNat < 0x20 then
    match shortEscape? c with
    | some e => ['\\', e]
    | none => ['\\', 'u', '0', '0', Text.hexDigit (c.toNat / 16), Text.hexDigit (c.toNat % 16)]
  else [c]

/-- A string literal. -/
def quote (s : String) : List Char :=
  ['"'] ++ s.toList.flatMap escape ++ ['"']

/-! ## Compact layout -/

mutual

/-- A value without blanks. -/
def compact : Json → List Char
  | .null => ['n', 'u', 'l', 'l']
  | .bool true => ['t', 'r', 'u', 'e']
  | .bool false => ['f', 'a', 'l', 's', 'e']
  | .number n => n.chars
  | .string s => quote s
  | .array items => '[' :: compactItems items
  | .object members => '\x7b' :: compactMembers members

/-- The items of an array after its opening bracket. -/
def compactItems : List Json → List Char
  | [] => [']']
  | v :: vs => compact v ++ compactNextItems vs

/-- The items of an array after an item. -/
def compactNextItems : List Json → List Char
  | [] => [']']
  | v :: vs => ',' :: (compact v ++ compactNextItems vs)

/-- The members of an object after its opening brace. -/
def compactMembers : List (String × Json) → List Char
  | [] => ['\x7d']
  | (k, v) :: ms => quote k ++ ':' :: (compact v ++ compactNextMembers ms)

/-- The members of an object after a member. -/
def compactNextMembers : List (String × Json) → List Char
  | [] => ['\x7d']
  | (k, v) :: ms => ',' :: (quote k ++ ':' :: (compact v ++ compactNextMembers ms))

end

/-! ## Pretty layout -/

/-- A new line at a depth of two spaces each. -/
def newline (depth : Nat) : List Char :=
  '\n' :: List.replicate (2 * depth) ' '

mutual

/-- A value whose containers are laid out from the given depth. -/
def pretty (depth : Nat) : Json → List Char
  | .null => ['n', 'u', 'l', 'l']
  | .bool true => ['t', 'r', 'u', 'e']
  | .bool false => ['f', 'a', 'l', 's', 'e']
  | .number n => n.chars
  | .string s => quote s
  | .array items => '[' :: prettyItems depth items
  | .object members => '\x7b' :: prettyMembers depth members

/-- The items of an array after its opening bracket. -/
def prettyItems (depth : Nat) : List Json → List Char
  | [] => [']']
  | v :: vs => newline (depth + 1) ++ pretty (depth + 1) v ++ prettyNextItems depth vs

/-- The items of an array after an item. -/
def prettyNextItems (depth : Nat) : List Json → List Char
  | [] => newline depth ++ [']']
  | v :: vs => ',' :: (newline (depth + 1) ++ pretty (depth + 1) v ++ prettyNextItems depth vs)

/-- The members of an object after its opening brace. -/
def prettyMembers (depth : Nat) : List (String × Json) → List Char
  | [] => ['\x7d']
  | (k, v) :: ms =>
    newline (depth + 1) ++ quote k ++ [':', ' '] ++ pretty (depth + 1) v ++
      prettyNextMembers depth ms

/-- The members of an object after a member. -/
def prettyNextMembers (depth : Nat) : List (String × Json) → List Char
  | [] => newline depth ++ ['\x7d']
  | (k, v) :: ms =>
    ',' :: (newline (depth + 1) ++ quote k ++ [':', ' '] ++ pretty (depth + 1) v ++
      prettyNextMembers depth ms)

end

/-- The compact text of a value. -/
def compactText (v : Json) : String :=
  String.ofList v.compact

/-- The pretty text of a value. -/
def prettyText (v : Json) : String :=
  String.ofList (v.pretty 0)

end ForumSummary.Json

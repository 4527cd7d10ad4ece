import ForumSummary.Json.Printer

/-!
# The outline of a JSON text

An outline is what a text holds as far as it follows the JSON grammar (RFC 8259): a tree of values
in which `broken` stands where the text leaves the grammar, and in which a container that was never
closed says so. A reader of records walks the outline in text order, so it can report a value of the
wrong kind that stands before the point where the text breaks, and the break otherwise.

String literals and number literals may follow the grammar and still denote nothing: an unpaired
surrogate is no text, and a number may be too great. Such a literal is kept and only refused by a
reader that needs its value.

`Outline.ofText` reads the outline of a whole text. The recursion is on a bound on the number of
containers and items still to be read, for which twice the length of the text is always enough.
-/

namespace ForumSummary.Json

/-! ## Literals -/

/-- The four blank characters of JSON. -/
def isJsonBlank (c : Char) : Bool :=
  c == ' ' || c == '\t' || c == '\n' || c == '\r'

/-- The text from its first character that is not blank. -/
def skipBlanks (cs : List Char) : List Char :=
  cs.dropWhile isJsonBlank

/-- An ASCII digit. -/
def isDigit (c : Char) : Bool :=
  (Numeral.digit? c).isSome

/-- The number that decimal digits denote. -/
def natOfDigits (cs : List Char) : Nat :=
  cs.foldl (fun n c => n * 10 + (c.toNat - 0x30)) 0

/-- Splits off the digits at the front; there must be one. -/
def readDigits (cs : List Char) : Option (List Char × List Char) :=
  match cs.takeWhile isDigit with
  | [] => none
  | digits => some (digits, cs.dropWhile isDigit)

/-- The digits before the point: a zero alone, or digits that begin with no zero. -/
def readWhole : List Char → Option (List Char × List Char)
  | '0' :: r =>
    match r with
    | c :: _ => if isDigit c then none else some (['0'], r)
    | [] => some (['0'], [])
  | cs => readDigits cs

/-- The digits after a point, if a point comes next. -/
def readFraction : List Char → Option (Option (List Char) × List Char)
  | '.' :: r => (readDigits r).map fun (digits, rest) => (some digits, rest)
  | cs => some (none, cs)

/-- An exponent after its letter: a sign may stand before the digits. -/
def readSignedExponent : List Char → Option (Int × List Char)
  | '-' :: r => (readDigits r).map fun (digits, rest) => (-(natOfDigits digits : Int), rest)
  | '+' :: r => (readDigits r).map fun (digits, rest) => ((natOfDigits digits : Int), rest)
  | cs => (readDigits cs).map fun (digits, rest) => ((natOfDigits digits : Int), rest)

/-- The exponent, if its letter comes next. -/
def readExponent : List Char → Option (Option Int × List Char)
  | 'e' :: r => (readSignedExponent r).map fun (n, rest) => (some n, rest)
  | 'E' :: r => (readSignedExponent r).map fun (n, rest) => (some n, rest)
  | cs => some (none, cs)

/-- A number literal without its minus sign. -/
def readUnsignedLiteral (negative : Bool) (cs : List Char) : Option (Literal × List Char) := do
  let (whole, r₁) ← readWhole cs
  let (fraction, r₂) ← readFraction r₁
  let (exponent, r₃) ← readExponent r₂
  return (⟨negative, whole, fraction, exponent⟩, r₃)

/-- A number literal. -/
def readLiteral : List Char → Option (Literal × List Char)
  | '-' :: r => readUnsignedLiteral true r
  | cs => readUnsignedLiteral false cs

/-- What a string literal writes: a character, or half of a character in an escape. -/
inductive StringUnit where
  | char (c : Char)
  | high (n : Nat)
  | low (n : Nat)
  deriving DecidableEq, Repr

/-- The value of a hexadecimal digit of either case. -/
def hexValue? (c : Char) : Option Nat :=
  let n := c.toNat
  if 0x30 ≤ n ∧ n ≤ 0x39 then some (n - 0x30)
  else if 0x61 ≤ n ∧ n ≤ 0x66 then some (n - 0x57)
  else if 0x41 ≤ n ∧ n ≤ 0x46 then some (n - 0x37)
  else none

/-- The unit that four hexadecimal digits name. -/
def hexUnit? (a b c d : Char) : Option StringUnit := do
  let n := (← hexValue? a) * 0x1000 + (← hexValue? b) * 0x100 + (← hexValue? c) * 0x10 +
    (← hexValue? d)
  return if 0xD800 ≤ n ∧ n < 0xDC00 then .high n
    else if 0xDC00 ≤ n ∧ n < 0xE000 then .low n
    else .char (Char.ofNat n)

/-- The character of an escape of one letter. -/
def escaped? (c : Char) : Option Char :=
  if c = '"' ∨ c = '\\' ∨ c = '/' then some c
  else if c = 'b' then some '\x08'
  else if c = 'f' then some '\x0c'
  else if c = 'n' then some '\n'
  else if c = 'r' then some '\r'
  else if c = 't' then some '\t'
  else none

/-- The rest of a string literal after its opening quote, with the units read so far in reverse. -/
def readUnits (acc : List StringUnit) : List Char → Option (List StringUnit × List Char)
  | [] => none
  | '"' :: r => some (acc.reverse, r)
  | '\\' :: 'u' :: a :: b :: c :: d :: r =>
    match hexUnit? a b c d with
    | some u => readUnits (u :: acc) r
    | none => none
  | '\\' :: e :: r =>
    match escaped? e with
    | some c => readUnits (.char c :: acc) r
    | none => none
  | c :: r => if c.toNat < 0x20 then none else readUnits (.char c :: acc) r

/-- The characters that units write; halves must come in pairs. -/
def joinUnits : List StringUnit → Option (List Char)
  | [] => some []
  | .char c :: r => (joinUnits r).map (c :: ·)
  | .high h :: .low l :: r =>
    (joinUnits r).map (Char.ofNat (0x10000 + (h - 0xD800) * 0x400 + (l - 0xDC00)) :: ·)
  | _ => none

/-- A string literal after its opening quote, and the text after it. The literal denotes no string
when it holds an unpaired surrogate. -/
def readString (cs : List Char) : Option (Option String × List Char) :=
  (readUnits [] cs).map fun (units, rest) => ((joinUnits units).map String.ofList, rest)

/-! ## Outlines -/

/-- The outline of a value. A member has no name when the literal in its place denotes no string, or
when no string literal stands there. -/
inductive Outline where
  | null
  | bool (b : Bool)
  | number (l : Literal)
  | string (s : Option String)
  | array (items : List Outline) (closed : Bool)
  | object (members : List (Option String × Outline)) (closed : Bool)
  | broken
  deriving Inhabited

namespace Outline

mutual

/-- The outline of the value at the front, and the text after it unless the value is broken. -/
def value : Nat → List Char → Outline × Option (List Char)
  | 0, _ => (.broken, none)
  | fuel + 1, cs =>
    match cs with
    | 'n' :: 'u' :: 'l' :: 'l' :: r => (.null, some r)
    | 't' :: 'r' :: 'u' :: 'e' :: r => (.bool true, some r)
    | 'f' :: 'a' :: 'l' :: 's' :: 'e' :: r => (.bool false, some r)
    | '"' :: r =>
      match readString r with
      | some (s, rest) => (.string s, some rest)
      | none => (.broken, none)
    | '[' :: r =>
      match skipBlanks r with
      | ']' :: rest => (.array [] true, some rest)
      | rest =>
        let (items, after) := items fuel rest
        (.array items after.isSome, after)
    | '\x7b' :: r =>
      match skipBlanks r with
      | '\x7d' :: rest => (.object [] true, some rest)
      | rest =>
        let (members, after) := members fuel rest
        (.object members after.isSome, after)
    | cs =>
      match readLiteral cs with
      | some (l, rest) => (.number l, some rest)
      | none => (.broken, none)

/-- The items of an array from the front of the text, and the text after its closing bracket. -/
def items : Nat → List Char → List Outline × Option (List Char)
  | 0, _ => ([.broken], none)
  | fuel + 1, cs =>
    match value fuel cs with
    | (v, none) => ([v], none)
    | (v, some r) =>
      match skipBlanks r with
      | ']' :: rest => ([v], some rest)
      | ',' :: rest =>
        match skipBlanks rest with
        | ']' :: _ => ([v], none)
        | next =>
          let (vs, after) := items fuel next
          (v :: vs, after)
      | _ => ([v], none)

/-- The members of an object from the front of the text, and the text after its closing brace. -/
def members : Nat → List Char → List (Option String × Outline) × Option (List Char)
  | 0, _ => ([(none, .broken)], none)
  | fuel + 1, cs =>
    match cs with
    | '"' :: r =>
      match readString r with
      | none => ([(none, .broken)], none)
      | some (name, afterName) =>
        match skipBlanks afterName with
        | ':' :: beforeValue =>
          match value fuel (skipBlanks beforeValue) with
          | (v, none) => ([(name, v)], none)
          | (v, some rest) =>
            match skipBlanks rest with
            | '\x7d' :: after => ([(name, v)], some after)
            | ',' :: next =>
              let (ms, after) := members fuel (skipBlanks next)
              ((name, v) :: ms, after)
            | _ => ([(name, v)], none)
        | _ => ([(name, .broken)], none)
    | _ => ([(none, .broken)], none)

end

/-- The outline of a whole text, and whether nothing but blanks follows its value. -/
def ofText (text : List Char) : Outline × Bool :=
  match value (2 * text.length + 2) (skipBlanks text) with
  | (v, none) => (v, false)
  | (v, some rest) => (v, (skipBlanks rest).isEmpty)

/-! ## What an outline is good for -/

mutual

/-- The value follows the grammar to its end; this is all that a skipped value needs. -/
def isClosed : Outline → Bool
  | .null | .bool _ | .number _ | .string _ => true
  | .array items closed => closed && areClosed items
  | .object members closed => closed && membersAreClosed members
  | .broken => false

/-- All items follow the grammar. -/
def areClosed : List Outline → Bool
  | [] => true
  | v :: vs => isClosed v && areClosed vs

/-- All members follow the grammar. -/
def membersAreClosed : List (Option String × Outline) → Bool
  | [] => true
  | (_, v) :: ms => isClosed v && membersAreClosed ms

end

mutual

/-- The value denoted by an outline, in which the members of objects keep their order and may
repeat; none unless every part follows the grammar and denotes something. -/
def toJson? : Outline → Option Json
  | .null => some .null
  | .bool b => some (.bool b)
  | .number l => l.value?.map .number
  | .string s => s.map .string
  | .array items closed => if closed then (itemsToJson? items).map .array else none
  | .object members closed => if closed then (membersToJson? members).map .object else none
  | .broken => none

/-- The values denoted by items. -/
def itemsToJson? : List Outline → Option (List Json)
  | [] => some []
  | v :: vs => do return (← toJson? v) :: (← itemsToJson? vs)

/-- The members denoted by members that all have names. -/
def membersToJson? : List (Option String × Outline) → Option (List (String × Json))
  | [] => some []
  | (name, v) :: ms => do return (← name, ← toJson? v) :: (← membersToJson? ms)

end

mutual

/-- The number of containers inside one another. -/
def depth : Outline → Nat
  | .array items _ => itemsDepth items + 1
  | .object members _ => membersDepth members + 1
  | _ => 0

/-- The greatest depth of an item. -/
def itemsDepth : List Outline → Nat
  | [] => 0
  | v :: vs => max (depth v) (itemsDepth vs)

/-- The greatest depth of a member's value. -/
def membersDepth : List (Option String × Outline) → Nat
  | [] => 0
  | (_, v) :: ms => max (depth v) (membersDepth ms)

end

end Outline

/-- Reads a JSON text. The members of objects keep their order, names may repeat, and containers may
be nested to any depth. -/
def ofText? (text : List Char) : Option Json :=
  match Outline.ofText text with
  | (v, true) => v.toJson?
  | (_, false) => none

end ForumSummary.Json

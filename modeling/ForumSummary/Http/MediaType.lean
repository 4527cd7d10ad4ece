/-!
# Media types

A media type is written as type, slash and subtype, of which the part after the last plus sign is
the suffix, and then parameters, each after a semicolon. The value of a parameter is a token or
stands in quotes. Letters of either case are the same.
-/

namespace ForumSummary.Http

/-- A media type without its parameters, in lower case. -/
structure MediaType where
  type : List Char
  subtype : List Char
  suffix : Option (List Char)
  deriving DecidableEq, Repr

namespace MediaType

/-- A character that may stand in a name. -/
def isToken (c : Char) : Bool :=
  c.isAlphanum || "!#$%&'*+-.^_`|~".toList.contains c

/-- A character that may stand in a header. -/
def isHeaderChar (c : Char) : Bool :=
  c == '\t' || (0x20 ≤ c.toNat && c.toNat ≤ 0x7E)

/-- A subtype and its suffix. A plus sign at the very start begins no suffix. -/
def splitSuffix (cs : List Char) : List Char × Option (List Char) :=
  let suffix := (cs.reverse.takeWhile (· ≠ '+')).reverse
  let rest := cs.take (cs.length - suffix.length - 1)
  if '+' ∈ cs ∧ rest ≠ [] then (rest, some suffix) else (cs, none)

/-- What a reader of parameters is in. -/
inductive ParameterState where
  /-- Before a name. -/
  | start
  | name
  /-- Right after the equals sign. -/
  | valueStart
  | value
  /-- Right after the opening quote. -/
  | quoteStart
  | quoted
  /-- After the closing quote. -/
  | closed
  deriving DecidableEq, Repr

namespace ParameterState

/-- The state after a character; none when the character may not stand there. -/
def next (s : ParameterState) (c : Char) : Option ParameterState :=
  let quotable := 0x1F < c.toNat && c.toNat ≠ 0x7F
  match s with
  | .start => if c = ' ' then some .start else if isToken c then some .name else none
  | .name => if c = '=' then some .valueStart else if isToken c then some .name else none
  | .valueStart => if c = '"' then some .quoteStart else if isToken c then some .value else none
  | .value => if c = ';' then some .start else if isToken c then some .value else none
  | .quoteStart => if quotable then some .quoted else none
  | .quoted => if c = '"' then some .closed else if quotable then some .quoted else none
  | .closed => if c = ';' then some .start else if c = ' ' then some .closed else none

/-- The parameters may end here. -/
def mayEnd : ParameterState → Bool
  | .start | .valueStart | .value | .closed => true
  | .name | .quoteStart | .quoted => false

/-- The rest of a list of parameters may stand in this state. -/
def accepts (s : ParameterState) : List Char → Bool
  | [] => s.mayEnd
  | c :: r =>
    match s.next c with
    | some s' => s'.accepts r
    | none => false

end ParameterState

/-- Reads a media type. -/
def ofText? (text : String) : Option MediaType :=
  let cs := text.toList
  let type := cs.takeWhile isToken
  match cs.dropWhile isToken with
  | '/' :: r =>
    let subtype := r.takeWhile isToken
    let accepted :=
      match r.dropWhile isToken with
      | [] => true
      | ';' :: parameters => !subtype.isEmpty && ParameterState.start.accepts parameters
      | _ => false
    if cs.all isHeaderChar && !type.isEmpty && accepted then
      let (name, suffix) := splitSuffix (subtype.map Char.toLower)
      some ⟨type.map Char.toLower, name, suffix⟩
    else none
  | _ => none

/-- The media type says that a body is JSON. -/
def isJson (m : MediaType) : Bool :=
  let json := "json".toList
  m.type == "application".toList && (m.subtype == json || m.suffix == some json)

end MediaType

end ForumSummary.Http

/-!
# UTF-8

Characters read from octets (RFC 3629). `decode` walks the octets with the state of a sequence
that has begun (`Pending`) and writes `none` for every maximal run of octets that begins a sequence
and cannot be finished. The two readings of such runs are `read?`, which refuses them, and `lossy`,
which puts the replacement character U+FFFD in their place.
-/

namespace ForumSummary.Utf8

/-- A sequence that has begun: how many octets it still owes, the bounds of the next one, and the
bits read so far. -/
structure Pending where
  owed : Nat
  low : Nat
  high : Nat
  bits : Nat
  deriving DecidableEq, Repr

/-- What an octet begins when no sequence is open: a character, a longer sequence, or nothing. -/
inductive Lead where
  | char (c : Char)
  | sequence (p : Pending)
  | stray
  deriving DecidableEq, Repr

/-- The first octet of a sequence. The bounds of the second octet keep out overlong forms,
surrogates and numbers past U+10FFFF. -/
def lead (b : Nat) : Lead :=
  if b < 0x80 then .char (Char.ofNat b)
  else if b < 0xC2 then .stray
  else if b < 0xE0 then .sequence ⟨1, 0x80, 0xBF, b - 0xC0⟩
  else if b = 0xE0 then .sequence ⟨2, 0xA0, 0xBF, 0⟩
  else if b = 0xED then .sequence ⟨2, 0x80, 0x9F, 0xD⟩
  else if b < 0xF0 then .sequence ⟨2, 0x80, 0xBF, b - 0xE0⟩
  else if b = 0xF0 then .sequence ⟨3, 0x90, 0xBF, 0⟩
  else if b < 0xF4 then .sequence ⟨3, 0x80, 0xBF, b - 0xF0⟩
  else if b = 0xF4 then .sequence ⟨3, 0x80, 0x8F, 4⟩
  else .stray

/-- An octet read when no sequence is open: what it writes, and the state after it. -/
def start (b : Nat) : List (Option Char) × Option Pending :=
  match lead b with
  | .char c => ([some c], none)
  | .sequence p => ([], some p)
  | .stray => ([none], none)

/-- An octet read in any state: what it writes, and the state after it. -/
def step (state : Option Pending) (b : Nat) : List (Option Char) × Option Pending :=
  match state with
  | none => start b
  | some p =>
    if p.low ≤ b ∧ b ≤ p.high then
      let bits := p.bits * 0x40 + (b - 0x80)
      if p.owed ≤ 1 then ([some (Char.ofNat bits)], none)
      else ([], some ⟨p.owed - 1, 0x80, 0xBF, bits⟩)
    else (none :: (start b).1, (start b).2)

/-- The characters of an octet sequence, with `none` for what is no character. -/
def decodeFrom : Option Pending → List UInt8 → List (Option Char)
  | none, [] => []
  | some _, [] => [none]
  | state, b :: r => (step state b.toNat).1 ++ decodeFrom (step state b.toNat).2 r

/-- The characters of an octet sequence from its start. -/
def decode (bs : List UInt8) : List (Option Char) :=
  decodeFrom none bs

/-- The text of an octet sequence in which everything is a character. -/
def read? (bs : List UInt8) : Option (List Char) :=
  (decode bs).mapM id

/-- The text of an octet sequence, with U+FFFD for what is no character. -/
def lossy (bs : List UInt8) : List Char :=
  (decode bs).map (·.getD '\uFFFD')

/-- The octets of a text. -/
def encode (cs : List Char) : List UInt8 :=
  cs.flatMap String.utf8EncodeChar

end ForumSummary.Utf8

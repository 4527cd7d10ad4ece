import ForumSummary.Proofs.Sql.Binding

/-!
# What arguments say

The server knows fewer types than statements do, so binding may change the type of a value. It never
changes what the value says (`Content`): null stays null, an integer is the same integer in a word
of another width, and everything else is handed on as it is. A value of a type that the server has
no argument for, or an unsigned number beyond BIGINT, is refused (`Value.Refused`), and the first
one in a list decides the error (`bind_keeps_content`).
-/

namespace ForumSummary.Sql

/-- What a value or an argument says, whatever the width of an integer; none is null. -/
inductive Content where
  | bool (v : Option Bool)
  | integer (n : Option Int)
  | float (v : Option Float32)
  | double (v : Option Float)
  | text (v : Option String)
  | char (v : Option Char)
  | bytes (v : Option (List UInt8))

/-- What a value says. -/
def Value.content : Value → Content
  | .bool v => .bool v
  | .tinyInt v => .integer (v.map Int8.toInt)
  | .smallInt v => .integer (v.map Int16.toInt)
  | .int v => .integer (v.map Int32.toInt)
  | .bigInt v => .integer (v.map Int64.toInt)
  | .tinyUnsigned v => .integer (v.map fun n => n.toNat)
  | .smallUnsigned v => .integer (v.map fun n => n.toNat)
  | .unsigned v => .integer (v.map fun n => n.toNat)
  | .bigUnsigned v => .integer (v.map fun n => n.toNat)
  | .float v => .float v
  | .double v => .double v
  | .string v => .text v
  | .char v => .char v
  | .bytes v => .bytes v

/-- What an argument says. -/
def Argument.content : Argument → Content
  | .bool v => .bool v
  | .int2 v => .integer (v.map Int16.toInt)
  | .int4 v => .integer (v.map Int32.toInt)
  | .int8 v => .integer (v.map Int64.toInt)
  | .float4 v => .float v
  | .float8 v => .double v
  | .text v => .text v

/-- A value is refused with an error: for its type, also when it is null, or for its size. -/
inductive Value.Refused : Value → BindError → Prop where
  | tinyInt (v : Option Int8) : Refused (.tinyInt v) (.unsupported (.tinyInt v))
  | tinyUnsigned (v : Option UInt8) : Refused (.tinyUnsigned v) (.unsupported (.tinyUnsigned v))
  | char (v : Option Char) : Refused (.char v) (.unsupported (.char v))
  | bytes (v : Option (List UInt8)) : Refused (.bytes v) (.unsupported (.bytes v))
  | bigUnsigned (n : UInt64) (h : Int64.maxValue.toInt < n.toNat) :
    Refused (.bigUnsigned (some n)) .tooLarge

/-! ## One value -/

/-- A value has an argument that says the same, or it is refused. -/
theorem Value.bind_cases (v : Value) :
    (∃ a, v.bind = .ok a ∧ a.content = v.content ∧ ∀ e, ¬ v.Refused e) ∨
      ∃ e, v.bind = .error e ∧ v.Refused e := by
  cases v with
  | bool v | smallInt v | int v | bigInt v | float v | double v | string v =>
    exact .inl ⟨_, rfl, rfl, nofun⟩
  | tinyInt v | tinyUnsigned v | char v | bytes v => exact .inr ⟨_, rfl, by constructor⟩
  | smallUnsigned v =>
    have hkept (n : UInt16) : (Int32.ofNat n.toNat).toInt = n.toNat :=
      Int32.toInt_ofNat_of_lt (Nat.lt_trans n.toNat_lt (by decide))
    refine .inl ⟨_, rfl, congrArg Content.integer ?_, nofun⟩
    rw [Option.map_map]
    exact congrArg v.map (funext hkept)
  | unsigned v =>
    have hkept (n : UInt32) : (Int64.ofNat n.toNat).toInt = n.toNat :=
      Int64.toInt_ofNat_of_lt (Nat.lt_trans n.toNat_lt (by decide))
    refine .inl ⟨_, rfl, congrArg Content.integer ?_, nofun⟩
    rw [Option.map_map]
    exact congrArg v.map (funext hkept)
  | bigUnsigned v =>
    cases v with
    | none => exact .inl ⟨_, rfl, rfl, nofun⟩
    | some n =>
      by_cases h : n.toNat ≤ Int64.maxValue.toInt
      · have hkept : (Int64.ofNat n.toNat).toInt = n.toNat :=
          Int64.toInt_ofNat_of_lt (Int.ofNat_lt.1 (Int.lt_of_le_of_lt h (by decide)))
        refine .inl ⟨_, if_pos h, congrArg (fun m => Content.integer (some m)) hkept, ?_⟩
        rintro e (_ | _ | _ | _ | ⟨_, hlarge⟩)
        exact absurd h (Int.not_le.2 hlarge)
      · exact .inr ⟨_, if_neg h, .bigUnsigned n (Int.not_le.1 h)⟩

/-! ## Lists of values -/

/-- All values of a list have arguments that say the same, or the first one that is refused decides
the error. -/
theorem bind_cases (vs : List Value) :
    (∃ arguments, bind vs = .ok arguments ∧
      arguments.map Argument.content = vs.map Value.content ∧ ∀ v ∈ vs, ∀ e, ¬ v.Refused e) ∨
      ∃ before v after e, vs = before ++ v :: after ∧ (∀ u ∈ before, ∀ e', ¬ u.Refused e') ∧
        v.Refused e ∧ bind vs = .error e := by
  induction vs with
  | nil => exact .inl ⟨[], rfl, rfl, nofun⟩
  | cons v vs ih =>
    rw [bind]
    rcases v.bind_cases with ⟨a, ha, hcontent, haccepted⟩ | ⟨e, he, hrefused⟩
    · rw [ha]
      rcases ih with ⟨arguments, hvs, hcontents, hall⟩ |
        ⟨before, u, after, e, rfl, hbefore, hrefused, hvs⟩
      · rw [hvs]
        refine .inl ⟨a :: arguments, rfl, ?_, List.forall_mem_cons.2 ⟨haccepted, hall⟩⟩
        rw [List.map_cons, List.map_cons, hcontent, hcontents]
      · rw [hvs]
        exact .inr ⟨v :: before, u, after, e, rfl, List.forall_mem_cons.2 ⟨haccepted, hbefore⟩,
          hrefused, rfl⟩
    · rw [he]
      exact .inr ⟨[], v, vs, e, rfl, nofun, hrefused, rfl⟩

/-- Binding succeeds when and only when no value is refused. Then there is one argument for each
value, in order, and it says the same. Otherwise the error is that of the first value that is
refused. -/
theorem bind_keeps_content (vs : List Value) :
    ((∃ arguments, bind vs = .ok arguments) ↔ ∀ v ∈ vs, ∀ e, ¬ v.Refused e) ∧
    (∀ arguments, bind vs = .ok arguments →
      arguments.map Argument.content = vs.map Value.content) ∧
    ∀ e, bind vs = .error e → ∃ before v after, vs = before ++ v :: after ∧
      (∀ u ∈ before, ∀ e', ¬ u.Refused e') ∧ v.Refused e := by
  rcases bind_cases vs with ⟨arguments, hvs, hcontents, hall⟩ |
    ⟨before, v, after, e, hsplit, hbefore, hrefused, hvs⟩
  · refine ⟨iff_of_true ⟨arguments, hvs⟩ hall, fun arguments' h => ?_, fun e h => ?_⟩
    · cases hvs.symm.trans h
      exact hcontents
    · cases hvs.symm.trans h
  · refine ⟨iff_of_false ?_ fun hall => ?_, fun arguments h => ?_, fun e' h => ?_⟩
    · rintro ⟨arguments, h⟩
      cases hvs.symm.trans h
    · refine hall v ?_ e hrefused
      rw [hsplit]
      exact List.mem_append_right before List.mem_cons_self
    · cases hvs.symm.trans h
    · cases hvs.symm.trans h
      exact ⟨before, v, after, hsplit, hbefore, hrefused⟩

/-- The greatest numbers that are narrowed and widened, with a null between them; and a number that
is too large for BIGINT, in front of a null of a type that has no argument. -/
theorem bind_keeps_content_greatest :
    let greatest : List Value :=
      [.bigUnsigned (some 9223372036854775807), .bigInt none, .smallUnsigned (some 65535)]
    let excessive : List Value := [.bool none, .bigUnsigned (some 9223372036854775808), .char none]
    (∃ arguments, bind greatest = .ok arguments ∧ arguments.map Argument.content =
      [.integer (some 9223372036854775807), .integer none, .integer (some 65535)]) ∧
    bind excessive = .error .tooLarge ∧ ∃ before v after, excessive = before ++ v :: after ∧
      (∀ u ∈ before, ∀ e', ¬ u.Refused e') ∧ v.Refused .tooLarge := by
  intro greatest excessive
  obtain ⟨haccepted, hcontents, -⟩ := bind_keeps_content greatest
  obtain ⟨arguments, h⟩ := haccepted.2 <| by
    simp only [greatest, List.forall_mem_cons]
    refine ⟨?_, nofun, nofun, nofun⟩
    rintro e (_ | _ | _ | _ | ⟨_, hlarge⟩)
    exact absurd hlarge (by decide)
  have herror : bind excessive = .error .tooLarge := rfl
  exact ⟨⟨arguments, h, hcontents arguments h⟩, herror,
    (bind_keeps_content excessive).2.2 _ herror⟩

end ForumSummary.Sql

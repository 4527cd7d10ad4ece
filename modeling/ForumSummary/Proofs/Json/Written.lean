import ForumSummary.Json.Outline

/-!
# Texts that write a value

`v.Written cs` says that a text writes a value: tokens as this library writes them, with any blanks
between them that JSON allows. A value that holds no binary64 number (`Exact`) is written by its
compact text (`written_compact`) and by its pretty text at any depth (`written_pretty`).
-/

namespace ForumSummary.Json

/-- A text of blanks only. -/
def Blank (cs : List Char) : Prop :=
  ∀ c ∈ cs, isJsonBlank c = true

theorem blank_nil : Blank [] :=
  nofun

/-! ## Values without binary64 numbers -/

mutual

/-- A value holds no binary64 number, at no depth. -/
def Exact : Json → Prop
  | .null | .bool _ | .string _ => True
  | .number (.int ..) => True
  | .number (.float _) => False
  | .array items => AllExact items
  | .object members => MembersExact members

/-- No item holds a binary64 number. -/
def AllExact : List Json → Prop
  | [] => True
  | v :: vs => v.Exact ∧ AllExact vs

/-- No member holds a binary64 number. -/
def MembersExact : List (String × Json) → Prop
  | [] => True
  | (_, v) :: ms => v.Exact ∧ MembersExact ms

end

/-- `AllExact` item by item. -/
theorem allExact_iff {vs : List Json} : AllExact vs ↔ ∀ v ∈ vs, v.Exact := by
  induction vs with
  | nil => simp [AllExact]
  | cons v vs ih => simp [AllExact, ih]

/-- `MembersExact` member by member. -/
theorem membersExact_iff {ms : List (String × Json)} :
    MembersExact ms ↔ ∀ m ∈ ms, m.2.Exact := by
  induction ms with
  | nil => simp [MembersExact]
  | cons m ms ih => simp [MembersExact, ih]

theorem exact_ofInt64 (n : Int64) : (ofInt64 n).Exact :=
  trivial

theorem exact_ofOption {α : Type} {toJson : α → Json} (h : ∀ a, (toJson a).Exact)
    (value : Option α) : (ofOption toJson value).Exact := by
  cases value with
  | none => trivial
  | some a => exact h a

theorem exact_ofList {α : Type} {toJson : α → Json} (h : ∀ a, (toJson a).Exact)
    (as : List α) : (ofList toJson as).Exact :=
  allExact_iff.2 (List.forall_mem_map.2 fun a _ => h a)

/-! ## Texts -/

mutual

/-- A text writes a value. -/
inductive Written : Json → List Char → Prop where
  | null : Written .null ['n', 'u', 'l', 'l']
  | yes : Written (.bool true) ['t', 'r', 'u', 'e']
  | no : Written (.bool false) ['f', 'a', 'l', 's', 'e']
  | int {n : Int} {h : IsWord n} : Written (.number (.int n h)) (Numeral.chars n)
  | string {s : String} : Written (.string s) (quote s)
  | emptyArray {b : List Char} (hb : Blank b) : Written (.array []) ('[' :: (b ++ [']']))
  | array {vs : List Json} {b cs : List Char} (hb : Blank b) (hvs : ItemsWritten vs cs) :
    Written (.array vs) ('[' :: (b ++ cs))
  | emptyObject {b : List Char} (hb : Blank b) : Written (.object []) ('\x7b' :: (b ++ ['\x7d']))
  | object {ms : List (String × Json)} {b cs : List Char} (hb : Blank b)
    (hms : MembersWritten ms cs) : Written (.object ms) ('\x7b' :: (b ++ cs))

/-- A text writes the items of an array, one at least, and its closing bracket. -/
inductive ItemsWritten : List Json → List Char → Prop where
  | last {v : Json} {cs a : List Char} (hv : Written v cs) (ha : Blank a) :
    ItemsWritten [v] (cs ++ (a ++ [']']))
  | next {v : Json} {vs : List Json} {cs a b ds : List Char} (hv : Written v cs) (ha : Blank a)
    (hb : Blank b) (hvs : ItemsWritten vs ds) :
    ItemsWritten (v :: vs) (cs ++ (a ++ ',' :: (b ++ ds)))

/-- A text writes the members of an object, one at least, and its closing brace. -/
inductive MembersWritten : List (String × Json) → List Char → Prop where
  | last {k : String} {v : Json} {a b cs c : List Char} (ha : Blank a) (hb : Blank b)
    (hv : Written v cs) (hc : Blank c) :
    MembersWritten [(k, v)] (quote k ++ (a ++ ':' :: (b ++ (cs ++ (c ++ ['\x7d'])))))
  | next {k : String} {v : Json} {ms : List (String × Json)} {a b cs c d ds : List Char}
    (ha : Blank a) (hb : Blank b) (hv : Written v cs) (hc : Blank c) (hd : Blank d)
    (hms : MembersWritten ms ds) :
    MembersWritten ((k, v) :: ms)
      (quote k ++ (a ++ ':' :: (b ++ (cs ++ (c ++ ',' :: (d ++ ds))))))

end

/-! ## The compact text -/

mutual

/-- The compact text of a value writes it. -/
theorem written_compact : ∀ {v : Json}, v.Exact → v.Written v.compact
  | .null, _ => .null
  | .bool true, _ => .yes
  | .bool false, _ => .no
  | .number (.int _ _), _ => .int
  | .string _, _ => .string
  | .array [], _ => .emptyArray blank_nil
  | .array (_ :: _), h =>
    .array (b := []) blank_nil (itemsWritten_compactItems h (List.cons_ne_nil _ _))
  | .object [], _ => .emptyObject blank_nil
  | .object (_ :: _), h =>
    .object (b := []) blank_nil (membersWritten_compactMembers h (List.cons_ne_nil _ _))

theorem itemsWritten_compactItems : ∀ {vs : List Json}, AllExact vs → vs ≠ [] →
    ItemsWritten vs (compactItems vs)
  | [], _, h => absurd rfl h
  | [_], h, _ => .last (written_compact h.1) blank_nil
  | _ :: _ :: _, h, _ =>
    .next (b := []) (written_compact h.1) blank_nil blank_nil
      (itemsWritten_compactItems h.2 (List.cons_ne_nil _ _))

theorem membersWritten_compactMembers : ∀ {ms : List (String × Json)}, MembersExact ms →
    ms ≠ [] → MembersWritten ms (compactMembers ms)
  | [], _, h => absurd rfl h
  | [(_, _)], h, _ => .last blank_nil blank_nil (written_compact h.1) blank_nil
  | (_, _) :: _ :: _, h, _ =>
    .next (d := []) blank_nil blank_nil (written_compact h.1) blank_nil blank_nil
      (membersWritten_compactMembers h.2 (List.cons_ne_nil _ _))

end

/-! ## The pretty text -/

theorem blank_space : Blank [' '] := by
  rintro c hc
  obtain rfl := List.mem_singleton.1 hc
  rfl

/-- A line break with the indentation behind it is blank. -/
theorem blank_newline (depth : Nat) : Blank (newline depth) := by
  intro c hc
  rcases List.mem_cons.1 hc with rfl | hspace
  · rfl
  · rw [List.eq_of_mem_replicate hspace]
    rfl

mutual

/-- The pretty text of a value writes it, whatever depth it is laid out from. -/
theorem written_pretty : ∀ {v : Json}, v.Exact → ∀ depth, v.Written (v.pretty depth)
  | .null, _, _ => .null
  | .bool true, _, _ => .yes
  | .bool false, _, _ => .no
  | .number (.int _ _), _, _ => .int
  | .string _, _, _ => .string
  | .array [], _, _ => .emptyArray blank_nil
  | .array (_ :: _), h, depth => by
    obtain ⟨cs, hcs, hitems⟩ := itemsWritten_prettyItems h (List.cons_ne_nil _ _) depth
    rw [pretty, hcs]
    exact .array (blank_newline (depth + 1)) hitems
  | .object [], _, _ => .emptyObject blank_nil
  | .object (_ :: _), h, depth => by
    obtain ⟨cs, hcs, hmembers⟩ := membersWritten_prettyMembers h (List.cons_ne_nil _ _) depth
    rw [pretty, hcs]
    exact .object (blank_newline (depth + 1)) hmembers

/-- Behind the line break that begins them, the pretty texts of items write them. -/
theorem itemsWritten_prettyItems : ∀ {vs : List Json}, AllExact vs → vs ≠ [] → ∀ depth,
    ∃ cs, prettyItems depth vs = newline (depth + 1) ++ cs ∧ ItemsWritten vs cs
  | [], _, h, _ => absurd rfl h
  | [_], h, _, depth =>
    ⟨_, List.append_assoc .., .last (written_pretty h.1 (depth + 1)) (blank_newline depth)⟩
  | _ :: w :: ws, h, _, depth => by
    obtain ⟨ds, hds, hrest⟩ := itemsWritten_prettyItems h.2 (List.cons_ne_nil _ _) depth
    have hnext : prettyNextItems depth (w :: ws) = ',' :: (newline (depth + 1) ++ ds) :=
      congrArg (',' :: ·) hds
    rw [prettyItems, hnext, List.append_assoc]
    exact ⟨_, rfl, .next (a := []) (written_pretty h.1 (depth + 1)) blank_nil
      (blank_newline (depth + 1)) hrest⟩

/-- Behind the line break that begins them, the pretty texts of members write them. -/
theorem membersWritten_prettyMembers : ∀ {ms : List (String × Json)}, MembersExact ms →
    ms ≠ [] → ∀ depth,
      ∃ cs, prettyMembers depth ms = newline (depth + 1) ++ cs ∧ MembersWritten ms cs
  | [], _, h, _ => absurd rfl h
  | [(_, _)], h, _, depth => by
    rw [prettyMembers, List.append_assoc, List.append_assoc, List.append_assoc]
    exact ⟨_, rfl, .last (a := []) blank_nil blank_space (written_pretty h.1 (depth + 1))
      (blank_newline depth)⟩
  | (_, _) :: m :: ms, h, _, depth => by
    obtain ⟨ds, hds, hrest⟩ := membersWritten_prettyMembers h.2 (List.cons_ne_nil _ _) depth
    have hnext : prettyNextMembers depth (m :: ms) = ',' :: (newline (depth + 1) ++ ds) :=
      congrArg (',' :: ·) hds
    rw [prettyMembers, hnext, List.append_assoc, List.append_assoc, List.append_assoc]
    exact ⟨_, rfl, .next (a := []) (c := []) blank_nil blank_space
      (written_pretty h.1 (depth + 1)) blank_nil (blank_newline (depth + 1)) hrest⟩

end

end ForumSummary.Json

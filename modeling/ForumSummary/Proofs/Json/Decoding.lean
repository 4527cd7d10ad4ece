import ForumSummary.Json.Record
import ForumSummary.Proofs.Json.Reading

/-!
# Decoding what is written

Decoders read back the values that this library writes. A signed word is read from its numeral, at
both ends of the range too (`int64_outline`), and a list from the array of its items
(`list_outline`). A record is built from an object that names each of its fields at most once, in
any order (`Record.decode_outline`).
-/

namespace ForumSummary.Json

theorem ok_bind {α β : Type} (a : α) (next : α → Except Failure β) :
    (Except.ok a >>= next) = next a :=
  rfl

theorem under_ok {α : Type} (step : Step) (a : α) : under step (.ok a) = .ok a :=
  rfl

/-! ## Values -/

/-- A word is read between bounds that it keeps. -/
theorem integerBetween_ofInt {n lo hi : Int} (hword : IsWord n) (hlo : lo ≤ n) (hhi : n ≤ hi)
    (expected : String) :
    Decoder.integerBetween lo hi expected (.number (.ofInt n)) = .ok n := by
  simp only [Decoder.integerBetween, value?_ofInt hword, if_pos (And.intro hlo hhi)]

theorem int64_outline (n : Int64) : Decoder.int64 (ofInt64 n).outline = .ok n := by
  have hword : IsWord n.toInt :=
    ⟨n.minValue_le_toInt, Int.lt_of_lt_of_le n.toInt_lt (by decide)⟩
  show (Decoder.integerBetween _ _ _ (.number (.ofInt n.toInt))).map Int64.ofInt = _
  rw [integerBetween_ofInt hword n.minValue_le_toInt n.toInt_le]
  exact congrArg Except.ok (Int64.ofInt_toInt n)

/-- A number without a sign is read below a bound. -/
theorem integerBetween_natCast {n size : Nat} (hword : n < UInt64.size) (hsize : n < size)
    (expected : String) :
    Decoder.integerBetween 0 (size - 1) expected (.number (.ofInt n)) = .ok (n : Int) :=
  integerBetween_ofInt ⟨Int.le_trans (by decide) (Int.natCast_nonneg n), Int.ofNat_lt.2 hword⟩
    (Int.natCast_nonneg n) (Int.le_sub_one_of_lt (Int.ofNat_lt.2 hsize)) expected

theorem uint64_outline (n : UInt64) : Decoder.uint64 (ofUInt64 n).outline = .ok n := by
  show (Decoder.integerBetween _ _ _ (.number (.ofInt n.toNat))).map _ = _
  rw [integerBetween_natCast n.toNat_lt n.toNat_lt]
  exact congrArg Except.ok UInt64.ofNat_toNat

theorem uint32_outline (n : UInt32) : Decoder.uint32 (ofUInt32 n).outline = .ok n := by
  show (Decoder.integerBetween _ _ _ (.number (.ofInt n.toUInt64.toNat))).map _ = _
  rw [UInt32.toNat_toUInt64,
    integerBetween_natCast (Nat.lt_trans n.toNat_lt (by decide)) n.toNat_lt]
  exact congrArg Except.ok UInt32.ofNat_toNat

/-- A value that may be missing is read, if what is there is never written as null. -/
theorem optional_outline {α : Type} {d : Decoder α} {toJson : α → Json}
    (h : ∀ a, d (toJson a).outline = .ok a) (hnull : ∀ a, (toJson a).outline ≠ .null)
    (value : Option α) : Decoder.optional d (ofOption toJson value).outline = .ok value := by
  cases value with
  | none => rfl
  | some a =>
    rw [ofOption, Decoder.optional, h]
    · rfl
    · exact hnull a

theorem itemsFrom_map {α : Type} {d : Decoder α} {toJson : α → Json} {as : List α}
    (h : ∀ a ∈ as, d (toJson a).outline = .ok a) (index : Nat) :
    Decoder.itemsFrom d index ((as.map toJson).map outline) = .ok as := by
  induction as generalizing index with
  | nil => rfl
  | cons a as ih =>
    simp only [List.map_cons, Decoder.itemsFrom, h a List.mem_cons_self,
      ih (fun b hb => h b (List.mem_cons_of_mem a hb))]
    rfl

/-- A list is read from the array of its items. -/
theorem list_outline {α : Type} {d : Decoder α} {toJson : α → Json} {as : List α}
    (h : ∀ a ∈ as, d (toJson a).outline = .ok a) :
    Decoder.list d (ofList toJson as).outline = .ok as := by
  unfold ofList outline
  simp only [Decoder.list, outlines_eq_map, itemsFrom_map h]
  rfl

mutual

/-- The outline of a value without binary64 numbers denotes this value. -/
theorem toJson?_outline : ∀ {v : Json}, v.Exact → v.outline.toJson? = some v
  | .null, _ | .bool _, _ | .string _, _ => rfl
  | .number (.int n hn), _ => by
    rw [outline, Outline.toJson?, value?_ofInt hn]
    rfl
  | .array vs, h => by
    rw [outline, Outline.toJson?, itemsToJson?_outlines h]
    rfl
  | .object ms, h => by
    rw [outline, Outline.toJson?, membersToJson?_outlines h]
    rfl

theorem itemsToJson?_outlines : ∀ {vs : List Json}, AllExact vs →
    Outline.itemsToJson? (outlines vs) = some vs
  | [], _ => rfl
  | v :: vs, h => by
    rw [outlines, Outline.itemsToJson?, toJson?_outline h.1, itemsToJson?_outlines h.2]
    rfl

theorem membersToJson?_outlines : ∀ {ms : List (String × Json)}, MembersExact ms →
    Outline.membersToJson? (memberOutlines ms) = some ms
  | [], _ => rfl
  | (k, v) :: ms, h => by
    rw [memberOutlines, Outline.membersToJson?, toJson?_outline h.1, membersToJson?_outlines h.2]
    rfl

end

/-- A text that writes a value without binary64 numbers is read as this value: members keep their
order and their repetitions, and containers may be nested to any depth. -/
theorem ofText?_of_written {v : Json} {cs : List Char} (h : v.Exact) (hcs : v.Written cs) :
    ofText? cs = some v := by
  have hread : Outline.ofText cs = (v.outline, true) := by
    simpa using outline_ofText_of_written blank_nil hcs blank_nil
  unfold ofText?
  rw [hread]
  exact toJson?_outline h

/-- A value without binary64 numbers may be read whole, if it is not nested too deeply. -/
theorem readWholeValue_outline {v : Json} {level : Nat} (h : v.Exact)
    (hdepth : level + v.outline.depth ≤ 127) :
    Decoder.readWholeValue level v.outline = .ok () := by
  unfold Decoder.readWholeValue
  rw [toJson?_outline h, if_pos ⟨rfl, hdepth⟩]

theorem outline_ofText_compact {v : Json} (h : v.Exact) :
    Outline.ofText v.compactText.toList = (v.outline, true) := by
  rw [compactText, String.toList_ofList]
  simpa using outline_ofText_of_written blank_nil (written_compact h) blank_nil

/-- Of the compact text of a value, a decoder sees the outline of the value. -/
theorem Decoder.ofText_compact {α : Type} (d : Decoder α) {v : Json} (h : v.Exact) :
    d.ofText v.compactText = d v.outline :=
  Decoder.ofText_of_complete (outline_ofText_compact h)

/-! ## Records -/

variable {α : Type} {title : String} {r : Record α} {members : List (String × Json)}

/-- A member passes the checks of fields: it reads as the field that it names, or it names none and
follows the grammar. -/
def Record.Passes (slots : List Slot) (m : String × Json) : Prop :=
  match slots.find? (·.name = m.1) with
  | some slot => slot.check m.2.outline = .ok ()
  | none => m.2.outline.isClosed = true

/-- The members of an object pass the checks of a record's fields one after the other, if no name
repeats. -/
theorem checkMembers_outlines {slots : List Slot} {seen : List String}
    (hnodup : (members.map Prod.fst).Nodup) (hseen : ∀ m ∈ members, m.1 ∉ seen)
    (hpass : ∀ m ∈ members, Record.Passes slots m) :
    Record.checkMembers slots true seen (memberOutlines members) = .ok () := by
  induction members generalizing seen with
  | nil => rfl
  | cons m members ih =>
    obtain ⟨hm, hrest⟩ := List.nodup_cons.1 hnodup
    obtain ⟨hseenm, hseenrest⟩ := List.forall_mem_cons.1 hseen
    obtain ⟨hpassm, hpassrest⟩ := List.forall_mem_cons.1 hpass
    unfold Record.Passes at hpassm
    rw [memberOutlines, Record.checkMembers]
    cases hslot : slots.find? (·.name = m.1) with
    | none =>
      simp only [hslot] at hpassm
      simp only [Decoder.skipValue, hpassm, ih hrest hseenrest hpassrest]
      rfl
    | some slot =>
      simp only [hslot] at hpassm
      have hnext :
          Record.checkMembers slots true (m.1 :: seen) (memberOutlines members) = .ok () := by
        refine ih hrest (fun m' hm' => ?_) hpassrest
        rw [List.mem_cons, not_or]
        exact ⟨fun h => hm (h ▸ List.mem_map_of_mem hm'), hseenrest m' hm'⟩
      simp only [if_neg hseenm, hpassm, hnext]
      rfl

theorem member?_outlines (name : String) :
    Record.member? (memberOutlines members) name = (members.lookup name).map outline := by
  induction members with
  | nil => rfl
  | cons m members ih =>
    rw [memberOutlines, Record.member?, List.lookup_cons, List.lookup_cons]
    cases h : name == m.1 with
    | true => simp [beq_iff_eq.1 h]
    | false =>
      have hne : (some name == some m.1) = false := by simpa using h
      rw [hne]
      exact ih

/-- A record is built from the members of an object that repeats no name and whose members all pass
the checks. -/
theorem Record.decode_of_passes (hnodup : (members.map Prod.fst).Nodup)
    (hpass : ∀ m ∈ members, Passes r.slots m) :
    r.decode title (Json.object members).outline =
      r.build fun name => (members.lookup name).map outline := by
  rw [outline, Record.decode, checkMembers_outlines hnodup (fun _ _ => List.not_mem_nil) hpass]
  show r.build (Record.member? (memberOutlines members)) = _
  rw [funext member?_outlines]

/-- A record is built from the members of an object that names each of its fields at most once and
whose members all read. -/
theorem Record.decode_outline (hnodup : (members.map Prod.fst).Nodup)
    (hread : ∀ m ∈ members, ∃ slot, r.slots.find? (·.name = m.1) = some slot ∧
      slot.check m.2.outline = .ok ()) :
    r.decode title (Json.object members).outline =
      r.build fun name => (members.lookup name).map outline := by
  refine decode_of_passes hnodup fun m hm => ?_
  obtain ⟨slot, hslot, hcheck⟩ := hread m hm
  rwa [Passes, hslot]

end ForumSummary.Json

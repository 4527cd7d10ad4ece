import ForumSummary.Json.Record
import ForumSummary.Proofs.Except
import Mathlib.Data.List.Nodup
import Mathlib.Logic.Function.Basic

/-!
# A value in its place

A record is read from a body, and the value of one of its fields has a place there: it is a member
of an object or an item of an array, with anything before it and behind it (`Place`). What stands
before the place decides whether the value is looked at. If it is, then it is checked, the rest of
the body is checked, and the record is built from the value and from what the other fields find
(`Record.decode_fill`); the rest and the other fields do not depend on the value.
-/

namespace ForumSummary.Json

/-! ## Places -/

/-- The place of a value in an object or in an array: all that stands around the value. -/
inductive Place where
  | member (before : List (Option String × Outline)) (name : String)
    (after : List (Option String × Outline)) (closed : Bool)
  | item (before after : List Outline) (closed : Bool)

namespace Place

/-- The body with a value in the place. -/
def fill : Place → Outline → Outline
  | .member before name after closed, v => .object (before ++ (some name, v) :: after) closed
  | .item before after closed, v => .array (before ++ v :: after) closed

/-- The step from the body to the place. -/
def step : Place → Step
  | .member _ name _ _ => .member name
  | .item before _ _ => .item before.length

/-- The place is that of the field of a name: the member has this name, or the item has the number
of the field. -/
def IsFor (slots : List Slot) (field : String) : Place → Prop
  | .member _ name _ _ => name = field
  | .item before _ _ => (slots.map Slot.name)[before.length]? = some field

/-- What fields find before the place. -/
def findBefore (slots : List Slot) : Place → String → Option Outline
  | .member before .. => Record.member? before
  | .item before .. => Record.item? slots before

/-- What fields find behind the place. -/
def findAfter (slots : List Slot) : Place → String → Option Outline
  | .member _ _ after _ => Record.member? after
  | .item before after _ => Record.item? (slots.drop (before.length + 1)) after

/-- What fields find around the place. -/
def others (slots : List Slot) (p : Place) (field : String) : Option Outline :=
  (p.findBefore slots field).or (p.findAfter slots field)

/-- What fields find in the body with a value in the place. -/
def find (slots : List Slot) : Place → Outline → String → Option Outline
  | .member before name after _, v => Record.member? (before ++ (some name, v) :: after)
  | .item before after _, v => Record.item? slots (before ++ v :: after)

/-- The checks of the body with a value in the place. -/
def check (title : String) (slots : List Slot) : Place → Outline → Except Failure Unit
  | .member before name after closed, v =>
    Record.checkMembers slots closed [] (before ++ (some name, v) :: after)
  | .item before after closed, v =>
    Record.checkItems title slots.length closed 0 slots (before ++ v :: after)

end Place

/-! ## Fields -/

variable {slots : List Slot} {slot : Slot} {title : String} {closed : Bool}

/-- A field is found by its name, if no two fields have one name. -/
theorem find?_name (hnodup : (slots.map Slot.name).Nodup) (hslot : slot ∈ slots) :
    slots.find? (·.name = slot.name) = some slot := by
  cases hfind : slots.find? (·.name = slot.name) with
  | none =>
    have hne := List.find?_eq_none.1 hfind slot hslot
    simp at hne
  | some slot' =>
    have hname : slot'.name = slot.name := by simpa using List.find?_some hfind
    exact congrArg some (List.inj_on_of_nodup_map hnodup (List.mem_of_find?_eq_some hfind) hslot
      hname)

/-- The fields before and behind the one of a number, if no two fields have one name. -/
theorem exists_eq_append_slot (hnodup : (slots.map Slot.name).Nodup) (hslot : slot ∈ slots)
    {index : Nat} (hindex : (slots.map Slot.name)[index]? = some slot.name) :
    ∃ front back, slots = front ++ slot :: back ∧ front.length = index ∧
      slots.drop (index + 1) = back ∧ slot.name ∉ front.map Slot.name := by
  rw [List.getElem?_map, Option.map_eq_some_iff] at hindex
  obtain ⟨slot', hget, hname⟩ := hindex
  obtain ⟨hlt, hslot'⟩ := List.getElem?_eq_some_iff.1 hget
  obtain rfl : slot' = slot := List.inj_on_of_nodup_map hnodup (hslot' ▸ List.getElem_mem hlt)
    hslot hname
  have hsplit : slots = slots.take index ++ slot' :: slots.drop (index + 1) := by
    rw [← hslot', List.getElem_cons_drop, List.take_append_drop]
  refine ⟨_, _, hsplit, List.length_take_of_le (Nat.le_of_lt hlt), rfl, fun hmem => ?_⟩
  rw [hsplit, List.map_append, List.nodup_append] at hnodup
  exact hnodup.2.2 _ hmem _ List.mem_cons_self rfl

/-! ## What fields find -/

theorem member?_fill (before after : List (Option String × Outline)) (name field : String)
    (v : Outline) :
    Record.member? (before ++ (some name, v) :: after) field =
      (Record.member? before field).or
        (if field = name then some v else Record.member? after field) := by
  simp only [Record.member?, List.lookup_append, List.lookup_cons]
  by_cases h : field = name
  · simp [h]
  · simp [h, beq_false_of_ne h]

/-- Fields for which there are no items find none. -/
theorem item?_append_left {front back : List Slot} {items : List Outline}
    (hlength : front.length = items.length) :
    Record.item? (front ++ back) items = Record.item? front items := by
  have hnames : (front.map Slot.name).length = items.length := by rw [List.length_map, hlength]
  have hzip : (front.map Slot.name ++ back.map Slot.name).zip (items ++ []) =
      (front.map Slot.name).zip items ++ (back.map Slot.name).zip [] :=
    List.zip_append hnames
  rw [List.append_nil, List.zip_nil_right, List.append_nil] at hzip
  funext field
  rw [Record.item?, List.map_append, hzip]
  rfl

theorem item?_of_not_mem {field : String} (h : field ∉ slots.map Slot.name)
    (items : List Outline) : Record.item? slots items field = none := by
  refine List.lookup_eq_none_iff.2 fun entry hentry => bne_iff_ne.2 ?_
  rintro rfl
  exact h (List.of_mem_zip hentry).1

theorem item?_fill {front back : List Slot} {before : List Outline}
    (hlength : front.length = before.length) (after : List Outline) (v : Outline)
    (field : String) :
    Record.item? (front ++ slot :: back) (before ++ v :: after) field =
      (Record.item? front before field).or
        (if field = slot.name then some v else Record.item? back after field) := by
  have hnames : (front.map Slot.name).length = before.length := by rw [List.length_map, hlength]
  rw [Record.item?, List.map_append, List.zip_append hnames, List.lookup_append, List.map_cons,
    List.zip_cons_cons, List.lookup_cons]
  by_cases h : field = slot.name
  · simp [h, Record.item?]
  · simp [h, beq_false_of_ne h, Record.item?]

/-! ## What is checked -/

/-- Either something before a member decides, or the member is checked, as the first of its name,
and then what follows it. -/
theorem checkMembers_fill {name : String} (hslot : slots.find? (·.name = name) = some slot)
    (before after : List (Option String × Outline)) (seen : List String) :
    (∃ e, ∀ v, Record.checkMembers slots closed seen (before ++ (some name, v) :: after) =
      .error e) ∨
    (name ∉ seen ∧ Record.member? before name = none ∧ ∃ rest : Except Failure Unit, ∀ v,
      Record.checkMembers slots closed seen (before ++ (some name, v) :: after) =
        (do under (.member name) (slot.check v); rest)) := by
  -- What stands before the member only adds to the names that were seen.
  induction before generalizing seen with
  | nil =>
    by_cases hseen : name ∈ seen
    · refine .inl ⟨.data [] (.duplicateField name), fun v => ?_⟩
      simp only [List.nil_append, Record.checkMembers, hslot, if_pos hseen]
      rfl
    · refine .inr ⟨hseen, rfl, Record.checkMembers slots closed (name :: seen) after,
        fun v => ?_⟩
      simp only [List.nil_append, Record.checkMembers, hslot, if_neg hseen]
  | cons m before ih =>
    obtain ⟨_ | other, w⟩ := m
    · exact .inl ⟨.malformed, fun v => rfl⟩
    have hlookup (hne : name ≠ other) :
        Record.member? ((some other, w) :: before) name = Record.member? before name := by
      rw [Record.member?, List.lookup_cons, beq_false_of_ne (by simpa using hne)]
      rfl
    cases hother : slots.find? (·.name = other) with
    | none =>
      -- A member of no field is passed over, so it has another name.
      have hne : name ≠ other := by
        rintro rfl
        cases hother.symm.trans hslot
      simp only [List.cons_append, Record.checkMembers, hother, hlookup hne]
      cases Decoder.skipValue w with
      | error e => exact .inl ⟨e, fun v => rfl⟩
      | ok _ => exact ih seen
    | some slot' =>
      simp only [List.cons_append, Record.checkMembers, hother]
      by_cases hseen : other ∈ seen
      · simp only [if_pos hseen]
        exact .inl ⟨_, fun v => rfl⟩
      simp only [if_neg hseen]
      cases under (.member other) (slot'.check w) with
      | error e => exact .inl ⟨e, fun v => rfl⟩
      | ok _ =>
        obtain h | ⟨hname, hbefore, h⟩ := ih (other :: seen)
        · exact .inl h
        · rw [List.mem_cons, not_or] at hname
          exact .inr ⟨hname.2, by rw [hlookup hname.1, hbefore], h⟩

/-- Either something before an item decides, or the item is checked, and then what follows it. -/
theorem checkItems_fill {size : Nat} {front : List Slot} {before : List Outline}
    (hlength : front.length = before.length) (back : List Slot) (after : List Outline)
    (index : Nat) :
    (∃ e, ∀ v, Record.checkItems title size closed index (front ++ slot :: back)
      (before ++ v :: after) = .error e) ∨
    ∃ rest : Except Failure Unit, ∀ v,
      Record.checkItems title size closed index (front ++ slot :: back) (before ++ v :: after) =
        (do under (.item (index + before.length)) (slot.check v); rest) := by
  -- Fields and items before the place are paired, and each pair is checked or decides.
  induction front generalizing before index with
  | nil =>
    obtain rfl := List.length_eq_zero_iff.1 hlength.symm
    exact .inr ⟨Record.checkItems title size closed (index + 1) back after, fun v => rfl⟩
  | cons first front ih =>
    obtain ⟨w, before, rfl⟩ := List.exists_cons_of_length_eq_add_one hlength.symm
    simp only [List.cons_append, Record.checkItems]
    cases under (.item index) (first.check w) with
    | error e => exact .inl ⟨e, fun v => rfl⟩
    | ok _ =>
      have hindex : index + (w :: before).length = index + 1 + before.length := by
        rw [List.length_cons]
        omega
      rw [hindex]
      exact ih (by simpa using hlength) (index + 1)

/-! ## Reading a body -/

section
variable {p : Place}

/-- Either something before the place decides, or the value is checked, as the first for its field,
and then what follows it. -/
theorem Place.check_cases (title : String) (hnodup : (slots.map Slot.name).Nodup)
    (hslot : slot ∈ slots) (hp : p.IsFor slots slot.name) :
    (∃ e, ∀ v, p.check title slots v = .error e) ∨
    (p.findBefore slots slot.name = none ∧ ∃ rest : Except Failure Unit, ∀ v,
      p.check title slots v = (do under p.step (slot.check v); rest)) := by
  cases p with
  | member before name after closed =>
    obtain rfl : name = slot.name := hp
    obtain h | ⟨-, hbefore, h⟩ := checkMembers_fill (find?_name hnodup hslot) before after []
    · exact .inl h
    · exact .inr ⟨hbefore, h⟩
  | item before after closed =>
    obtain ⟨front, back, rfl, hlength, -, hfront⟩ := exists_eq_append_slot hnodup hslot hp
    have hbefore : Record.item? (front ++ slot :: back) before slot.name = none := by
      rw [item?_append_left hlength, item?_of_not_mem hfront]
    obtain h | h := checkItems_fill hlength back after 0
    · exact .inl h
    · rw [Nat.zero_add] at h
      exact .inr ⟨hbefore, h⟩

/-- The field of the place finds the value, if it finds none before it, and the other fields find
what stands around it. -/
theorem Place.find_eq_update (hnodup : (slots.map Slot.name).Nodup) (hslot : slot ∈ slots)
    (hp : p.IsFor slots slot.name) (hbefore : p.findBefore slots slot.name = none) (v : Outline) :
    p.find slots v = Function.update (p.others slots) slot.name (some v) := by
  funext field
  have hfind : p.find slots v field = (p.findBefore slots field).or
      (if field = slot.name then some v else p.findAfter slots field) := by
    cases p with
    | member before name after closed =>
      obtain rfl : name = slot.name := hp
      exact member?_fill before after _ field v
    | item before after closed =>
      obtain ⟨front, back, rfl, hlength, hback, -⟩ := exists_eq_append_slot hnodup hslot hp
      rw [Place.findAfter, hback, Place.findBefore, item?_append_left hlength]
      exact item?_fill hlength after v field
  rw [hfind]
  by_cases h : field = slot.name
  · rw [h, hbefore, if_pos rfl, Function.update_self, Option.none_or]
  · rw [if_neg h, Function.update_of_ne h, Place.others]

/-- The value in a place is checked and built from, or something before it decides; all else that
is read does not depend on the value. -/
theorem Record.decode_fill {α : Type} {r : Record α} (title : String)
    (hnodup : (r.slots.map Slot.name).Nodup) (hslot : slot ∈ r.slots)
    (hp : p.IsFor r.slots slot.name) :
    (∃ e, ∀ v, r.decode title (p.fill v) = .error e) ∨
    ∃ rest : Except Failure Unit, ∀ v, r.decode title (p.fill v) = (do
      under p.step (slot.check v)
      rest
      r.build (Function.update (p.others r.slots) slot.name (some v))) := by
  have hdecode (v : Outline) : r.decode title (p.fill v) =
      (do p.check title r.slots v; r.build (p.find r.slots v)) := by
    cases p <;> rfl
  obtain ⟨e, he⟩ | ⟨hbefore, rest, hrest⟩ := Place.check_cases title hnodup hslot hp
  · refine .inl ⟨e, fun v => ?_⟩
    rw [hdecode, he]
    rfl
  · refine .inr ⟨rest, fun v => ?_⟩
    rw [hdecode, hrest, Place.find_eq_update hnodup hslot hp hbefore]
    exact bind_assoc _ _ _

/-- Values that a field checks alike, and that the record is built alike from, may stand for each
other in a place. -/
theorem Record.decode_fill_congr {α : Type} {r : Record α} {v v' : Outline}
    (hnodup : (r.slots.map Slot.name).Nodup) (hslot : slot ∈ r.slots)
    (hp : p.IsFor r.slots slot.name) (hcheck : slot.check v = slot.check v')
    (hbuild : ∀ others, r.build (Function.update others slot.name (some v)) =
      r.build (Function.update others slot.name (some v'))) :
    r.decode title (p.fill v) = r.decode title (p.fill v') := by
  obtain ⟨e, he⟩ | ⟨rest, hrest⟩ := Record.decode_fill title hnodup hslot hp
  · rw [he, he]
  · rw [hrest, hrest, hcheck, hbuild]

/-- When a body is read, its value is checked and the record is built from it, and with another
value in its place the body is read as far as this value is checked and the record is built. -/
theorem Record.decode_fill_of_ok {α : Type} {r : Record α} {v : Outline} {a : α}
    (hnodup : (r.slots.map Slot.name).Nodup) (hslot : slot ∈ r.slots)
    (hp : p.IsFor r.slots slot.name) (h : r.decode title (p.fill v) = .ok a) :
    r.build (Function.update (p.others r.slots) slot.name (some v)) = .ok a ∧
      ∀ v', r.decode title (p.fill v') = (do
        under p.step (slot.check v')
        r.build (Function.update (p.others r.slots) slot.name (some v'))) := by
  obtain ⟨e, he⟩ | ⟨rest, hrest⟩ := Record.decode_fill title hnodup hslot hp
  · cases (he v).symm.trans h
  · rw [hrest] at h
    obtain ⟨_, -, h⟩ := Except.bind_eq_ok_iff.1 h
    obtain ⟨_, hok, hbuild⟩ := Except.bind_eq_ok_iff.1 h
    refine ⟨hbuild, fun v' => ?_⟩
    rw [hrest, hok]
    rfl

end

end ForumSummary.Json

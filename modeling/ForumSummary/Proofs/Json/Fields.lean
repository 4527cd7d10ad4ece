import ForumSummary.Proofs.Except
import ForumSummary.Proofs.Json.Decoding
import Mathlib.Logic.Function.Basic

/-!
# Records, field by field

A record is put together from fields, and so is the proof that it is read: each field finds its
value (`Record.Reads`), and what is built of fields reads what the parts read (`Reads.seq`). Then
the record is read from an object with these values (`Record.decode_of_reads`). Its members may
stand in any order, and members of other names among them are passed over.
-/

namespace ForumSummary.Json

/-! ## Closed values -/

mutual

/-- The outline of a value without binary64 numbers follows the grammar to its end. -/
theorem isClosed_outline : ∀ {v : Json}, v.Exact → v.outline.isClosed = true
  | .null, _ | .bool _, _ | .string _, _ | .number (.int ..), _ => rfl
  | .array vs, h => by
    rw [outline, Outline.isClosed, areClosed_outlines h]
    rfl
  | .object ms, h => by
    rw [outline, Outline.isClosed, membersAreClosed_outlines h]
    rfl

theorem areClosed_outlines : ∀ {vs : List Json}, AllExact vs →
    Outline.areClosed (outlines vs) = true
  | [], _ => rfl
  | v :: vs, h => by
    rw [outlines, Outline.areClosed, isClosed_outline h.1, areClosed_outlines h.2]
    rfl

theorem membersAreClosed_outlines : ∀ {ms : List (String × Json)}, MembersExact ms →
    Outline.membersAreClosed (memberOutlines ms) = true
  | [], _ => rfl
  | (k, v) :: ms, h => by
    rw [memberOutlines, Outline.membersAreClosed, isClosed_outline h.1,
      membersAreClosed_outlines h.2]
    rfl

end

/-! ## Fields -/

/-- A record is read from the values of names: all that are there for its fields read, and the
record is built from them. -/
structure Record.Reads {α : Type} (r : Record α) (find : String → Option Outline) (a : α) :
    Prop where
  check : ∀ slot ∈ r.slots, ∀ o, find slot.name = some o → slot.check o = .ok ()
  build : r.build find = .ok a

namespace Record.Reads

variable {α β : Type} {find : String → Option Outline} {name : String} {o : Outline} {a : α}

theorem single {presence : Presence} {absent : Option α} {d : Decoder α}
    (hfind : find name = some o) (hread : d o = .ok a) :
    (Record.single name presence absent d).Reads find a where
  check slot hslot o' ho' := by
    obtain rfl := List.mem_singleton.1 hslot
    obtain rfl := Option.some.inj (hfind.symm.trans ho')
    simp only [hread]
    rfl
  build := by simp only [Record.single, hfind, hread]

theorem required {d : Decoder α} (hfind : find name = some o) (hread : d o = .ok a) :
    (Record.required name d).Reads find a :=
  single hfind hread

theorem nullable {d : Decoder α} {value : Option α} (hfind : find name = some o)
    (hread : Decoder.optional d o = .ok value) : (Record.nullable name d).Reads find value :=
  single hfind hread

theorem map {r : Record α} (h : r.Reads find a) (f : α → β) : (f <$> r).Reads find (f a) where
  check := h.check
  build := by
    show (r.build find).map f = .ok (f a)
    rw [h.build]
    rfl

theorem seq {f : Record (α → β)} {g : α → β} {r : Record α} (hf : f.Reads find g)
    (h : r.Reads find a) : (f <*> r).Reads find (g a) where
  check slot hslot := (List.mem_append.1 hslot).elim (hf.check slot) (h.check slot)
  build := by
    show (do let g ← f.build find; let a ← r.build find; return g a) = _
    rw [hf.build, h.build]
    rfl

end Record.Reads

/-! ## Building -/

section
variable {α β : Type} {find find' : String → Option Outline} {name : String}

theorem Record.build_required_eq_ok_iff {d : Decoder α} {a : α} :
    (Record.required name d).build find = .ok a ↔ ∃ o, find name = some o ∧ d o = .ok a := by
  unfold Record.required Record.single
  cases hfind : find name with
  | none => simp [hfind, fail]
  | some o => simp [hfind]

theorem Record.build_map_eq_ok_iff {r : Record α} {f : α → β} {b : β} :
    (f <$> r).build find = .ok b ↔ ∃ a, r.build find = .ok a ∧ f a = b :=
  Except.map_eq_ok_iff

theorem Record.build_seq_eq_ok_iff {f : Record (α → β)} {r : Record α} {b : β} :
    (f <*> r).build find = .ok b ↔
      ∃ g, f.build find = .ok g ∧ ∃ a, r.build find = .ok a ∧ g a = b := by
  show (do let g ← f.build find; let a ← r.build find; return g a) = _ ↔ _
  simp only [Except.bind_eq_ok_iff]
  exact exists_congr fun g => and_congr_right fun _ => exists_congr fun a =>
    and_congr_right fun _ => ⟨fun h => by cases h; rfl, fun h => by rw [h]; rfl⟩

theorem Record.build_map_congr {r : Record α} (h : r.build find = r.build find') (f : α → β) :
    (f <$> r).build find = (f <$> r).build find' :=
  congrArg (Except.map f) h

theorem Record.build_seq_congr {f : Record (α → β)} {r : Record α}
    (hf : f.build find = f.build find') (h : r.build find = r.build find') :
    (f <*> r).build find = (f <*> r).build find' := by
  show (do let g ← f.build find; let a ← r.build find; return g a) =
    (do let g ← f.build find'; let a ← r.build find'; return g a)
  rw [hf, h]

/-- A field is built alike from values that it reads alike, and from two values of another field. -/
theorem Record.build_single_congr {presence : Presence} {absent : Option α} {d : Decoder α}
    {field : String} {v v' : Outline} (h : name = field → d v = d v')
    (others : String → Option Outline) :
    (Record.single name presence absent d).build (Function.update others field (some v)) =
      (Record.single name presence absent d).build (Function.update others field (some v')) := by
  unfold Record.single
  by_cases hname : name = field
  · subst hname
    simp only [Function.update_self, h rfl]
  · simp only [Function.update_of_ne hname]

end

/-! ## Objects -/

variable {members : List (String × Json)}

theorem lookup_of_mem (hnodup : (members.map Prod.fst).Nodup) {m : String × Json}
    (hm : m ∈ members) : members.lookup m.1 = some m.2 := by
  obtain ⟨before, after, rfl⟩ := List.append_of_mem hm
  refine List.lookup_eq_some_iff.2 ⟨before, after, rfl, fun m' hm' => ?_⟩
  rw [List.map_append, List.nodup_append] at hnodup
  exact bne_iff_ne.2 (hnodup.2.2 _ (List.mem_map_of_mem hm') _ List.mem_cons_self).symm

/-- A record is read from an object without binary64 numbers that repeats no name and has the values
of the record's fields. -/
theorem Record.decode_of_reads {α : Type} {r : Record α} {a : α} (title : String)
    (hnodup : (members.map Prod.fst).Nodup) (hexact : MembersExact members)
    (h : r.Reads (fun name => (members.lookup name).map outline) a) :
    r.decode title (Json.object members).outline = .ok a := by
  refine (decode_of_passes hnodup fun m hm => ?_).trans h.build
  unfold Passes
  cases hslot : r.slots.find? (·.name = m.1) with
  | none => exact isClosed_outline (membersExact_iff.1 hexact m hm)
  | some slot =>
    have hname : slot.name = m.1 := by simpa using List.find?_some hslot
    refine h.check slot (List.mem_of_find?_eq_some hslot) _ ?_
    rw [hname, lookup_of_mem hnodup hm]
    rfl

end ForumSummary.Json

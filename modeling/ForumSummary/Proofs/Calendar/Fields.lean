import ForumSummary.Calendar.Selection
import ForumSummary.Proofs.Json.Fields
import ForumSummary.Proofs.Json.Places
import ForumSummary.Proofs.Text.Pieces

/-!
# The numbers of a date selector

The day, the month and the year of a selection are read from JSON numbers and from texts alike
(`decodeInt64_text`). A number outside the range of its field is an error and is never brought into
the range (`decodeBetween_of_ok`). Since nothing else in a body depends on the value of one field, a
number and its text may stand for each other in any body (`decode_number_or_text`).
-/

namespace ForumSummary.Calendar.Selection

open Json (Outline Place Record Slot)

/-- The fields of a selection that hold numbers. -/
inductive Field where
  | day
  | month
  | year
  deriving DecidableEq

namespace Field

/-- The name of a field. -/
def name : Field → String
  | day => "day"
  | month => "month"
  | year => "year"

theorem name_injective : Function.Injective name := by
  intro f f' h
  cases f <;> cases f' <;> first | rfl | exact absurd h (by decide)

/-- The flag is another field. -/
theorem enabled_ne_name (f : Field) : "enabled" ≠ f.name := by
  cases f <;> decide

/-- The least number of a field. -/
def lo : Field → Int
  | day | month => 0
  | year => Int32.minValue.toInt

/-- The greatest number of a field. -/
def hi : Field → Int
  | day | month => UInt32.size - 1
  | year => Int32.maxValue.toInt

/-- A field can hold a number. -/
def Fits (f : Field) (n : Int) : Prop :=
  f.lo ≤ n ∧ n ≤ f.hi

instance (f : Field) (n : Int) : Decidable (f.Fits n) :=
  inferInstanceAs (Decidable (_ ∧ _))

/-- The number that a selection has in a field. -/
def get : Field → Selection → Int
  | day, s => s.day.toNat
  | month, s => s.month.toNat
  | year, s => s.year.toInt

/-- The selection with another number in a field. -/
def set : Field → Int → Selection → Selection
  | day, n, s => { s with day := UInt32.ofNat n.toNat }
  | month, n, s => { s with month := UInt32.ofNat n.toNat }
  | year, n, s => { s with year := Int32.ofInt n }

theorem get_set {f : Field} {n : Int} (h : f.Fits n) (s : Selection) : f.get (f.set n s) = n := by
  obtain ⟨hlo, hhi⟩ := h
  cases f with
  | day | month =>
    have hsize : n.toNat < UInt32.size := by
      simp only [lo, hi] at hlo hhi
      omega
    show ((UInt32.ofNat n.toNat).toNat : Int) = n
    rw [UInt32.toNat_ofNat_of_lt' hsize, Int.toNat_of_nonneg hlo]
  | year => exact Int32.toInt_ofInt_of_le hlo (Int.lt_add_one_of_le hhi)

theorem get_set_of_ne {f f' : Field} (h : f' ≠ f) (n : Int) (s : Selection) :
    f'.get (f.set n s) = f'.get s := by
  cases f <;> cases f' <;> first | rfl | exact absurd rfl h

theorem enabled_set (f : Field) (n : Int) (s : Selection) : (f.set n s).enabled = s.enabled := by
  cases f <;> rfl

/-- The field among those of a selection inside `level` containers. -/
def slot (level : Nat) : Field → Slot
  | day => ⟨"day", .required, fun o => (decodeUInt32 (level + 1) o).map fun _ => ()⟩
  | month => ⟨"month", .required, fun o => (decodeUInt32 (level + 1) o).map fun _ => ()⟩
  | year => ⟨"year", .required, fun o => (decodeInt32 (level + 1) o).map fun _ => ()⟩

theorem slot_name (level : Nat) (f : Field) : (f.slot level).name = f.name := by
  cases f <;> rfl

theorem slot_check (level : Nat) (f : Field) (o : Outline) :
    (f.slot level).check o = (decodeBetween (level + 1) f.lo f.hi o).map fun _ => () := by
  have hcheck {α : Type} (r : Except Json.Failure Int) (g : Int → α) :
      (r.map g).map (fun _ => ()) = r.map fun _ => () := by
    cases r <;> rfl
  cases f <;> exact hcheck _ _

theorem slot_mem (level : Nat) (f : Field) : f.slot level ∈ (record level).slots := by
  have hslots : (record level).slots = [day.slot level, month.slot level, year.slot level,
      ⟨"enabled", .defaulted, fun o => (decodeFlag (level + 1) o).map fun _ => ()⟩] := rfl
  rw [hslots]
  cases f <;> simp

end Field

variable {level : Nat} {f : Field} {n : Int64} {o o' : Outline}

/-! ## Numbers and texts -/

/-- A value without containers is read whole unless containers are nested too deeply around it. -/
theorem readWholeValue_scalar {v : Json} (h : v.Exact) (hdepth : v.outline.depth = 0)
    (level : Nat) : Json.Decoder.readWholeValue level v.outline =
      if level ≤ 127 then .ok () else .error .malformed := by
  unfold Json.Decoder.readWholeValue
  rw [Json.toJson?_outline h, hdepth]
  simp

theorem decodeInt64_number (level : Nat) (n : Int64) :
    decodeInt64 level (Json.ofInt64 n).outline =
      if level ≤ 127 then .ok n else .error .malformed := by
  have hread := Json.int64_outline n
  have houtline : (Json.ofInt64 n).outline = .number (.ofInt n.toInt) := rfl
  rw [houtline] at hread
  unfold decodeInt64
  rw [readWholeValue_scalar (Json.exact_ofInt64 n) rfl]
  split
  · simp only [houtline, hread]
    rfl
  · rfl

/-- Containers are not nested too deeply around a value that is read. -/
theorem level_le_of_decodeInt64 (h : decodeInt64 level o = .ok n) : level ≤ 127 := by
  obtain ⟨_, hwhole, -⟩ := Except.bind_eq_ok_iff.1 h
  unfold Json.Decoder.readWholeValue at hwhole
  split at hwhole
  · next hnested => exact Nat.le_trans (Nat.le_add_right _ _) hnested.2
  · cases hwhole

/-- A text of a number with blanks around it is read like the number. -/
theorem decodeInt64_text {before after : List Char} (hbefore : Text.AllBlank before)
    (hafter : Text.AllBlank after) (level : Nat) (n : Int64) :
    decodeInt64 level
        (Json.string (String.ofList (before ++ Numeral.chars n.toInt ++ after))).outline =
      decodeInt64 level (Json.ofInt64 n).outline := by
  generalize hs : String.ofList (before ++ Numeral.chars n.toInt ++ after) = s
  have hread : Numeral.readInt64 (Text.trim s.toList) = .ok n := by
    have hnumeral : Text.trim (Numeral.chars n.toInt) = Numeral.chars n.toInt :=
      Text.trim_eq_self (Numeral.forall_mem_chars (by decide) (by decide) n.toInt)
    rw [← hs, String.toList_ofList, Text.trim_surrounded hbefore hafter, hnumeral,
      Numeral.readInt64_chars]
  have hexact : (Json.string s).Exact := trivial
  have houtline : (Json.string s).outline = .string (some s) := rfl
  rw [decodeInt64_number]
  unfold decodeInt64
  rw [readWholeValue_scalar hexact rfl]
  split
  · simp only [houtline, hread]
    rfl
  · rfl

/-! ## Ranges -/

/-- A number is in the range of its field or an error; it is not brought into the range. -/
theorem decodeBetween_of_ok (h : decodeInt64 level o = .ok n) (lo hi : Int) :
    decodeBetween level lo hi o =
      if lo ≤ n.toInt ∧ n.toInt ≤ hi then .ok n.toInt
      else .error (.data [] (.outOfRange (if n.toInt < lo then .tooSmall else .tooLarge))) := by
  unfold decodeBetween
  rw [h]
  show (if n.toInt < lo then _ else if hi < n.toInt then _ else _) = _
  by_cases hlo : n.toInt < lo
  · rw [if_pos hlo, if_neg (fun h => Int.not_le.2 hlo h.1), if_pos hlo]
    rfl
  · rw [if_neg hlo, if_neg hlo]
    by_cases hhi : hi < n.toInt
    · rw [if_pos hhi, if_neg (fun h => Int.not_le.2 hhi h.2)]
      rfl
    · rw [if_neg hhi, if_pos ⟨Int.not_lt.1 hlo, Int.not_lt.1 hhi⟩]
      rfl

theorem decodeBetween_eq_ok_iff {lo hi m : Int} : decodeBetween level lo hi o = .ok m ↔
    ∃ n, decodeInt64 level o = .ok n ∧ n.toInt = m ∧ lo ≤ m ∧ m ≤ hi := by
  cases h : decodeInt64 level o with
  | error e =>
    unfold decodeBetween
    rw [h]
    exact iff_of_false nofun nofun
  | ok n =>
    rw [decodeBetween_of_ok h]
    constructor
    · intro h
      split at h
      · next hfits =>
        cases h
        exact ⟨n, rfl, rfl, hfits⟩
      · cases h
    · rintro ⟨n, hn, rfl, hfits⟩
      cases hn
      rw [if_pos hfits]

theorem decodeUInt32_eq_ok_iff {u : UInt32} : decodeUInt32 level o = .ok u ↔
    decodeBetween level 0 (UInt32.size - 1) o = .ok (u.toNat : Int) := by
  rw [decodeUInt32, Except.map_eq_ok_iff]
  constructor
  · rintro ⟨m, hm, rfl⟩
    obtain ⟨n, -, -, hlo, hhi⟩ := decodeBetween_eq_ok_iff.1 hm
    have hsize : m.toNat < UInt32.size := by omega
    rw [hm, UInt32.toNat_ofNat_of_lt' hsize, Int.toNat_of_nonneg hlo]
  · intro h
    exact ⟨_, h, UInt32.ofNat_toNat⟩

theorem decodeInt32_eq_ok_iff {y : Int32} : decodeInt32 level o = .ok y ↔
    decodeBetween level Int32.minValue.toInt Int32.maxValue.toInt o = .ok y.toInt := by
  rw [decodeInt32, Except.map_eq_ok_iff]
  constructor
  · rintro ⟨m, hm, rfl⟩
    obtain ⟨n, -, -, hlo, hhi⟩ := decodeBetween_eq_ok_iff.1 hm
    rw [hm, Int32.toInt_ofInt_of_le hlo (Int.lt_add_one_of_le hhi)]
  · intro h
    exact ⟨_, h, Int32.ofInt_toInt y⟩

/-! ## Bodies -/

/-- A selection is built when each of its numbers is read in its range, and its flag is read. -/
theorem record_build_eq_ok_iff {find : String → Option Outline} {s : Selection} :
    (record level).build find = .ok s ↔
      (∀ f : Field, ∃ o, find f.name = some o ∧
        decodeBetween (level + 1) f.lo f.hi o = .ok (f.get s)) ∧
      (Record.defaulted "enabled" false (decodeFlag (level + 1))).build find = .ok s.enabled := by
  unfold record
  simp only [Record.build_seq_eq_ok_iff, Record.build_map_eq_ok_iff,
    Record.build_required_eq_ok_iff, decodeUInt32_eq_ok_iff, decodeInt32_eq_ok_iff]
  constructor
  · rintro ⟨_, ⟨_, ⟨_, ⟨d, hday, rfl⟩, m, hmonth, rfl⟩, y, hyear, rfl⟩, b, henabled, rfl⟩
    refine ⟨fun f => ?_, henabled⟩
    cases f with
    | day => exact hday
    | month => exact hmonth
    | year => exact hyear
  · rintro ⟨hfields, henabled⟩
    exact ⟨_, ⟨_, ⟨_, ⟨_, hfields .day, rfl⟩, _, hfields .month, rfl⟩, _, hfields .year, rfl⟩, _,
      henabled, rfl⟩

/-- A selection is built alike from values that are read as one number. -/
theorem record_build_congr (h : decodeInt64 (level + 1) o = decodeInt64 (level + 1) o')
    (others : String → Option Outline) :
    (record level).build (Function.update others f.name (some o)) =
      (record level).build (Function.update others f.name (some o')) := by
  have hbetween (lo hi : Int) :
      decodeBetween (level + 1) lo hi o = decodeBetween (level + 1) lo hi o' := by
    unfold decodeBetween
    rw [h]
  have hday : decodeUInt32 (level + 1) o = decodeUInt32 (level + 1) o' :=
    congrArg (Except.map _) (hbetween _ _)
  have hyear : decodeInt32 (level + 1) o = decodeInt32 (level + 1) o' :=
    congrArg (Except.map _) (hbetween _ _)
  exact Record.build_seq_congr
    (Record.build_seq_congr
      (Record.build_seq_congr
        (Record.build_map_congr (Record.build_single_congr (fun _ => hday) others) _)
        (Record.build_single_congr (fun _ => hday) others))
      (Record.build_single_congr (fun _ => hyear) others))
    (Record.build_single_congr (fun h => absurd h f.enabled_ne_name) others)

/-- A selection that is built keeps its other fields when one field is given another number. -/
theorem record_build_set {others : String → Option Outline} {s : Selection} {m : Int}
    (h : (record level).build (Function.update others f.name (some o)) = .ok s)
    (hm : decodeBetween (level + 1) f.lo f.hi o' = .ok m) :
    (record level).build (Function.update others f.name (some o')) = .ok (f.set m s) := by
  obtain ⟨hfields, henabled⟩ := record_build_eq_ok_iff.1 h
  obtain ⟨-, -, -, hfits⟩ := decodeBetween_eq_ok_iff.1 hm
  refine record_build_eq_ok_iff.2 ⟨fun f' => ?_, ?_⟩
  · by_cases hf : f' = f
    · subst hf
      exact ⟨o', Function.update_self .., by rw [hm, Field.get_set hfits]⟩
    · have hname : f'.name ≠ f.name := fun h => hf (Field.name_injective h)
      obtain ⟨v, hv, hread⟩ := hfields f'
      rw [Function.update_of_ne hname] at hv
      refine ⟨v, ?_, ?_⟩
      · rw [Function.update_of_ne hname, hv]
      · rw [hread, Field.get_set_of_ne hf]
  · rw [Field.enabled_set, ← henabled]
    exact Record.build_single_congr (fun h => absurd h f.enabled_ne_name) others

/-! ## Places -/

section
variable {p : Place}

theorem nodup_record_names (level : Nat) : ((record level).slots.map Slot.name).Nodup := by
  have hnames : (record level).slots.map Slot.name = ["day", "month", "year", "enabled"] := rfl
  rw [hnames]
  decide

/-- Values that are read as one number may stand for each other in a body. -/
theorem decode_fill_congr (hp : p.IsFor (record level).slots f.name)
    (h : decodeInt64 (level + 1) o = decodeInt64 (level + 1) o') :
    decode level (p.fill o) = decode level (p.fill o') := by
  rw [← f.slot_name level] at hp
  refine Record.decode_fill_congr (nodup_record_names level) (f.slot_mem level) hp ?_
    fun others => ?_
  · rw [Field.slot_check, Field.slot_check]
    unfold decodeBetween
    rw [h]
  · rw [Field.slot_name]
    exact record_build_congr h others

/-- The number of a selection in a field is the one that stands in its place. -/
theorem decodeBetween_of_decode_fill (hp : p.IsFor (record level).slots f.name) {s : Selection}
    (h : decode level (p.fill o) = .ok s) :
    decodeBetween (level + 1) f.lo f.hi o = .ok (f.get s) := by
  rw [← f.slot_name level] at hp
  obtain ⟨hbuild, -⟩ := Record.decode_fill_of_ok (nodup_record_names level) (f.slot_mem level) hp h
  obtain ⟨v, hv, hread⟩ := (record_build_eq_ok_iff.1 hbuild).1 f
  rw [Field.slot_name, Function.update_self] at hv
  cases hv
  exact hread

/-- In a body that is read, another number in the range of its field gives the selection with this
number, and one outside the range is an error in its place. -/
theorem decode_fill_of_ok (hp : p.IsFor (record level).slots f.name) {s : Selection}
    (h : decode level (p.fill o) = .ok s) (hn : decodeInt64 (level + 1) o' = .ok n) :
    decode level (p.fill o') =
      if f.Fits n.toInt then .ok (f.set n.toInt s)
      else .error (.data [p.step]
        (.outOfRange (if n.toInt < f.lo then .tooSmall else .tooLarge))) := by
  have hbetween : decodeBetween (level + 1) f.lo f.hi o' =
      if f.Fits n.toInt then .ok n.toInt
      else .error (.data [] (.outOfRange (if n.toInt < f.lo then .tooSmall else .tooLarge))) :=
    decodeBetween_of_ok hn f.lo f.hi
  rw [← f.slot_name level] at hp
  obtain ⟨hbuild, hdecode⟩ :=
    Record.decode_fill_of_ok (nodup_record_names level) (f.slot_mem level) hp h
  refine (hdecode o').trans ?_
  rw [Field.slot_name] at hbuild ⊢
  rw [Field.slot_check]
  split at hbetween
  · next hfits =>
    rw [hbetween, if_pos hfits]
    exact record_build_set hbuild hbetween
  · next hfits =>
    rw [hbetween, if_neg hfits]
    rfl

/-- Two selections are read alike from bodies of one of them that are read alike. -/
theorem Selections.decode_fill_congr {q : Place} {slot : Slot}
    (hslot : slot ∈ Selections.record.slots) (hq : q.IsFor Selections.record.slots slot.name)
    (h : decode 1 (p.fill o) = decode 1 (p.fill o')) :
    Selections.decode (q.fill (p.fill o)) = Selections.decode (q.fill (p.fill o')) := by
  have hoptional (v : Outline) : Json.Decoder.optional (decode 1) (p.fill v) =
      (decode 1 (p.fill v)).map some := by
    cases p <;> rfl
  have hread : Json.Decoder.optional (decode 1) (p.fill o) =
      Json.Decoder.optional (decode 1) (p.fill o') := by
    rw [hoptional, hoptional, h]
  have hnodup : (Selections.record.slots.map Slot.name).Nodup := by
    have hnames : Selections.record.slots.map Slot.name = ["datefrom", "dateto"] := rfl
    rw [hnames]
    decide
  refine Record.decode_fill_congr hnodup hslot hq ?_ fun others => ?_
  · have hslots : Selections.record.slots =
        ["datefrom", "dateto"].map fun name =>
          ⟨name, .defaulted, fun v => (Json.Decoder.optional (decode 1) v).map fun _ => ()⟩ := rfl
    rw [hslots, List.mem_map] at hslot
    obtain ⟨name, -, rfl⟩ := hslot
    exact congrArg (Except.map _) hread
  · exact Record.build_seq_congr
      (Record.build_map_congr (Record.build_single_congr (fun _ => hread) others) _)
      (Record.build_single_congr (fun _ => hread) others)

/-- Whatever fills the rest of a body, a number in a field and a text of this number with blanks
around it are read alike, as a selection or as the same error. A selection that is read has this
number in the field. If the rest of the body is right, then the selection is read when the number is
in the range of the field, and the error says in which place and on which side it is out of range.
Texts with such bodies are read alike, for one selection and for two. -/
theorem decode_number_or_text (level : Nat) (field : Field) (n : Int64)
    {before after : List Char} (hbefore : Text.AllBlank before) (hafter : Text.AllBlank after)
    {p : Place} (hp : p.IsFor (record level).slots field.name) :
    let number := p.fill (Json.ofInt64 n).outline
    let text := p.fill
      (Json.string (String.ofList (before ++ Numeral.chars n.toInt ++ after))).outline
    decode level text = decode level number ∧
    (∀ s, decode level number = .ok s → field.get s = n.toInt) ∧
    (∀ o s, decode level (p.fill o) = .ok s →
      decode level number =
        if field.Fits n.toInt then .ok (field.set n.toInt s)
        else .error (.data [p.step]
          (.outOfRange (if n.toInt < field.lo then .tooSmall else .tooLarge)))) ∧
    ∀ (body body' : String) (complete : Bool),
      (Outline.ofText body.toList = (number, complete) →
        Outline.ofText body'.toList = (text, complete) →
        (decode level).ofText body' = (decode level).ofText body) ∧
      ∀ slot ∈ Selections.record.slots, ∀ q : Place, q.IsFor Selections.record.slots slot.name →
        Outline.ofText body.toList = (q.fill number, complete) →
        Outline.ofText body'.toList = (q.fill text, complete) →
        Selections.ofText body' = Selections.ofText body := by
  intro number text
  have hsame (level : Nat) (hp : p.IsFor (record level).slots field.name) :
      decode level text = decode level number :=
    decode_fill_congr hp (decodeInt64_text hbefore hafter (level + 1) n)
  -- A value in the place of a selection that is read is read itself, so the number is read there.
  have hnumber {o : Outline} {s : Selection} (hs : decode level (p.fill o) = .ok s) :
      decodeInt64 (level + 1) (Json.ofInt64 n).outline = .ok n := by
    obtain ⟨m, hm, -⟩ := decodeBetween_eq_ok_iff.1 (decodeBetween_of_decode_fill hp hs)
    rw [decodeInt64_number, if_pos (level_le_of_decodeInt64 hm)]
  refine ⟨hsame level hp, fun s hs => ?_, fun o s hs => ?_, fun body body' complete => ⟨?_, ?_⟩⟩
  · obtain ⟨m, hm, hget, -⟩ := decodeBetween_eq_ok_iff.1 (decodeBetween_of_decode_fill hp hs)
    cases hm.symm.trans (hnumber hs)
    exact hget.symm
  · exact decode_fill_of_ok hp hs (hnumber hs)
  · intro hbody hbody'
    exact Json.Decoder.ofText_congr hbody' hbody (hsame level hp)
  · intro slot hslot q hq hbody hbody'
    have hp' : p.IsFor (record 1).slots field.name := by
      cases p <;> exact hp
    exact Json.Decoder.ofText_congr hbody' hbody
      (Selections.decode_fill_congr hslot hq (hsame 1 hp'))

/-- A year in a text, after an em space and before a blank, and the first year out of range. -/
theorem decode_number_or_text_year :
    let body (year : Json) := Json.object
      [("day", .ofInt64 5), ("month", .ofInt64 3), ("year", year), ("enabled", .ofInt64 1)]
    (decode 0).ofText (body (.string "\u20032022 ")).compactText = .ok ⟨5, 3, 2022, true⟩ ∧
    (decode 0).ofText (body (.string "2147483648")).compactText =
      .error (.data [.member "year"] (.outOfRange .tooLarge)) := by
  intro body
  let p : Place := .member
    [(some "day", (Json.ofInt64 5).outline), (some "month", (Json.ofInt64 3).outline)] "year"
    [(some "enabled", (Json.ofInt64 1).outline)] true
  have hp : p.IsFor (record 0).slots Field.year.name := rfl
  have htext (s : String) : Outline.ofText (body (.string s)).compactText.toList =
      (p.fill (Json.string s).outline, true) :=
    Json.outline_ofText_compact ⟨trivial, trivial, trivial, trivial, trivial⟩
  have hnumber (n : Int64) : Outline.ofText (body (.ofInt64 n)).compactText.toList =
      (p.fill (Json.ofInt64 n).outline, true) :=
    Json.outline_ofText_compact ⟨trivial, trivial, trivial, trivial, trivial⟩
  have hok : decode 0 (p.fill (Json.ofInt64 2022).outline) = .ok ⟨5, 3, 2022, true⟩ := by
    decide +kernel
  constructor
  · obtain ⟨-, -, -, htexts⟩ := @decode_number_or_text 0 .year 2022 ['\u2003'] [' ']
      (by decide) (by decide) p hp
    have hpadded : String.ofList (['\u2003'] ++ Numeral.chars (Int64.toInt 2022) ++ [' ']) =
        "\u20032022 " := by
      decide +kernel
    rw [hpadded] at htexts
    rw [(htexts _ _ true).1 (hnumber 2022) (htext _),
      Json.Decoder.ofText_of_complete (hnumber 2022), hok]
  · obtain ⟨-, -, hread, htexts⟩ := @decode_number_or_text 0 .year 2147483648 [] [] nofun nofun p hp
    have hplain : String.ofList ([] ++ Numeral.chars (Int64.toInt 2147483648) ++ []) =
        "2147483648" := by
      decide +kernel
    rw [hplain] at htexts
    rw [(htexts _ _ true).1 (hnumber 2147483648) (htext _),
      Json.Decoder.ofText_of_complete (hnumber 2147483648), hread _ _ hok]
    rfl

end

end ForumSummary.Calendar.Selection

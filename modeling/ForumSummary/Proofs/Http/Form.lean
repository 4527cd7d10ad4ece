import ForumSummary.Http.Url
import ForumSummary.Proofs.Text.Pieces

/-!
# Queries of plain characters

A plain character needs no escape: it is ASCII and no sign of the query's own. Plain texts stand for
themselves (`formText_of_isPlain`), so pairs of them are read as a query writes them
(`formPairs_queryText`).
-/

namespace ForumSummary

namespace Utf8

/-- ASCII characters are single octets. -/
theorem encode_of_ascii {cs : List Char} (h : ∀ c ∈ cs, c.toNat < 0x80) :
    encode cs = cs.map fun c => UInt8.ofNat c.toNat := by
  induction cs with
  | nil => rfl
  | cons c r ih =>
    obtain ⟨hc, hr⟩ := List.forall_mem_cons.1 h
    have hone : String.utf8EncodeChar c = [UInt8.ofNat c.toNat] :=
      (String.utf8EncodeChar.eq_1 c).trans (if_pos (Nat.le_of_lt_succ hc))
    rw [encode, List.flatMap_cons, hone, ← encode, ih hr]
    rfl

/-- Octets of ASCII characters are read one by one. -/
theorem lossy_of_ascii {cs : List Char} (h : ∀ c ∈ cs, c.toNat < 0x80) :
    lossy (cs.map fun c => UInt8.ofNat c.toNat) = cs := by
  induction cs with
  | nil => rfl
  | cons c r ih =>
    obtain ⟨hc, hr⟩ := List.forall_mem_cons.1 h
    have hoctet : (UInt8.ofNat c.toNat).toNat = c.toNat := Nat.mod_eq_of_lt (by omega)
    have hstep : step none (UInt8.ofNat c.toNat).toNat = ([some c], none) := by
      rw [hoctet, step, start, lead, if_pos hc, Char.ofNat_toNat]
    have hdecode : decode ((c :: r).map fun c => UInt8.ofNat c.toNat) =
        some c :: decode (r.map fun c => UInt8.ofNat c.toNat) := by
      rw [decode, List.map_cons, decodeFrom, hstep]
      rfl
    rw [lossy, hdecode, List.map_cons, ← lossy, ih hr]
    rfl

end Utf8

namespace Http

/-- A character that a query need not escape. -/
def IsPlain (c : Char) : Prop :=
  c.toNat < 0x80 ∧ c ∉ ['%', '+', '&', '=', '#']

instance : DecidablePred IsPlain := fun _ => inferInstanceAs (Decidable (_ ∧ _))

/-- Where there is no percent sign nothing is decoded. -/
theorem percentDecode_of_not_mem {bs : List UInt8} (h : 0x25 ∉ bs) : percentDecode bs = bs := by
  induction bs with
  | nil => rfl
  | cons b r ih =>
    rw [List.mem_cons, not_or] at h
    rw [percentDecode, ih h.2]
    rintro high low rest rfl -
    exact h.1 rfl

/-- A plain text stands for itself. -/
theorem formText_of_isPlain {cs : List Char} (h : ∀ c ∈ cs, IsPlain c) : formText cs = cs := by
  have hascii : ∀ c ∈ cs, c.toNat < 0x80 := fun c hc => (h c hc).1
  have hplus : cs.map (fun c => if c = '+' then ' ' else c) = cs := by
    refine (List.map_congr_left fun c hc => if_neg ?_).trans (List.map_id cs)
    rintro rfl
    exact absurd (h _ hc) (by decide)
  have hpercent : (0x25 : UInt8) ∉ cs.map fun c => UInt8.ofNat c.toNat := by
    intro hmem
    obtain ⟨c, hc, heq⟩ := List.mem_map.1 hmem
    have hc' : c = '%' := by
      have hnat : c.toNat % 256 = 0x25 := congrArg UInt8.toNat heq
      have := hascii c hc
      rw [Nat.mod_eq_of_lt (by omega)] at hnat
      rw [← Char.ofNat_toNat c, hnat]
    exact absurd (h c hc) (hc' ▸ by decide)
  rw [formText, hplus, Utf8.encode_of_ascii hascii, percentDecode_of_not_mem hpercent,
    Utf8.lossy_of_ascii hascii]

/-! ## Pairs -/

/-- A pair as it is written in a query. -/
def pairText (pair : String × String) : List Char :=
  pair.1.toList ++ '=' :: pair.2.toList

/-- Pairs as they are written in a query. -/
def queryText (pairs : List (String × String)) : List Char :=
  Text.join '&' (pairs.map pairText)

/-- A pair of plain texts. -/
def IsPlainPair (pair : String × String) : Prop :=
  (∀ c ∈ pair.1.toList, IsPlain c) ∧ ∀ c ∈ pair.2.toList, IsPlain c

theorem formPair_pairText {pair : String × String} (h : IsPlainPair pair) :
    formPair (pairText pair) = pair := by
  have hname : '=' ∉ pair.1.toList := fun hmem => absurd (h.1 _ hmem) (by decide)
  rw [formPair, pairText, Text.splitFirst_append hname]
  simp only [Option.getD_some, formText_of_isPlain h.1, formText_of_isPlain h.2,
    String.ofList_toList]

/-- The characters of a pair are plain, but for the equals sign. -/
theorem forall_mem_pairText {P : Char → Prop} (hequals : P '=') (hplain : ∀ c, IsPlain c → P c)
    {pair : String × String} (h : IsPlainPair pair) : ∀ c ∈ pairText pair, P c :=
  List.forall_mem_append.2 ⟨fun c hc => hplain c (h.1 c hc),
    List.forall_mem_cons.2 ⟨hequals, fun c hc => hplain c (h.2 c hc)⟩⟩

section
variable {pairs : List (String × String)} (h : ∀ pair ∈ pairs, IsPlainPair pair)
include h

/-- Pairs of plain texts are read as they are written. -/
theorem formPairs_queryText : formPairs (queryText pairs) = pairs := by
  cases pairs with
  | nil => rfl
  | cons pair more =>
    have hsplit : Text.split '&' (queryText (pair :: more)) = (pair :: more).map pairText := by
      refine Text.split_join (List.cons_ne_nil _ _) (List.forall_mem_map.2 fun p hp hmem => ?_)
      exact forall_mem_pairText (P := (· ≠ '&')) (by decide)
        (fun c hc hc' => absurd (hc' ▸ hc) (by decide)) (h p hp) _ hmem rfl
    have hnonempty : ∀ part ∈ (pair :: more).map pairText, (!part.isEmpty) = true := by
      refine List.forall_mem_map.2 fun p _ => ?_
      cases hp : pairText p with
      | nil => exact absurd hp (List.append_ne_nil_of_right_ne_nil _ (List.cons_ne_nil _ _))
      | cons => rfl
    rw [formPairs, hsplit, List.filter_eq_self.2 hnonempty, List.map_map]
    exact (List.map_congr_left fun p hp => formPair_pairText (h p hp)).trans (List.map_id _)

/-- The target of a path and a query of plain texts. -/
theorem Target.ofText_append {path : List Char} (hquestion : '?' ∉ path) (hhash : '#' ∉ path) :
    Target.ofText (String.ofList (path ++ '?' :: queryText pairs)) =
      ⟨Text.split '/' path, queryText pairs⟩ := by
  have hquery : '#' ∉ queryText pairs := by
    intro hmem
    refine Text.forall_mem_join (P := (· ≠ '#')) (by decide) (List.forall_mem_map.2 fun p hp => ?_)
      _ hmem rfl
    exact forall_mem_pairText (by decide) (fun c hc hc' => absurd (hc' ▸ hc) (by decide)) (h p hp)
  have hwhole : '#' ∉ path ++ '?' :: queryText pairs := by
    simp only [List.mem_append, List.mem_cons, not_or]
    exact ⟨hhash, by decide, hquery⟩
  rw [Target.ofText, String.toList_ofList, Text.splitFirst_of_not_mem hwhole]
  simp only [Text.splitFirst_append hquestion, Option.getD_some]

end

end Http

end ForumSummary

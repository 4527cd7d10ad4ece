import ForumSummary.Export.Dataset
import ForumSummary.Proofs.Export.Csv
import ForumSummary.Proofs.Json.Decoding
import ForumSummary.Proofs.Json.Float
import Mathlib.Data.List.Forall2

/-!
# Downloads lose nothing

A reader gets back from a download what the table held. From comma-separated values come the names
of the columns and then the texts of all cells, row by row, and each text shows its cell
(`read_render_csv`). From JSON comes an object for each row, with one member for each cell that has
a column (`ofText?_render_json`).
-/

namespace ForumSummary.Export.Dataset

/-! ## Comma-separated values -/

/-- A text shows a cell: the empty text shows null, a string shows itself, and any other value is
shown by its JSON text. From this text the value can be read if it holds no binary64 number, and the
text of a binary64 number is a number literal that is rounded to it. -/
inductive Shows : List Char → Json → Prop where
  | null : Shows [] .null
  | string (s : String) : Shows s.toList (.string s)
  | json {v : Json} (hnull : v ≠ .null) (hstring : ∀ s, v ≠ .string s)
    (hread : v.Exact → Json.ofText? v.compact = some v)
    (hfloat : ∀ bits, v = .number (.float bits) →
      ∃ l : Json.Literal, Json.readLiteral v.compact = some (l, []) ∧ l.IsRoundedTo bits) :
    Shows v.compact v

theorem shows_cellText (v : Json) : Shows (cellText v) v := by
  have hread (h : v.Exact) : Json.ofText? v.compact = some v :=
    Json.ofText?_of_written h (Json.written_compact h)
  have hfloat (bits : UInt64) (h : v = .number (.float bits)) :
      ∃ l : Json.Literal, Json.readLiteral v.compact = some (l, []) ∧ l.IsRoundedTo bits := by
    have hliteral := Json.exists_readLiteral_float bits Json.endsLiteral_nil
    rw [List.append_nil] at hliteral
    rw [h]
    exact hliteral
  cases v with
  | null => exact .null
  | string s => exact .string s
  | bool | number | array | object => exact .json nofun nofun hread hfloat

/-- Every row is read back with the texts of all its cells, whatever characters they hold and
however many they are, behind a record of the names of the columns. -/
theorem read_render_csv (d : Dataset) (hfields : d.fields ≠ []) (hrows : ∀ row ∈ d.rows, row ≠ []) :
    ∃ table, Csv.read (d.render .csv).toList = some (d.fields.map String.toList :: table) ∧
      List.Forall₂ (List.Forall₂ Shows) table d.rows := by
  have hcells (row : List Json) : List.Forall₂ Shows (row.map cellText) row :=
    List.forall₂_map_left_iff.2 (List.forall₂_same.2 fun v _ => shows_cellText v)
  refine ⟨d.rows.map (·.map cellText), ?_,
    List.forall₂_map_left_iff.2 (List.forall₂_same.2 fun row _ => hcells row)⟩
  rw [render, String.toList_ofList]
  refine Csv.read_records (List.forall_mem_cons.2 ⟨by simpa using hfields, ?_⟩)
  exact List.forall_mem_map.2 fun row hrow => by simpa using hrows row hrow

/-- Rows of different lengths, with separators, quotes and line ends in names and cells. -/
theorem read_render_csv_ragged :
    let d : Dataset := ⟨["a,b", ""], [[.string "\"\r\n", .null, .bool true], [.string " "]]⟩
    (d.fields ≠ [] ∧ ∀ row ∈ d.rows, row ≠ []) ∧
      ∃ table, Csv.read (d.render .csv).toList = some ([['a', ',', 'b'], []] :: table) ∧
        List.Forall₂ (List.Forall₂ Shows) table d.rows := by
  intro d
  have hfields : d.fields ≠ [] := List.cons_ne_nil _ _
  have hrows : ∀ row ∈ d.rows, row ≠ [] := by simp [d]
  exact ⟨⟨hfields, hrows⟩, read_render_csv d hfields hrows⟩

/-! ## JSON -/

theorem exact_toJson {d : Dataset} (h : ∀ row ∈ d.rows, ∀ v ∈ row, v.Exact) : d.toJson.Exact := by
  refine Json.allExact_iff.2 (List.forall_mem_map.2 fun row hrow => ?_)
  refine Json.membersExact_iff.2 fun m hm => h row hrow m.2 ?_
  exact (List.of_mem_zip hm).2

/-- The JSON text of a table without binary64 numbers is well-formed, and what is read from it is an
array with one object for each row, whose members are the cells of the row under the names of their
columns. Names may repeat, and the shorter of columns and row decides how many members there are. -/
theorem ofText?_render_json (d : Dataset) (h : ∀ row ∈ d.rows, ∀ v ∈ row, v.Exact) :
    let objects := Json.array (d.rows.map fun row => .object (d.fields.zip row))
    objects.Written (d.render .json).toList ∧
      Json.ofText? (d.render .json).toList = some objects := by
  intro objects
  have hexact : objects.Exact := exact_toJson h
  have htext : (d.render .json).toList = objects.pretty 0 := String.toList_ofList
  have hwritten : objects.Written (objects.pretty 0) := Json.written_pretty hexact 0
  rw [htext]
  exact ⟨hwritten, Json.ofText?_of_written hexact hwritten⟩

/-- A repeated name, a row without cells, a row with a cell too many, and a nested value. -/
theorem ofText?_render_json_ragged :
    let d : Dataset := ⟨["x", "x"], [[], [.null, .string "\"\n", .bool true],
      [.array [.object [("k", .ofInt64 (-5)), ("k", .array [])]]]]⟩
    (∀ row ∈ d.rows, ∀ v ∈ row, v.Exact) ∧
      Json.ofText? (d.render .json).toList = some (.array [.object [],
        .object [("x", .null), ("x", .string "\"\n")],
        .object [("x", .array [.object [("k", .ofInt64 (-5)), ("k", .array [])]])]]) := by
  intro d
  have hexact : ∀ row ∈ d.rows, ∀ v ∈ row, v.Exact := by
    simp [d, Json.Exact, Json.AllExact, Json.MembersExact, Json.ofInt64, Json.Number.ofInt64]
  exact ⟨hexact, (ofText?_render_json d hexact).2⟩

end ForumSummary.Export.Dataset

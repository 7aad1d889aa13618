import SqlScript.Listing
import SqlScript.Proofs.Json.Values

/-!
Listings in JSON. What is read from one are the records that were listed, in order, so two listings
are the same text only if they hold the same records.
-/

namespace SqlScript

open Text

theorem Category.name_injective : Function.Injective Category.name := by
  intro a b
  cases a <;> cases b <;> decide

namespace Json

def Value.ofListed (listed : Category × Text) : Value :=
  .object [("category".toList, .string listed.1.name), ("text".toList, .string listed.2)]

def Value.ofColumns (q : QueryColumns) : Value :=
  .object [("start_line".toList, .number (.ofNat q.startLine)),
    ("columns".toList, .array (q.columns.map .string))]

theorem Value.ofListed_injective : Function.Injective Value.ofListed := by
  rintro ⟨category, text⟩ ⟨category', text'⟩ h
  simpa [ofListed, Category.name_injective.eq_iff] using h

theorem Value.ofColumns_injective : Function.Injective Value.ofColumns := by
  rintro ⟨startLine, columns⟩ ⟨startLine', columns'⟩ h
  have hstring : Function.Injective Value.string := fun _ _ => Value.string.inj
  simpa [ofColumns, Number.ofNat, hstring.list_map.eq_iff] using h

/-! ### Lists of records -/

section Records

variable {α : Type} {record : α → Record} {read : α → Value}

/-- A list of records is read as the values of the records. -/
theorem read?_listJson (h : ∀ a, (record a).toJson.value = read a) (list : List α) :
    Value.read? (Record.listJson (list.map record)) = some (.array (list.map read)) := by
  have hvalue : values ((list.map record).map Record.toJson) = list.map read := by
    rw [values_eq_map, List.map_map, List.map_map]
    exact List.map_congr_left fun a _ => h a
  rw [Record.listJson, read?_render, value, hvalue]

/-- Records that are read as different values are told apart in a list. -/
theorem listJson_map_inj (h : ∀ a, (record a).toJson.value = read a)
    (hread : Function.Injective read) {list others : List α} :
    Record.listJson (list.map record) = Record.listJson (others.map record) ↔ list = others := by
  constructor
  · intro heq
    have hvalue := congrArg Value.read? heq
    rw [read?_listJson h, read?_listJson h] at hvalue
    exact hread.list_map (Value.array.inj (Option.some.inj hvalue))
  · rintro rfl
    rfl

end Records

end Json

namespace Listing

open Json (Value read?_listJson listJson_map_inj)

/-! ### Records of listings -/

def listed (s : Statement) : Category × Text := (s.category, s.text)

def listedRecord (p : Category × Text) : Record :=
  [("category".toList, .text p.1.name), ("text".toList, .text p.2)]

theorem value_listedRecord (p : Category × Text) :
    (listedRecord p).toJson.value = .ofListed p := rfl

theorem value_queryRecord (q : QueryColumns) : (queryRecord q).toJson.value = .ofColumns q := by
  have hcolumns : Json.values (q.columns.map .string) = q.columns.map .string := by
    rw [Json.values_eq_map, List.map_map]
    rfl
  change Value.object [("start_line".toList, .number (.ofNat q.startLine)),
    ("columns".toList, .array (Json.values (q.columns.map .string)))] = _
  rw [hcolumns, Value.ofColumns]

variable (colored verbose : Bool)

theorem statements_json (list : List Statement) :
    statements ⟨.json, colored, verbose⟩ list =
      Record.listJson ((list.map listed).map listedRecord) := by
  rw [List.map_map]
  rfl

/-- A listing of statements in JSON is read as the categories and texts of the statements, and one
of columns as the first lines and columns of the queries, whatever characters they hold. So listings
are the same only if these are. -/
theorem read?_listing (list : List Statement) (columns : List QueryColumns) :
    (Value.read? (statements ⟨.json, colored, verbose⟩ list) =
        some (.array (list.map fun s => .object
          [("category".toList, .string s.category.name), ("text".toList, .string s.text)])) ∧
      ∀ others, statements ⟨.json, colored, verbose⟩ list =
          statements ⟨.json, colored, verbose⟩ others ↔
        list.map (fun s => (s.category, s.text)) = others.map fun s => (s.category, s.text)) ∧
    Value.read? (queries ⟨.json, colored, verbose⟩ columns) =
        some (.array (columns.map fun q => .object
          [("start_line".toList, .number (.ofNat q.startLine)),
            ("columns".toList, .array (q.columns.map .string))])) ∧
      ∀ others, queries ⟨.json, colored, verbose⟩ columns =
        queries ⟨.json, colored, verbose⟩ others ↔ columns = others := by
  refine ⟨⟨?_, fun others => ?_⟩, ?_, fun others => ?_⟩
  · rw [statements_json, read?_listJson value_listedRecord, List.map_map]
    rfl
  · rw [statements_json, statements_json]
    exact listJson_map_inj value_listedRecord Value.ofListed_injective
  · exact read?_listJson value_queryRecord columns
  · exact listJson_map_inj value_queryRecord Value.ofColumns_injective

end Listing

end SqlScript

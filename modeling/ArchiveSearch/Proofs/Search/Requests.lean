import ArchiveSearch.Proofs.Cache.Keys
import ArchiveSearch.Proofs.Filter.Values
import ArchiveSearch.Search.Cell
import ArchiveSearch.Search.Searcher

/- What the keys of a search are made from. The text that is digested decides what an engine is asked:
   its head, and the cells that the values are bound as. A date and its own text are bound alike, and are
   one text. -/
namespace ArchiveSearch

set_option autoImplicit false

theorem Value.encode_finite (v : Value) : v.encode.isFinite = true := by
  cases v with
  | number x =>
    rw [encode]
    rcases of_binary64_cases x with ⟨finite, shown⟩ | shown <;> rw [shown]
    · exact finite
    · rfl
  | _ => rfl

def Cell.ofEncoded : Json → Cell
  | .bool b => .integer (if b then 1 else 0)
  | .integer n => .integer (Int64.ofInt n)
  | .real x => .real x
  | .string s => .text s
  | _ => .null

theorem Value.cell_of_encode (v : Value) (finite : v.isFinite = true) :
    Cell.ofEncoded v.encode = Cell.ofValue v := by
  cases v with
  | integer n => exact congrArg Cell.integer (Int64.ofInt_toInt n)
  | number x =>
    rw [encode, Json.ofBinary64, if_pos (show x.isFinite = true from finite)]
    rfl
  | _ => rfl

theorem Value.cells_of_encode (values : List Value) (finite : values.all isFinite = true) :
    (values.map encode).map Cell.ofEncoded = values.map Cell.ofValue := by
  rw [List.map_map]
  exact List.map_congr_left fun v mem => v.cell_of_encode (List.all_eq_true.1 finite v mem)

def requestText (head : String) (params : List Value) : String :=
  (Json.array [.array [.string head, .array (params.map Value.encode)]]).canonical

theorem arrange_encode (v : Value) : v.encode.arrange = v.encode := by
  cases v with
  | number x =>
    rw [Value.encode]
    rcases of_binary64_cases x with ⟨-, shown⟩ | shown <;> rw [shown] <;> rfl
  | _ => rfl

theorem arrange_items_encode (values : List Value) :
    Json.arrangeItems (values.map Value.encode) = values.map Value.encode := by
  induction values with
  | nil => rfl
  | cons v values ih => rw [List.map_cons, Json.arrangeItems, arrange_encode, ih]

theorem are_finite_encode (values : List Value) : Json.areFinite (values.map Value.encode) = true := by
  rw [Json.are_finite_iff, List.forall_mem_map]
  exact fun v _ => v.encode_finite

theorem request_text_eq (head : String) (params : List Value) : requestText head params
    = (Json.array [.array [.string head, .array (params.map Value.encode)]]).compact := by
  unfold requestText Json.canonical
  simp [Json.arrange, Json.arrangeItems, arrange_items_encode]

theorem request_text_iff (head head' : String) (params params' : List Value) :
    requestText head params = requestText head' params' ↔
      head = head' ∧ params.map Value.encode = params'.map Value.encode := by
  rw [request_text_eq, request_text_eq]
  constructor
  · intro same
    have values := Json.compact_injective _ _ (by simp [Json.isFinite, Json.areFinite, are_finite_encode])
      (by simp [Json.isFinite, Json.areFinite, are_finite_encode]) same
    simpa only [Json.array.injEq, List.cons.injEq, Json.string.injEq, and_true] using values
  · rintro ⟨rfl, same⟩
    rw [same]

theorem request_text_read (head head' : String) (params params' : List Value)
    (finite : params.all Value.isFinite = true) (finite' : params'.all Value.isFinite = true)
    (same : requestText head params = requestText head' params') :
    head = head' ∧ params.map Cell.ofValue = params'.map Cell.ofValue := by
  obtain ⟨heads, values⟩ := (request_text_iff _ _ _ _).1 same
  refine ⟨heads, ?_⟩
  rw [← Value.cells_of_encode params finite, ← Value.cells_of_encode params' finite', values]

end ArchiveSearch

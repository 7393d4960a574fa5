import ArchiveSearch.Filter.Decoding
import ArchiveSearch.Filter.Encoding
import ArchiveSearch.Query.Basic
import ArchiveSearch.SearchError

namespace ArchiveSearch

set_option autoImplicit false

abbrev Row := List (String × Json)

def Row.encode (row : Row) : Json :=
  .object row

def Row.decode : Json → Decoded Row
  | .object members => .ok (Json.sortMembers members)
  | j => Decode.mismatch j "a map"

structure Engine (σ : Type) where
  run : Query → σ → Outcome (List Row) × σ
  explain : Query → σ → Outcome (List String)

def Query.encode (q : Query) : Json :=
  .object [("text", .string q.text), ("params", .array (q.params.map Value.encode))]

def Query.decode (j : Json) : Decoded Query := do
  let r ← Record.ofValue .inOpen "struct CompiledQuery" ["text", "params"] j
  let text := r.field "text" Decode.string
  let params := r.field "params" (Decode.list Value.decode)
  r.settle [text.fault, params.fault]
  return { text := ← text.required r, params := ← params.required r }

end ArchiveSearch

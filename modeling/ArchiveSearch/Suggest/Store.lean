import ArchiveSearch.Json.Draft
import ArchiveSearch.Json.Printer
import ArchiveSearch.Json.Decode

namespace ArchiveSearch

set_option autoImplicit false

abbrev Store := List (String × String)

namespace Store

def payload? (s : Store) (name : String) : Option String :=
  s.lookup name

def put (s : Store) (name text : String) : Store :=
  if s.any fun x => x.1 == name then s.map fun x => if x.1 == name then (name, text) else x
  else s ++ [(name, text)]

def entriesOf {α : Type} (decode : Json → Decoded α) (text : String) : List α :=
  match Json.read? text with
  | some (.array items) => items.filterMap fun item => (decode item).toOption
  | _ => []

def load {α : Type} (s : Store) (name : String) (decode : Json → Decoded α) : List α :=
  match s.payload? name with
  | some text => entriesOf decode text
  | none => []

def save {α : Type} (s : Store) (name : String) (encode : α → Json) (entries : List α) : Store :=
  s.put name (Json.array (entries.map encode)).compact

end Store

end ArchiveSearch

import ArchiveSearch.Files.Tree
import ArchiveSearch.Json.Decode

namespace ArchiveSearch

set_option autoImplicit false

namespace Cell

def toJson : Cell → Json
  | .bytes digits => .array [.string digits]
  | c => c.encode

def ofJson : Json → Decoded Cell
  | .null => .ok .null
  | .integer n => (Decode.int64 (.integer n)).map .integer
  | .real x => .ok (.real x)
  | .string s => .ok (.text s)
  | .array [.string digits] => .ok (.bytes digits)
  | j => Decode.mismatch j "a cell"

end Cell

namespace Table

def encode (t : Table) : Json :=
  .object [("name", .string t.name), ("columns", Json.ofList .string t.columns),
    ("rows", Json.ofList (Json.ofList Cell.toJson) t.rows)]

def decode (j : Json) : Decoded Table := do
  let r ← Record.ofValue .inOpen "a table" ["name", "columns", "rows"] j
  let name := r.field "name" Decode.string
  let columns := r.field "columns" (Decode.list Decode.string)
  let rows := r.field "rows" (Decode.list (Decode.list Cell.ofJson))
  r.settle [name.fault, columns.fault, rows.fault]
  return { name := ← name.required r
           columns := ← columns.required r
           rows := ← rows.required r }

end Table

namespace Database

def encode (d : Database) : Json :=
  .object [("tables", Json.ofList Table.encode d.tables),
    ("records", .object (d.store.map fun x => (x.1, .string x.2)))]

def decode (j : Json) : Decoded Database := do
  let r ← Record.ofValue .inOpen "a database" ["tables", "records"] j
  let tables := r.field "tables" (Decode.list Table.decode)
  let records := r.field "records" fun
    | .object members => members.mapM fun x => (Decode.string x.2).map fun text => (x.1, text)
    | other => Decode.mismatch other "a map"
  r.settle [tables.fault, records.fault]
  return { tables := ← tables.required r, store := ← records.required r }

def heading : String :=
  "archive search database\n"

def text (d : Database) : String :=
  heading ++ d.encode.compact

def ofText? (text : String) : Option Database :=
  if heading.toList.isPrefixOf text.toList then
    (Json.read? (String.ofList (text.toList.drop heading.length))).bind fun j =>
      (decode j).toOption
  else none

end Database

namespace FileNode

def ofText (content : String) : FileNode :=
  match Database.ofText? content with
  | some d => .database d
  | none => .text content

end FileNode

end ArchiveSearch

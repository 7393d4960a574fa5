import ArchiveSearch.Digest.Sha256
import ArchiveSearch.Query.Simplify

namespace ArchiveSearch

set_option autoImplicit false

structure Statement where
  id : String
  text : String
  params : List Value
  createdAt : Nat
  useCount : Nat
  deriving DecidableEq

namespace Statement

def idOf (text : String) : String :=
  "stmt_" ++ String.ofList ((Digest.hexChars (Digest.Sha256.digest (Digest.ofText text))).take 16)

def startsName (c : Char) : Bool :=
  let folded := Text.foldChar c
  ('a' ≤ folded && folded ≤ 'z') || c == '_'

def continuesName (c : Char) : Bool :=
  startsName c || ('0' ≤ c && c ≤ '9')

open Text (Cursor) in
def tableAt (at_ : Cursor) : Option (List Char) := do
  let name ← Cursor.boundary at_ >>= Cursor.word ['F', 'R', 'O', 'M'] >>= Cursor.blanks
  let last ← Cursor.one startsName name >>= Cursor.many continuesName
  return name.rest.take (name.distance last)

def tableOf? (text : String) : Option String :=
  (Text.Cursor.find? tableAt text).map String.ofList

def table? (s : Statement) : Option String :=
  tableOf? s.text

end Statement

abbrev Statements := List Statement

namespace Statements

def find? (table : Statements) (id : String) : Option Statement :=
  List.find? (fun s => s.id == id) table

def prepare (table : Statements) (text : String) (params : List Value) (now : Nat) :
    Statement × Statements :=
  let id := Statement.idOf text
  match table.find? id with
  | some known =>
      let next := { known with params, useCount := known.useCount + 1 }
      (next, table.map fun s => if s.id == id then next else s)
  | none =>
      let fresh : Statement := { id, text, params, createdAt := now, useCount := 1 }
      (fresh, table ++ [fresh])

def isStale (maxAge now : Nat) (s : Statement) : Bool :=
  s.useCount == 1 && maxAge < now - s.createdAt

def prune (table : Statements) (maxAge now : Nat) : Nat × Statements :=
  let kept := table.filter fun s => !isStale maxAge now s
  (table.length - kept.length, kept)

def ranksBefore (a b : Statement) : Bool :=
  b.useCount < a.useCount || (a.useCount == b.useCount && a.id ≤ b.id)

def all (table : Statements) : List Statement :=
  table.mergeSort ranksBefore

end Statements

end ArchiveSearch

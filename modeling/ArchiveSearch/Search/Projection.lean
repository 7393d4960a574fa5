import ArchiveSearch.Search.Cell
import ArchiveSearch.Search.Engine

namespace ArchiveSearch

set_option autoImplicit false

namespace Projection

inductive Source where
  | parameter
  | null
  | bytes (digits : String)
  deriving DecidableEq

def Source.text : Source → String
  | .parameter => "?"
  | .null => "NULL"
  | .bytes digits => "x'" ++ digits ++ "'"

end Projection

abbrev Projection := List (String × Projection.Source)

namespace Projection

def text (p : Projection) : String :=
  "SELECT " ++ ", ".intercalate (p.map fun column => column.2.text ++ " AS " ++ column.1)

def needed (p : Projection) : Nat :=
  (p.filter fun column => column.2 == .parameter).length

/-- The fault of a wrong number of values, if it is wrong; binding stops at the first that is too
many. -/
def countFault (needed given : Nat) (text : String) : Option SearchError :=
  if given = needed then none
  else
    let got := min given (needed + 1)
    some (.execution ("Wrong number of parameters passed to query. Got " ++ got.repr ++
      ", needed " ++ needed.repr ++ " (in: " ++ text ++ ")"))

def cells : Projection → List Value → List (String × Cell)
  | [], _ => []
  | (name, .parameter) :: rest, [] => (name, .null) :: cells rest []
  | (name, .parameter) :: rest, v :: values => (name, .ofValue v) :: cells rest values
  | (name, .null) :: rest, values => (name, .null) :: cells rest values
  | (name, .bytes digits) :: rest, values =>
      (name, .bytes (Text.lower digits)) :: cells rest values

def run (p : Projection) (values : List Value) : Outcome Row :=
  match countFault p.needed values.length p.text with
  | some fault => .error fault
  | none => .ok (Json.sortMembers ((p.cells values).map fun x => (x.1, x.2.encode)))

def plan : List String :=
  ["SCAN CONSTANT ROW"]

end Projection

end ArchiveSearch

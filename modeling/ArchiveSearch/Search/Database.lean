import ArchiveSearch.Query.Formula
import ArchiveSearch.Search.Engine
import ArchiveSearch.Search.Projection
import ArchiveSearch.Suggest.Store

namespace ArchiveSearch

set_option autoImplicit false

structure Table where
  name : String
  columns : List String
  rows : List (List Cell)

structure Database where
  tables : List Table := []
  store : Store := []

def sameName (a b : String) : Bool :=
  a.toList.map Text.foldChar == b.toList.map Text.foldChar

namespace Table

def rowNumberNames : List String :=
  ["rowid", "oid", "_rowid_"]

inductive Place where
  | column (index : Nat)
  | rowNumber

def place? (t : Table) (name : String) : Option Place :=
  let bare := match (name.toList.splitOn '.').map String.ofList with
    | [table, column] => if sameName table t.name then some column else none
    | [column] => some column
    | _ => none
  match bare with
  | none => none
  | some column =>
      match t.columns.findIdx? fun other => sameName other column with
      | some index => some (.column index)
      | none => if rowNumberNames.any (sameName column) then some .rowNumber else none

def rowOf (t : Table) (cells : List Cell) : Row :=
  Json.sortMembers ((t.columns.zip cells).map fun x => (x.1, x.2.encode))

end Table

namespace Database

structure Scope where
  table : Table
  number : Nat
  cells : List Cell
  params : List Value

def Scope.column (s : Scope) (name : String) : Cell :=
  match s.table.place? name with
  | some (.column index) => s.cells.getD index .null
  | some .rowNumber => .integer (Int64.ofNat s.number)
  | none => .null

def lowered : Cell → Cell
  | .text s => .text (String.ofList (s.toList.map Char.toLower))
  | c => c

def isNumeral (chars : List Char) : Bool :=
  !chars.isEmpty && chars.all fun c => '0' ≤ c && c ≤ '9'

def operand (s : Scope) : List Piece → Option (Cell × List Piece)
  | .token (.word chars) :: .group [.token inner] :: rest =>
      if (Token.word chars).isKeyword "lower" then
        (single inner).map fun c => (lowered c, rest)
      else none
  | .token t :: rest => (single t).map fun c => (c, rest)
  | _ => none
where
  single : Token → Option Cell
    | .placeholder index => some ((s.params[index]?.map Cell.ofValue).getD .null)
    | .word chars =>
        if isNumeral chars then (String.ofList chars).toInt?.map fun n => .integer (Int64.ofInt n)
        else some (s.column (String.ofList chars))
    | _ => none

def compares (symbol : List Char) (order : Ordering) : Option Bool :=
  match String.ofList symbol with
  | "=" => some (order == .eq)
  | "!=" => some (order != .eq)
  | "<" => some (order == .lt)
  | "<=" => some (order != .gt)
  | ">" => some (order == .gt)
  | ">=" => some (order != .lt)
  | _ => none

def compare (symbol : List Char) (a b : Cell) : Option Bool :=
  (a.compare? b).bind (compares symbol)

/-- Whether a text is like a pattern, in which `%` stands for any characters and `_` for one. -/
def isLike : List Char → List Char → Bool
  | [], text => text.isEmpty
  | '%' :: pattern, [] => isLike pattern []
  | '%' :: pattern, c :: text => isLike pattern (c :: text) || isLike ('%' :: pattern) text
  | _ :: _, [] => false
  | p :: pattern, c :: text => (p == '_' || p.toLower == c.toLower) && isLike pattern text
termination_by pattern text => (text.length, pattern.length)

def like : Cell → Cell → Option Bool
  | .text s, .text pattern => some (isLike pattern.toList s.toList)
  | _, _ => none

def atomTruth (s : Scope) (pieces : List Piece) : Option Bool := do
  let (first, rest) ← operand s pieces
  match rest with
  | .token (.symbol symbol) :: rest =>
      let (second, _) ← operand s rest
      compare symbol first second
  | word :: rest =>
      if word.isKeyword "between" then
        let (least, rest) ← operand s rest
        let (most, _) ← operand s rest.tail
        Formula.conjunction [compare ['>', '='] first least, compare ['<', '='] first most]
      else if word.isKeyword "like" then
        let (pattern, _) ← operand s rest
        like first pattern
      else if word.isKeyword "not" then
        let (pattern, _) ← operand s rest.tail
        (like first pattern).map not
      else if word.isKeyword "is" then
        return (first == .null) == (rest.length == 1)
      else none
  | [] => none

def reserved : List String :=
  ["and", "or", "not", "is", "null", "in", "like", "between", "lower"]

def isColumnName (chars : List Char) : Bool :=
  !isNumeral chars &&
    !(reserved.any fun name => (Token.word chars).isKeyword name)

mutual
def tokensOf : Piece → List Token
  | .token t => [t]
  | .group inner => tokens inner
def tokens : List Piece → List Token
  | [] => []
  | p :: rest => tokensOf p ++ tokens rest
end

def tableNames : List Token → List String
  | from_ :: .word chars :: rest =>
      if from_.isKeyword "from" then String.ofList chars :: tableNames rest
      else tableNames (.word chars :: rest)
  | _ :: rest => tableNames rest
  | [] => []

def startsQuery (pieces : List Piece) : Bool :=
  pieces.head?.any fun p => p.isKeyword "select"

mutual
def columnsOf : Piece → List String
  | .token (.word chars) => if isColumnName chars then [String.ofList chars] else []
  | .token _ => []
  | .group inner => if startsQuery inner then [] else columnNames inner
def columnNames : List Piece → List String
  | [] => []
  | p :: rest => columnsOf p ++ columnNames rest
end

def table? (d : Database) (name : String) : Option Table :=
  d.tables.find? fun t => sameName t.name name

structure Request where
  counts : Bool
  table : Table
  condition : List Piece

def missingTable? (d : Database) (pieces : List Piece) : Option String :=
  (tableNames (tokens pieces)).find? fun name => (d.table? name).isNone

def missingColumn? (t : Table) (condition : List Piece) : Option String :=
  (columnNames condition).find? fun name => (t.place? name).isNone

def requestOf (d : Database) (pieces : List Piece) : Except String Request :=
  match (pieces.dropWhile fun p => !p.isKeyword "from").drop 1 with
  | .token (.word name) :: next :: condition =>
      match d.table? (String.ofList name), next.isKeyword "where" with
      | some table, true =>
          match missingColumn? table condition with
          | some column => .error ("no such column: " ++ column)
          | none =>
              .ok { counts := (pieces.drop 1).head?.any fun p => p.isKeyword "count"
                    table, condition }
      | _, _ => .error "not a query of one table"
  | _ => .error "not a query of one table"

def request (d : Database) (text : String) : Except String Request :=
  match Piece.ofText? text with
  | none => .error "incomplete input"
  | some pieces =>
      match d.missingTable? pieces with
      | some name => .error ("no such table: " ++ name)
      | none => d.requestOf pieces

def matching (r : Request) (params : List Value) : List (List Cell) :=
  let formula := Formula.ofPieces r.condition
  (r.table.rows.zipIdx 1).filterMap fun (cells, number) =>
    let truth := formula.truth (atomTruth { table := r.table, number, cells, params })
    if truth == some true then some cells else none

def run (d : Database) (q : Query) : Outcome (List Row) :=
  match d.request q.text with
  | .error message => .error (.execution (message ++ " (in: " ++ q.text ++ ")"))
  | .ok r =>
      match Projection.countFault q.placeholders q.params.length q.text with
      | some fault => .error fault
      | none =>
          let rows := matching r q.params
          if r.counts then .ok [[("count", .integer rows.length)]]
          else .ok (rows.map r.table.rowOf)

def explain (d : Database) (q : Query) : Outcome (List String) :=
  match d.request q.text with
  | .error message => .error (.execution message)
  | .ok r => .ok ["SCAN " ++ r.table.name]

def engine : Engine Database where
  run q d := (d.run q, d)
  explain q d := d.explain q

end Database

end ArchiveSearch

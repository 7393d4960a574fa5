import ArchiveSearch.Filter.Basic
import ArchiveSearch.Query.Basic

namespace ArchiveSearch

set_option autoImplicit false

inductive Test where
  | sameText (value : String)
  | within (first last : Date)
  | since (first : Date)
  | upTo (last : Date)
  | between (least most : Binary64)
  | flag (value : Bool)
  | compare (comparison : Comparison) (value : Value)
  deriving DecidableEq

structure Clause where
  column : String
  test : Test
  deriving DecidableEq

namespace Clause

def text (table : String) (c : Clause) : String :=
  let name := table ++ "." ++ c.column
  match c.test with
  | .sameText _ => "LOWER(" ++ name ++ ") = LOWER(?)"
  | .within _ _ => "(" ++ name ++ " >= ? AND " ++ name ++ " <= ?)"
  | .since _ => name ++ " >= ?"
  | .upTo _ => name ++ " <= ?"
  | .between _ _ => name ++ " BETWEEN ? AND ?"
  | .flag _ => name ++ " = ?"
  | .compare comparison _ => name ++ " " ++ comparison.name ++ " ?"

def params (c : Clause) : List Value :=
  match c.test with
  | .sameText value => [.text value]
  | .within first last => [.text first.text, .text last.text]
  | .since first => [.text first.text]
  | .upTo last => [.text last.text]
  | .between least most => [.ofNumber least, .ofNumber most]
  | .flag value => [.integer (if value then 1 else 0)]
  | .compare _ value => [value]

end Clause

end ArchiveSearch

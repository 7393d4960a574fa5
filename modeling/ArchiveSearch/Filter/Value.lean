import ArchiveSearch.Calendar.Date
import ArchiveSearch.Number.Binary64

namespace ArchiveSearch

set_option autoImplicit false

inductive Value where
  | boolean (b : Bool)
  | integer (n : Int64)
  | number (x : Binary64)
  | date (d : Date)
  | text (s : String)
  deriving DecidableEq

instance : Inhabited Value :=
  ⟨.boolean false⟩

namespace Value

def isWhole (x : Binary64) : Bool :=
  x.isIntegral && x.toInt.natAbs < Bound.int64

def ofNumber (x : Binary64) : Value :=
  if isWhole x then .integer (Int64.ofInt x.toInt) else .number x

end Value

end ArchiveSearch

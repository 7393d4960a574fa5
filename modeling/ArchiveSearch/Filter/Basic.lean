import ArchiveSearch.Filter.ContentType
import ArchiveSearch.Filter.Value

namespace ArchiveSearch

set_option autoImplicit false

inductive Connective where
  | and
  | or
  deriving DecidableEq, Inhabited

namespace Connective

def all : List Connective :=
  [.and, .or]

def name : Connective → String
  | .and => "AND"
  | .or => "OR"

end Connective

inductive TextMatch where
  | equals
  | contains
  | startsWith
  | endsWith
  deriving DecidableEq, Inhabited

namespace TextMatch

def all : List TextMatch :=
  [.equals, .contains, .startsWith, .endsWith]

def name : TextMatch → String
  | .equals => "equals"
  | .contains => "contains"
  | .startsWith => "startsWith"
  | .endsWith => "endsWith"

end TextMatch

inductive DatePreset where
  | today
  | lastWeek
  | lastMonth
  | lastYear
  | last5Years
  | last10Years
  | custom
  deriving DecidableEq, Inhabited

namespace DatePreset

def all : List DatePreset :=
  [.today, .lastWeek, .lastMonth, .lastYear, .last5Years, .last10Years, .custom]

def name : DatePreset → String
  | .today => "today"
  | .lastWeek => "lastWeek"
  | .lastMonth => "lastMonth"
  | .lastYear => "lastYear"
  | .last5Years => "last5Years"
  | .last10Years => "last10Years"
  | .custom => "custom"

def offsetDays : DatePreset → Option Nat
  | .today => some 0
  | .lastWeek => some 7
  | .lastMonth => some 30
  | .lastYear => some 365
  | .last5Years => some 1826
  | .last10Years => some 3652
  | .custom => none

end DatePreset

inductive Comparison where
  | equal
  | notEqual
  | less
  | lessOrEqual
  | greater
  | greaterOrEqual
  | like
  | notLike
  deriving DecidableEq, Inhabited

namespace Comparison

def all : List Comparison :=
  [.equal, .notEqual, .less, .lessOrEqual, .greater, .greaterOrEqual, .like, .notLike]

def name : Comparison → String
  | .equal => "="
  | .notEqual => "!="
  | .less => "<"
  | .lessOrEqual => "<="
  | .greater => ">"
  | .greaterOrEqual => ">="
  | .like => "LIKE"
  | .notLike => "NOT LIKE"

end Comparison

structure TextFilter where
  field : String
  value : String
  matching : TextMatch := .contains
  deriving DecidableEq

structure DateFilter where
  field : String
  start : Option Date := none
  end_ : Option Date := none
  preset : DatePreset := .custom
  deriving DecidableEq

structure RangeFilter where
  field : String
  min : Binary64
  max : Binary64
  step : Option Binary64 := none
  deriving DecidableEq

structure BooleanFilter where
  field : String
  value : Bool
  deriving DecidableEq

structure CustomFilter where
  field : String
  comparison : Comparison
  value : Value
  deriving DecidableEq

structure Filter where
  contentType : ContentType
  connective : Connective := .and
  texts : List TextFilter := []
  dates : List DateFilter := []
  ranges : List RangeFilter := []
  booleans : List BooleanFilter := []
  customs : List CustomFilter := []
  deriving DecidableEq

namespace Filter

def empty (contentType : ContentType) : Filter :=
  { contentType }

def withConnective (f : Filter) (connective : Connective) : Filter :=
  { f with connective }

def withText (f : Filter) (field value : String) (matching : TextMatch) : Filter :=
  { f with texts := f.texts ++ [{ field, value, matching }] }

def withDate (f : Filter) (field : String) (start end_ : Option Date) (preset : DatePreset) :
    Filter :=
  { f with dates := f.dates ++ [{ field, start, end_, preset }] }

def withRange (f : Filter) (field : String) (min max : Binary64) : Filter :=
  { f with ranges := f.ranges ++ [{ field, min, max }] }

def withBoolean (f : Filter) (field : String) (value : Bool) : Filter :=
  { f with booleans := f.booleans ++ [{ field, value }] }

def withCustom (f : Filter) (field : String) (comparison : Comparison) (value : Value) : Filter :=
  { f with customs := f.customs ++ [{ field, comparison, value }] }

def predicateCount (f : Filter) : Nat :=
  f.texts.length + f.dates.length + f.ranges.length + f.booleans.length + f.customs.length

def isEmpty (f : Filter) : Bool :=
  f.predicateCount == 0

end Filter

inductive FilterTree where
  | leaf (id : Option String) (filter : Filter)
  | operator (id : Option String) (connective : Connective) (children : List FilterTree)
  | group (id : Option String) (children : List FilterTree)
  deriving Inhabited

end ArchiveSearch

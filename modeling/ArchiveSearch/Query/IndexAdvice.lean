import ArchiveSearch.Filter.Basic
import ArchiveSearch.Filter.Column

namespace ArchiveSearch

set_option autoImplicit false

structure IndexAdvice where
  table : String
  columns : List String
  deriving DecidableEq

namespace IndexAdvice

def name (a : IndexAdvice) : String :=
  "idx_" ++ a.table ++ "_" ++ "_".intercalate a.columns

def text (a : IndexAdvice) : String :=
  "CREATE INDEX IF NOT EXISTS " ++ a.name ++ " ON " ++ a.table ++ "(" ++
    ", ".intercalate a.columns ++ ");"

end IndexAdvice

namespace Filter

def textColumns (f : Filter) : List String :=
  f.texts.filterMap fun t => Column.ofField? t.field

def dateColumns (f : Filter) : List String :=
  f.dates.filterMap fun d => Column.ofField? d.field

def rangeColumns (f : Filter) : List String :=
  f.ranges.filterMap fun r => Column.ofField? r.field

def distinct (names : List String) : List String :=
  names.foldl (fun kept name => if kept.contains name then kept else kept ++ [name]) []

def compositeColumns (f : Filter) : Option (List String) :=
  match f.textColumns, f.dateColumns with
  | text :: _, date :: _ => if text == date then none else some [text, date]
  | _, _ => none

/-- One index for each distinct column of texts, dates and ranges, and one over the first columns of
texts and dates together. -/
def indexAdvice (f : Filter) : List IndexAdvice :=
  let table := f.contentType.table
  (distinct (f.textColumns ++ f.dateColumns ++ f.rangeColumns)).map (fun c => ⟨table, [c]⟩) ++
    (f.compositeColumns.map fun columns => ⟨table, columns⟩).toList

def suggestIndexes (f : Filter) : List String :=
  f.indexAdvice.map IndexAdvice.text

end Filter

end ArchiveSearch

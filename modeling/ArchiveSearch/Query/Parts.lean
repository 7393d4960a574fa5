import ArchiveSearch.Filter.Column
import ArchiveSearch.Query.Clause
import ArchiveSearch.Query.FullText
import ArchiveSearch.SearchError

/- The parts of a filter's query, and the three queries that are put together from them.

   Texts that are not compared exactly become one expression of the full-text index; every other
   condition becomes a clause. The value of the expression is always bound first. -/
namespace ArchiveSearch

set_option autoImplicit false

structure Parts where
  contentType : ContentType
  connective : Connective
  terms : List String
  clauses : List Clause

namespace Parts

def table (p : Parts) : String :=
  p.contentType.table

def matchExpression (p : Parts) : Option String :=
  FullText.join? p.connective p.terms

def clauseTexts (p : Parts) : List String :=
  p.clauses.map (Clause.text p.table)

def params (p : Parts) : List Value :=
  (p.matchExpression.map Value.text).toList ++ p.clauses.flatMap Clause.params

def joined (p : Parts) : List String → String
  | [] => alwaysTrue
  | conditions => (" " ++ p.connective.name ++ " ").intercalate conditions

def constrains (p : Parts) : Bool :=
  !p.terms.isEmpty || !p.clauses.isEmpty

def condition (p : Parts) : Query :=
  let fullText := p.contentType.fullTextTable
  let membership :=
    p.table ++ ".rowid IN (SELECT rowid FROM " ++ fullText ++ " WHERE " ++ fullText ++ " MATCH ?)"
  { text := p.joined ((p.matchExpression.map fun _ => membership).toList ++ p.clauseTexts)
    params := p.params }

def select (p : Parts) : Query :=
  let table := p.table
  let fullText := p.contentType.fullTextTable
  let hits := fullText ++ "_hits"
  let text :=
    match p.matchExpression with
    | some _ =>
        "SELECT " ++ table ++ ".*, " ++ hits ++ ".relevance AS relevance FROM " ++ table ++
          " LEFT JOIN (SELECT rowid AS fts_rowid, bm25(" ++ fullText ++ ") AS relevance FROM " ++
          fullText ++ " WHERE " ++ fullText ++ " MATCH ?) AS " ++ hits ++ " ON " ++ hits ++
          ".fts_rowid = " ++ table ++ ".rowid WHERE " ++
          p.joined ((hits ++ ".fts_rowid IS NOT NULL") :: p.clauseTexts) ++
          " ORDER BY relevance IS NULL, relevance"
    | none =>
        "SELECT " ++ table ++ ".* FROM " ++ table ++ " WHERE " ++ p.joined p.clauseTexts
  { text, params := p.params }

def count (p : Parts) : Query :=
  let condition := p.condition
  { text := "SELECT COUNT(*) AS count FROM " ++ p.table ++ " WHERE " ++ condition.text
    params := condition.params }

end Parts

namespace Filter

def columnOf (field : String) : Outcome String :=
  match Column.ofField? field with
  | some column => .ok column
  | none => .error (.invalidField field)

def textPart (f : TextFilter) : Outcome (Option String × Option Clause) := do
  let column ← columnOf f.field
  if f.matching = .equals then return (none, some ⟨column, .sameText f.value⟩)
  else return (FullText.term? column f.value f.matching, none)

def dateBounds (today : Date) (f : DateFilter) : Outcome (Option Date × Option Date) :=
  match f.preset.offsetDays with
  | none => .ok (f.start, f.end_)
  | some days =>
      match today.daysBefore? days with
      | some first => .ok (some first, some today)
      | none => .error .windowOutOfRange

def dateClause (today : Date) (f : DateFilter) : Outcome (Option Clause) := do
  let column ← columnOf f.field
  match ← dateBounds today f with
  | (some first, some last) => return some ⟨column, .within first last⟩
  | (some first, none) => return some ⟨column, .since first⟩
  | (none, some last) => return some ⟨column, .upTo last⟩
  | (none, none) => return none

def rangeClause (f : RangeFilter) : Outcome Clause := do
  return ⟨← columnOf f.field, .between f.min f.max⟩

def booleanClause (f : BooleanFilter) : Outcome Clause := do
  return ⟨← columnOf f.field, .flag f.value⟩

def customClause (f : CustomFilter) : Outcome Clause := do
  return ⟨← columnOf f.field, .compare f.comparison f.value⟩

def parts (today : Date) (f : Filter) : Outcome Parts := do
  let texts ← f.texts.mapM textPart
  let dates ← f.dates.mapM (dateClause today)
  let ranges ← f.ranges.mapM rangeClause
  let booleans ← f.booleans.mapM booleanClause
  let customs ← f.customs.mapM customClause
  return { contentType := f.contentType
           connective := f.connective
           terms := texts.filterMap (·.1)
           clauses := texts.filterMap (·.2) ++ dates.filterMap id ++ ranges ++ booleans ++ customs }

def compile (today : Date) (f : Filter) : Outcome Query :=
  (f.parts today).map Parts.select

def compileCount (today : Date) (f : Filter) : Outcome Query :=
  (f.parts today).map Parts.count

def compileCondition (today : Date) (f : Filter) : Outcome Query :=
  (f.parts today).map Parts.condition

end Filter

end ArchiveSearch

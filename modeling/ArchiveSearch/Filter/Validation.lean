import ArchiveSearch.Filter.Basic
import ArchiveSearch.Filter.Column
import ArchiveSearch.Number.Decimal
import ArchiveSearch.Text.Blank
import ArchiveSearch.Text.Quoted

namespace ArchiveSearch

set_option autoImplicit false

structure Issue where
  field : String
  message : String
  deriving DecidableEq

structure Report where
  errors : List Issue
  warnings : List Issue
  complexityHalves : Nat
  deriving DecidableEq

namespace Report

def isValid (r : Report) : Bool :=
  r.errors.isEmpty

def complexity (r : Report) : Binary64 :=
  Binary64.ofRatio false r.complexityHalves 2

end Report

def DateFilter.isUnbounded (f : DateFilter) : Bool :=
  f.preset == .custom && f.start.isNone && f.end_.isNone

namespace Filter

def pathOf (list : String) (index : Nat) : String :=
  list ++ "[" ++ index.repr ++ "]"

def issuesIn {α : Type} (list : String) (check : String → α → List Issue) (xs : List α) :
    List Issue :=
  xs.zipIdx.flatMap fun x => check (pathOf list x.2) x.1

def fieldIssues (path field : String) : List Issue :=
  if Text.isAllBlank field then [⟨path ++ ".field", "Field is required"⟩]
  else if (Column.ofField? field).isNone then
    [⟨path ++ ".field", "Field " ++ Text.quoted field ++ " is not a valid identifier"⟩]
  else []

def textIssues (path : String) (f : TextFilter) : List Issue :=
  fieldIssues path f.field ++
    if Text.isAllBlank f.value then [⟨path ++ ".value", "Search text is required"⟩] else []

def dateIssues (path : String) (f : DateFilter) : List Issue :=
  fieldIssues path f.field ++
    match f.start, f.end_ with
    | some start, some end_ =>
        if end_.before start then
          [⟨path ++ ".start",
            "Start date " ++ start.text ++ " is after end date " ++ end_.text⟩]
        else []
    | _, _ => []

def rangeIssues (path : String) (f : RangeFilter) : List Issue :=
  fieldIssues path f.field ++
    (if !f.min.isFinite || !f.max.isFinite then
      [⟨path, "Range bounds must be finite numbers"⟩]
    else if f.max.lt f.min then
      [⟨path ++ ".min",
        "Minimum " ++ f.min.render Binary64.plainStyle ++ " is greater than maximum " ++
          f.max.render Binary64.plainStyle⟩]
    else []) ++
    match f.step with
    | some step =>
        if Binary64.zero.lt step then [] else [⟨path ++ ".step", "Step must be positive"⟩]
    | none => []

def booleanIssues (path : String) (f : BooleanFilter) : List Issue :=
  fieldIssues path f.field

def customIssues (path : String) (f : CustomFilter) : List Issue :=
  fieldIssues path f.field

def errors (f : Filter) : List Issue :=
  issuesIn "textFilters" textIssues f.texts ++ issuesIn "dateFilters" dateIssues f.dates ++
    issuesIn "rangeFilters" rangeIssues f.ranges ++
    issuesIn "booleanFilters" booleanIssues f.booleans ++
    issuesIn "customFilters" customIssues f.customs

def dateWarnings (path : String) (f : DateFilter) : List Issue :=
  (if f.isUnbounded then
    [⟨path, "Custom date range has no bounds and matches every date"⟩]
  else []) ++
    if f.preset != .custom && (f.start.isSome || f.end_.isSome) then
      [⟨path ++ ".preset", "Preset overrides the explicit start/end dates"⟩]
    else []

def weight (f : Filter) : Nat :=
  2 * f.texts.length + 3 * f.dates.length + 2 * f.ranges.length + f.booleans.length +
    4 * f.customs.length

def complexityHalves (f : Filter) : Nat :=
  match f.connective with
  | .and => 2 * f.weight
  | .or => 3 * f.weight

def complexityLimit : Nat := 50

def halvesText (halves : Nat) : String :=
  (halves / 2).repr ++ if halves % 2 == 0 then ".0" else ".5"

def warnings (f : Filter) : List Issue :=
  issuesIn "dateFilters" dateWarnings f.dates ++
    (if f.isEmpty then [⟨"filters", "No filters applied; every record will match"⟩] else []) ++
    if 2 * complexityLimit < f.complexityHalves then
      [⟨"filters",
        "Filter complexity " ++ halvesText f.complexityHalves ++ " exceeds " ++
          complexityLimit.repr ++ "; the search may be slow"⟩]
    else []

def validate (f : Filter) : Report :=
  { errors := f.errors, warnings := f.warnings, complexityHalves := f.complexityHalves }

end Filter

end ArchiveSearch

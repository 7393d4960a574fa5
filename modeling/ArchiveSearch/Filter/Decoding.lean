import ArchiveSearch.Filter.Basic
import ArchiveSearch.Json.Decode

namespace ArchiveSearch

set_option autoImplicit false

def ContentType.decode (place : Place) : Json → Decoded ContentType :=
  Decode.variant place ContentType.all ContentType.name

def Connective.decode (place : Place) : Json → Decoded Connective :=
  Decode.variant place Connective.all Connective.name

def TextMatch.decode (place : Place) : Json → Decoded TextMatch :=
  Decode.variant place TextMatch.all TextMatch.name

def DatePreset.decode (place : Place) : Json → Decoded DatePreset :=
  Decode.variant place DatePreset.all DatePreset.name

def Comparison.decode (place : Place) : Json → Decoded Comparison :=
  Decode.variant place Comparison.all Comparison.name

/-- A value by its looks: a text that reads as a date is a date, and an integer that 64 bits do not
hold is a number. -/
def Value.decode : Json → Decoded Value
  | .bool b => .ok (.boolean b)
  | .integer n =>
      match Decode.int64 (.integer n) with
      | .ok small => .ok (.integer small)
      | .error _ => .ok (.number (Binary64.ofInt n))
  | .real x => .ok (.number x)
  | .string s =>
      match DateReader.loose s with
      | .ok d => .ok (.date d)
      | .error _ => .ok (.text s)
  | _ => .error (.noVariant "FilterValue")

def TextFilter.decode (place : Place) (j : Json) : Decoded TextFilter := do
  let r ← Record.ofValue place "struct TextFilter" ["field", "value", "matchType"] j
  let field := r.field "field" Decode.string
  let value := r.field "value" Decode.string
  let matching := r.field "matchType" (TextMatch.decode place)
  r.settle [field.fault, value.fault, matching.fault]
  return { field := ← field.required r
           value := ← value.required r
           matching := ← matching.getD .contains }

def DateFilter.decode (place : Place) (j : Json) : Decoded DateFilter := do
  let r ← Record.ofValue place "struct DateFilter" ["field", "start", "end", "preset"] j
  let field := r.field "field" Decode.string
  let start := r.field "start" (Decode.optional Decode.date)
  let end_ := r.field "end" (Decode.optional Decode.date)
  let preset := r.field "preset" (DatePreset.decode place)
  r.settle [field.fault, start.fault, end_.fault, preset.fault]
  return { field := ← field.required r
           start := ← start.getD none
           end_ := ← end_.getD none
           preset := ← preset.getD .custom }

def RangeFilter.decode (place : Place) (j : Json) : Decoded RangeFilter := do
  let r ← Record.ofValue place "struct RangeFilter" ["field", "min", "max", "step"] j
  let field := r.field "field" Decode.string
  let min := r.field "min" Decode.real
  let max := r.field "max" Decode.real
  let step := r.field "step" (Decode.optional Decode.real)
  r.settle [field.fault, min.fault, max.fault, step.fault]
  return { field := ← field.required r
           min := ← min.required r
           max := ← max.required r
           step := ← step.getD none }

def BooleanFilter.decode (place : Place) (j : Json) : Decoded BooleanFilter := do
  let r ← Record.ofValue place "struct BooleanFilter" ["field", "value"] j
  let field := r.field "field" Decode.string
  let value := r.field "value" Decode.bool
  r.settle [field.fault, value.fault]
  return { field := ← field.required r
           value := ← value.required r }

def CustomFilter.decode (place : Place) (j : Json) : Decoded CustomFilter := do
  let r ← Record.ofValue place "struct CustomFilter" ["field", "operator", "value"] j
  let field := r.field "field" Decode.string
  let comparison := r.field "operator" (Comparison.decode place)
  let value := r.field "value" Value.decode
  r.settle [field.fault, comparison.fault, value.fault]
  return { field := ← field.required r
           comparison := ← comparison.required r
           value := ← value.required r }

def Filter.decode (place : Place) (j : Json) : Decoded Filter := do
  let r ← Record.ofValue place "struct FilterModel"
    ["contentType", "operator", "textFilters", "dateFilters", "rangeFilters", "booleanFilters",
      "customFilters"] j
  let contentType := r.field "contentType" (ContentType.decode place)
  let connective := r.field "operator" (Connective.decode place)
  let texts := r.field "textFilters" (Decode.list (TextFilter.decode place))
  let dates := r.field "dateFilters" (Decode.list (DateFilter.decode place))
  let ranges := r.field "rangeFilters" (Decode.list (RangeFilter.decode place))
  let booleans := r.field "booleanFilters" (Decode.list (BooleanFilter.decode place))
  let customs := r.field "customFilters" (Decode.list (CustomFilter.decode place))
  r.settle [contentType.fault, connective.fault, texts.fault, dates.fault, ranges.fault,
    booleans.fault, customs.fault]
  return { contentType := ← contentType.required r
           connective := ← connective.getD .and
           texts := ← texts.getD []
           dates := ← dates.getD []
           ranges := ← ranges.getD []
           booleans := ← booleans.getD []
           customs := ← customs.getD [] }

namespace FilterTree

inductive Kind where
  | leaf
  | operator
  | group

namespace Kind

def all : List Kind :=
  [.leaf, .operator, .group]

def name : Kind → String
  | .leaf => "filter"
  | .operator => "operator"
  | .group => "group"

def fields : Kind → List String
  | .leaf => ["id", "filter"]
  | .operator => ["id", "operator", "children"]
  | .group => ["id", "children"]

def title : Kind → String
  | .leaf => "struct variant FilterNode::Filter"
  | .operator => "struct variant FilterNode::Operator"
  | .group => "struct variant FilterNode::Group"

def decode (place : Place) : Json → Decoded Kind
  | .string s =>
      match all.find? (fun kind => kind.name == s) with
      | some kind => .ok kind
      | none => .error (.unknownVariant s (all.map name))
  | .integer n =>
      if place = .inTagged ∧ 0 ≤ n then
        match all[n.toNat]? with
        | some kind => .ok kind
        | none => .error (.invalidValue (.integer n) "variant index 0 <= i < 3")
      else Decode.mismatch (.integer n) "variant identifier"
  | j => Decode.mismatch j "variant identifier"

end Kind

def splitTag (place : Place) : Json → Decoded (Kind × Json)
  | .object members =>
      match (Json.sortMembers members).lookup "type" with
      | none => .error (.missingField "type")
      | some tag => (Kind.decode place tag).map fun kind =>
          (kind, .object ((Json.sortMembers members).filter (·.1 != "type")))
  | .array [] => .error (.missingField "type")
  | .array (tag :: rest) => (Kind.decode place tag).map fun kind => (kind, .array rest)
  | j => Decode.mismatch j "internally tagged enum FilterNode"

def node (children : Json → Decoded (List FilterTree)) (kind : Kind) (rest : Json) :
    Decoded FilterTree := do
  let r ← Record.ofValue .inTagged kind.title kind.fields rest
  let id := r.field "id" (Decode.optional Decode.string)
  match kind with
  | .leaf =>
      let filter := r.field "filter" (Filter.decode .inTagged)
      r.settle [id.fault, filter.fault]
      return .leaf (← id.getD none) (← filter.required r)
  | .operator =>
      let connective := r.field "operator" (Connective.decode .inTagged)
      let inner := r.field "children" children
      r.settle [id.fault, connective.fault, inner.fault]
      return .operator (← id.getD none) (← connective.required r) (← inner.getD [])
  | .group =>
      let inner := r.field "children" children
      r.settle [id.fault, inner.fault]
      return .group (← id.getD none) (← inner.getD [])

def decodeTo (place : Place) : Nat → Json → Decoded FilterTree
  | 0, j => Decode.mismatch j "internally tagged enum FilterNode"
  | depth + 1, j => do
      let (kind, rest) ← splitTag place j
      node (Decode.list (decodeTo .inTagged depth)) kind rest

end FilterTree

mutual
def Json.depth : Json → Nat
  | .array items => 1 + depthItems items
  | .object members => 1 + depthMembers members
  | .null => 0
  | .bool _ => 0
  | .integer _ => 0
  | .real _ => 0
  | .string _ => 0
def Json.depthItems : List Json → Nat
  | [] => 0
  | item :: rest => max item.depth (depthItems rest)
def Json.depthMembers : List (String × Json) → Nat
  | [] => 0
  | (_, value) :: rest => max value.depth (depthMembers rest)
end

def FilterTree.decode (j : Json) : Decoded FilterTree :=
  FilterTree.decodeTo .inOpen (j.depth + 1) j

end ArchiveSearch

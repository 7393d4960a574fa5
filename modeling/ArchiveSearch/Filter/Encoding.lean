import ArchiveSearch.Filter.Basic
import ArchiveSearch.Json.Basic

namespace ArchiveSearch

set_option autoImplicit false

def Json.ofOption {α : Type} (encode : α → Json) : Option α → Json
  | none => .null
  | some a => encode a

def Json.ofList {α : Type} (encode : α → Json) (xs : List α) : Json :=
  .array (xs.map encode)

def Value.encode : Value → Json
  | .boolean b => .bool b
  | .integer n => .integer n.toInt
  | .number x => .ofBinary64 x
  | .date d => .string d.text
  | .text s => .string s

def TextFilter.encode (f : TextFilter) : Json :=
  .object [("field", .string f.field), ("value", .string f.value),
    ("matchType", .string f.matching.name)]

def DateFilter.encode (f : DateFilter) : Json :=
  .object [("field", .string f.field),
    ("start", Json.ofOption (fun d => .string d.text) f.start),
    ("end", Json.ofOption (fun d => .string d.text) f.end_),
    ("preset", .string f.preset.name)]

def RangeFilter.encode (f : RangeFilter) : Json :=
  .object [("field", .string f.field), ("min", .ofBinary64 f.min), ("max", .ofBinary64 f.max),
    ("step", Json.ofOption .ofBinary64 f.step)]

def BooleanFilter.encode (f : BooleanFilter) : Json :=
  .object [("field", .string f.field), ("value", .bool f.value)]

def CustomFilter.encode (f : CustomFilter) : Json :=
  .object [("field", .string f.field), ("operator", .string f.comparison.name),
    ("value", f.value.encode)]

def Filter.encode (f : Filter) : Json :=
  .object [("contentType", .string f.contentType.name), ("operator", .string f.connective.name),
    ("textFilters", Json.ofList TextFilter.encode f.texts),
    ("dateFilters", Json.ofList DateFilter.encode f.dates),
    ("rangeFilters", Json.ofList RangeFilter.encode f.ranges),
    ("booleanFilters", Json.ofList BooleanFilter.encode f.booleans),
    ("customFilters", Json.ofList CustomFilter.encode f.customs)]

mutual
def FilterTree.encode : FilterTree → Json
  | .leaf id filter =>
      .object [("type", .string "filter"), ("id", Json.ofOption .string id),
        ("filter", filter.encode)]
  | .operator id connective children =>
      .object [("type", .string "operator"), ("id", Json.ofOption .string id),
        ("operator", .string connective.name), ("children", .array (encodeAll children))]
  | .group id children =>
      .object [("type", .string "group"), ("id", Json.ofOption .string id),
        ("children", .array (encodeAll children))]
def FilterTree.encodeAll : List FilterTree → List Json
  | [] => []
  | child :: rest => child.encode :: encodeAll rest
end

end ArchiveSearch

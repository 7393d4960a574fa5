import ArchiveSearch.Filter.Decoding
import ArchiveSearch.Filter.Validation
import ArchiveSearch.Json.Printer

namespace ArchiveSearch.Payload

set_option autoImplicit false

def isString : Json → Bool
  | .string _ => true
  | _ => false

def isOneOf (names : List String) : Json → Bool
  | .string s => names.contains s
  | _ => false

def need (item : Json) (name : String) (fits : Json → Bool) (issue : Issue) : List Issue :=
  if (item.get? name).any fits then [] else [issue]

def allow (item : Json) (name : String) (fits : Json → Bool) (issue : Json → Issue) : List Issue :=
  match item.get? name with
  | none => []
  | some value => if fits value then [] else [issue value]

def needString (path name : String) (item : Json) : List Issue :=
  need item name isString ⟨path ++ "." ++ name, "Expected a string"⟩

def contentTypeIssues (payload : Json) : List Issue :=
  match payload.get? "contentType" with
  | none => [⟨"contentType", "Content type is required"⟩]
  | some value =>
      let known :=
        match value with
        | .string s => (ContentType.ofName? s).isSome
        | _ => false
      if known then []
      else
        [⟨"contentType",
          "Unknown content type " ++ value.canonical ++ "; expected one of " ++
            ", ".intercalate (ContentType.all.map ContentType.name)⟩]

def connectiveIssues (payload : Json) : List Issue :=
  allow payload "operator" (isOneOf ["AND", "OR"]) fun value =>
    ⟨"operator", "Operator must be AND or OR, got " ++ value.canonical⟩

def textIssues (path : String) (item : Json) : List Issue :=
  needString path "field" item ++ needString path "value" item ++
    allow item "matchType" (isOneOf (TextMatch.all.map TextMatch.name)) fun value =>
      ⟨path ++ ".matchType", "Unknown match type " ++ value.canonical⟩

def isDateOrNull : Json → Bool
  | .null => true
  | .string s =>
      match DateReader.strict s with
      | .ok _ => true
      | .error _ => false
  | _ => false

def boundIssues (path name : String) (item : Json) : List Issue :=
  allow item name isDateOrNull fun value =>
    ⟨path ++ "." ++ name, "Expected a YYYY-MM-DD date, got " ++ value.canonical⟩

def dateIssues (path : String) (item : Json) : List Issue :=
  needString path "field" item ++
    (allow item "preset" (isOneOf (DatePreset.all.map DatePreset.name)) fun value =>
      ⟨path ++ ".preset", "Unknown date preset " ++ value.canonical⟩) ++
    boundIssues path "start" item ++ boundIssues path "end" item

def isNumberOrNull (j : Json) : Bool :=
  match j with
  | .null => true
  | _ => j.isNumber

def rangeIssues (path : String) (item : Json) : List Issue :=
  needString path "field" item ++
    need item "min" Json.isNumber ⟨path ++ ".min", "Expected a number"⟩ ++
    need item "max" Json.isNumber ⟨path ++ ".max", "Expected a number"⟩ ++
    allow item "step" isNumberOrNull fun _ => ⟨path ++ ".step", "Expected a number"⟩

def isBool : Json → Bool
  | .bool _ => true
  | _ => false

def booleanIssues (path : String) (item : Json) : List Issue :=
  needString path "field" item ++
    need item "value" isBool ⟨path ++ ".value", "Expected true or false"⟩

def isScalar : Json → Bool
  | .null => false
  | .array _ => false
  | .object _ => false
  | _ => true

def customIssues (path : String) (item : Json) : List Issue :=
  let operators := Comparison.all.map Comparison.name
  needString path "field" item ++
    need item "operator" (isOneOf operators)
      ⟨path ++ ".operator", "Operator must be one of " ++ ", ".intercalate operators⟩ ++
    need item "value" isScalar
      ⟨path ++ ".value", "Expected a string, number, boolean or date"⟩

def listIssues (payload : Json) (list : String) (check : String → Json → List Issue) :
    List Issue :=
  match payload.get? list with
  | none => []
  | some .null => []
  | some (.array items) =>
      Filter.issuesIn list
        (fun path item =>
          match item with
          | .object members => check path (.object members)
          | _ => [⟨path, "Expected an object"⟩])
        items
  | some _ => [⟨list, "Expected a list"⟩]

def shapeIssues : Json → List Issue
  | .object members =>
      let payload := Json.object members
      contentTypeIssues payload ++ connectiveIssues payload ++
        listIssues payload "textFilters" textIssues ++
        listIssues payload "dateFilters" dateIssues ++
        listIssues payload "rangeFilters" rangeIssues ++
        listIssues payload "booleanFilters" booleanIssues ++
        listIssues payload "customFilters" customIssues
  | _ => [⟨"filter", "Filter must be a JSON object"⟩]

def rejected (errors : List Issue) : Report :=
  { errors, warnings := [], complexityHalves := 0 }

def validate (payload : Json) : Report :=
  match shapeIssues payload with
  | [] =>
      match Filter.decode .inOpen payload with
      | .ok filter => filter.validate
      | .error e => rejected [⟨"filter", e.message⟩]
  | issues => rejected issues

end ArchiveSearch.Payload

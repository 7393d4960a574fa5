import ArchiveSearch.Query.Parts

namespace ArchiveSearch

set_option autoImplicit false

inductive Condition where
  | leaf (parts : Parts)
  | join (connective : Connective) (children : List Condition)

namespace Condition

mutual
def constrains : Condition → Bool
  | .leaf parts => parts.constrains
  | .join _ children => anyConstrains children
def anyConstrains : List Condition → Bool
  | [] => false
  | child :: rest => child.constrains || anyConstrains rest
end

mutual
def query : Condition → Query
  | .leaf parts => parts.condition
  | .join connective children =>
      match constraining children with
      | [] => Query.everything
      | found =>
          { text := (" " ++ connective.name ++ " ").intercalate
              (found.map fun q => "(" ++ q.text ++ ")")
            params := found.flatMap Query.params }
def constraining : List Condition → List Query
  | [] => []
  | child :: rest =>
      if child.query.isAlwaysTrue then constraining rest else child.query :: constraining rest
end

end Condition

namespace FilterTree

mutual
/-- The condition of a tree and the category of its filters, given the category of the filters
that stand before it. -/
def conditionFrom (today : Date) (expected : Option ContentType) :
    FilterTree → Outcome (Condition × Option ContentType)
  | .leaf _ filter =>
      match expected with
      | some other =>
          if other = filter.contentType then
            (filter.parts today).map fun parts => (.leaf parts, some other)
          else
            .error (.incompatibleContentTypes other.name filter.contentType.name)
      | none => (filter.parts today).map fun parts => (.leaf parts, some filter.contentType)
  | .operator _ connective children =>
      match conditionsFrom today expected children with
      | .ok (found, contentType) => .ok (.join connective found, contentType)
      | .error e => .error e
  | .group _ children =>
      match conditionsFrom today expected children with
      | .ok (found, contentType) => .ok (.join .and found, contentType)
      | .error e => .error e
def conditionsFrom (today : Date) (expected : Option ContentType) :
    List FilterTree → Outcome (List Condition × Option ContentType)
  | [] => .ok ([], expected)
  | child :: rest =>
      match conditionFrom today expected child with
      | .error e => .error e
      | .ok (first, contentType) =>
          match conditionsFrom today contentType rest with
          | .error e => .error e
          | .ok (more, contentType) => .ok (first :: more, contentType)
end

def condition (today : Date) (tree : FilterTree) : Outcome (Condition × Option ContentType) :=
  tree.conditionFrom today none

def compileCondition (today : Date) (tree : FilterTree) : Outcome Query :=
  (tree.condition today).map fun found => found.1.query

def compile (today : Date) (tree : FilterTree) : Outcome Query :=
  (tree.condition today).map fun found =>
    let table := (found.2.getD .alumni).table
    let condition := found.1.query
    { text := "SELECT " ++ table ++ ".* FROM " ++ table ++ " WHERE " ++ condition.text
      params := condition.params }

end FilterTree

end ArchiveSearch

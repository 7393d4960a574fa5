import ArchiveSearch.Number.Binary64

/- JSON values.

   Whole numbers and fractional ones are different values: `3` and `3.0` are told apart. The members of
   an object stand in the order in which they are written; `arrange` gives an object its one arranged
   form, sorted by name, in which of several members of a name the last stays. -/
namespace ArchiveSearch

set_option autoImplicit false

inductive Json where
  | null
  | bool (b : Bool)
  | integer (n : Int)
  | real (x : Binary64)
  | string (s : String)
  | array (items : List Json)
  | object (members : List (String × Json))
  deriving Inhabited

namespace Json

def insertMember {α : Type} (name : String) (value : α) :
    List (String × α) → List (String × α)
  | [] => [(name, value)]
  | (other, old) :: rest =>
      if name = other then (name, value) :: rest
      else if name < other then (name, value) :: (other, old) :: rest
      else (other, old) :: insertMember name value rest

def sortMembers {α : Type} (members : List (String × α)) : List (String × α) :=
  members.foldl (fun sorted m => insertMember m.1 m.2 sorted) []

mutual
def arrange : Json → Json
  | .array items => .array (arrangeItems items)
  | .object members => .object (sortMembers (arrangeMembers members))
  | .null => .null
  | .bool b => .bool b
  | .integer n => .integer n
  | .real x => .real x
  | .string s => .string s
def arrangeItems : List Json → List Json
  | [] => []
  | item :: rest => arrange item :: arrangeItems rest
def arrangeMembers : List (String × Json) → List (String × Json)
  | [] => []
  | (name, value) :: rest => (name, arrange value) :: arrangeMembers rest
end

def get? (name : String) : Json → Option Json
  | .object members => (sortMembers members).lookup name
  | _ => none

def isNumber : Json → Bool
  | .integer _ => true
  | .real _ => true
  | _ => false

def ofBinary64 (x : Binary64) : Json :=
  if x.isFinite then .real x else .null

end Json

end ArchiveSearch

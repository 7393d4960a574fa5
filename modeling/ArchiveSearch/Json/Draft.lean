import ArchiveSearch.Json.Token

/- Drafts: what a JSON text says, as far as it can be read.

   A draft keeps members in the order of the text, with repetitions, and marks the place where reading
   broke off. A reader that knows what it wants can so report the first fault of the text, be it in the
   writing or in the values. `value?` is the reader that wants any JSON value at all. -/
namespace ArchiveSearch.Json

set_option autoImplicit false

inductive Draft where
  | scalar (value : Option Json)
  | string (text : Option String)
  | array (items : List Draft)
  | object (members : List (Option String × Draft))
  | broken
  deriving Inhabited

inductive Frame where
  | array (items : List Draft)
  | object (members : List (Option String × Draft))
  | member (members : List (Option String × Draft)) (name : Option String)

inductive Phase where
  | value
  | valueOrClose
  | next
  | nameOrClose
  | name
  | colon

def closeAll (inner : Draft) : List Frame → Draft
  | [] => inner
  | .array items :: outer => closeAll (.array (inner :: items).reverse) outer
  | .object members :: outer => closeAll (.object ((none, inner) :: members).reverse) outer
  | .member members name :: outer => closeAll (.object ((name, inner) :: members).reverse) outer

def put (inner : Draft) : List Frame → List Frame
  | [] => []
  | .array items :: outer => .array (inner :: items) :: outer
  | .object members :: outer => .object ((none, inner) :: members) :: outer
  | .member members name :: outer => .object ((name, inner) :: members) :: outer

def assemble : Phase → List Frame → List Token → Draft × List Token
  | _, frames, [] => (closeAll .broken frames, [])
  | phase, frames, token :: rest =>
      let finish (inner : Draft) (outer : List Frame) : Draft × List Token :=
        match outer with
        | [] => (inner, rest)
        | _ => assemble .next (put inner outer) rest
      let stop : Draft × List Token := (closeAll .broken frames, [])
      match phase, token, frames with
      | .value, .scalar v, _ => finish (.scalar v) frames
      | .value, .string s, _ => finish (.string s) frames
      | .value, .openArray, _ => assemble .valueOrClose (.array [] :: frames) rest
      | .value, .openObject, _ => assemble .nameOrClose (.object [] :: frames) rest
      | .valueOrClose, .scalar v, _ => finish (.scalar v) frames
      | .valueOrClose, .string s, _ => finish (.string s) frames
      | .valueOrClose, .openArray, _ => assemble .valueOrClose (.array [] :: frames) rest
      | .valueOrClose, .openObject, _ => assemble .nameOrClose (.object [] :: frames) rest
      | .valueOrClose, .closeArray, .array items :: outer => finish (.array items.reverse) outer
      | .next, .comma, .array items :: outer => assemble .value (.array items :: outer) rest
      | .next, .closeArray, .array items :: outer => finish (.array items.reverse) outer
      | .next, .comma, .object members :: outer => assemble .name (.object members :: outer) rest
      | .next, .closeObject, .object members :: outer => finish (.object members.reverse) outer
      | .nameOrClose, .closeObject, .object members :: outer =>
          finish (.object members.reverse) outer
      | .nameOrClose, .string s, .object members :: outer =>
          assemble .colon (.member members s :: outer) rest
      | .name, .string s, .object members :: outer =>
          assemble .colon (.member members s :: outer) rest
      | .colon, .colon, _ => assemble .value frames rest
      | _, _, _ => stop

def Draft.ofText (text : String) : Draft × Bool :=
  let (draft, rest) := assemble .value [] (tokens text.toList)
  (draft, !rest.isEmpty)

mutual
def Draft.isBroken : Draft → Bool
  | .broken => true
  | .array items => anyBroken items
  | .object members => anyMemberBroken members
  | .scalar _ => false
  | .string _ => false
def anyBroken : List Draft → Bool
  | [] => false
  | item :: rest => item.isBroken || anyBroken rest
def anyMemberBroken : List (Option String × Draft) → Bool
  | [] => false
  | (_, value) :: rest => value.isBroken || anyMemberBroken rest
end

mutual
def Draft.value? (depth : Nat) : Draft → Option Json
  | .scalar value => value
  | .string text => text.map .string
  | .array items => if depth ≤ 1 then none else (values? (depth - 1) items).map .array
  | .object members =>
      if depth ≤ 1 then none
      else (memberValues? (depth - 1) members).map fun ms => .object (sortMembers ms)
  | .broken => none
def values? (depth : Nat) : List Draft → Option (List Json)
  | [] => some []
  | item :: rest =>
      match item.value? depth, values? depth rest with
      | some value, some more => some (value :: more)
      | _, _ => none
def memberValues? (depth : Nat) :
    List (Option String × Draft) → Option (List (String × Json))
  | [] => some []
  | (name, value) :: rest =>
      match name, value.value? depth, memberValues? depth rest with
      | some name, some value, some more => some ((name, value) :: more)
      | _, _, _ => none
end

mutual
def Draft.ofValue : Json → Draft
  | .array items => .array (ofValues items)
  | .object members => .object (ofMembers members)
  | .string s => .string (some s)
  | .null => .scalar (some .null)
  | .bool b => .scalar (some (.bool b))
  | .integer n => .scalar (some (.integer n))
  | .real x => .scalar (some (.real x))
def ofValues : List Json → List Draft
  | [] => []
  | item :: rest => Draft.ofValue item :: ofValues rest
def ofMembers : List (String × Json) → List (Option String × Draft)
  | [] => []
  | (name, value) :: rest => (some name, Draft.ofValue value) :: ofMembers rest
end

def depthLimit : Nat := 128

def read? (text : String) : Option Json :=
  match Draft.ofText text with
  | (draft, false) => draft.value? depthLimit
  | (_, true) => none

end ArchiveSearch.Json

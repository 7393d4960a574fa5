import ArchiveSearch.Json.Basic
import ArchiveSearch.Number.Decimal
import ArchiveSearch.Text.Quoted
import ArchiveSearch.Calendar.DateReader

/- Decoding JSON values into typed ones.

   A record is given by its members or by the list of its values in the order of declaration. Members
   are visited in the order of their names, and the first value that does not decode is the fault that
   is reported; only then does a missing member count. Unknown members are passed over. -/
namespace ArchiveSearch

set_option autoImplicit false

inductive Found where
  | null
  | boolean (b : Bool)
  | integer (n : Int)
  | real (x : Binary64)
  | string (s : String)
  | sequence
  | map

def Json.found : Json → Found
  | .null => .null
  | .bool b => .boolean b
  | .integer n => .integer n
  | .real x => .real x
  | .string s => .string s
  | .array _ => .sequence
  | .object _ => .map

def Found.message : Found → String
  | .null => "null"
  | .boolean b => "boolean `" ++ (if b then "true" else "false") ++ "`"
  | .integer n => "integer `" ++ n.repr ++ "`"
  | .real x => "floating point `" ++ x.render Binary64.dataStyle ++ "`"
  | .string s => "string " ++ Text.quoted s
  | .sequence => "sequence"
  | .map => "map"

inductive DecodeError where
  | invalidType (found : Found) (wanted : String)
  | invalidValue (found : Found) (wanted : String)
  | invalidLength (length : Nat) (wanted : String)
  | missingField (name : String)
  | duplicateField (name : String)
  | unknownVariant (name : String) (known : List String)
  | noVariant (type : String)
  | date (fault : DateFault)

def oneOf : List String → String
  | [] => "there are no variants"
  | [a] => "expected `" ++ a ++ "`"
  | [a, b] => "expected `" ++ a ++ "` or `" ++ b ++ "`"
  | names => "expected one of " ++ ", ".intercalate (names.map fun name => "`" ++ name ++ "`")

def DecodeError.message : DecodeError → String
  | .invalidType found wanted => "invalid type: " ++ found.message ++ ", expected " ++ wanted
  | .invalidValue found wanted => "invalid value: " ++ found.message ++ ", expected " ++ wanted
  | .invalidLength length wanted => "invalid length " ++ length.repr ++ ", expected " ++ wanted
  | .missingField name => "missing field `" ++ name ++ "`"
  | .duplicateField name => "duplicate field `" ++ name ++ "`"
  | .unknownVariant name known => "unknown variant `" ++ name ++ "`, " ++ oneOf known
  | .noVariant type => "data did not match any variant of untagged enum " ++ type
  | .date fault => fault.message

abbrev Decoded (α : Type) := Except DecodeError α

inductive Place where
  | inOpen
  | inTagged
  deriving DecidableEq

namespace Decode

def mismatch {α : Type} (j : Json) (wanted : String) : Decoded α :=
  .error (.invalidType j.found wanted)

def string : Json → Decoded String
  | .string s => .ok s
  | j => mismatch j "a string"

def bool : Json → Decoded Bool
  | .bool b => .ok b
  | j => mismatch j "a boolean"

def real : Json → Decoded Binary64
  | .real x => .ok x
  | .integer n => .ok (Binary64.ofInt n)
  | j => mismatch j "f64"

def natural (bound : Nat) (wanted : String) : Json → Decoded Nat
  | .integer n =>
      if 0 ≤ n ∧ n < bound then .ok n.toNat else .error (.invalidValue (.integer n) wanted)
  | j => mismatch j wanted

def word32 : Json → Decoded Nat :=
  natural Bound.word32 "u32"

def word64 : Json → Decoded Nat :=
  natural Bound.word64 "u64"

def size : Json → Decoded Nat :=
  natural Bound.word64 "usize"

def int64 : Json → Decoded Int64
  | .integer n =>
      if -(Bound.int64 : Int) ≤ n ∧ n < Bound.int64 then .ok (Int64.ofInt n)
      else .error (.invalidValue (.integer n) "i64")
  | j => mismatch j "i64"

def date : Json → Decoded Date
  | .string s =>
      match DateReader.loose s with
      | .ok d => .ok d
      | .error fault => .error (.date fault)
  | j => mismatch j "a formatted date string"

def optional {α : Type} (decode : Json → Decoded α) : Json → Decoded (Option α)
  | .null => .ok none
  | j => (decode j).map some

def list {α : Type} (decode : Json → Decoded α) : Json → Decoded (List α)
  | .array items => items.mapM decode
  | j => mismatch j "a sequence"

def variant {α : Type} (place : Place) (all : List α) (name : α → String) :
    Json → Decoded α
  | .string s => byName s
  | .object [(s, inner)] => do
      let value ← byName s
      match inner, place with
      | .null, _ => return value
      | .object [], .inTagged => return value
      | _, _ => mismatch inner "unit"
  | .object _ => .error (.invalidValue .map "map with a single key")
  | j => mismatch j "string or map"
where
  byName (s : String) : Decoded α :=
    match all.find? (fun value => name value == s) with
    | some value => .ok value
    | none => .error (.unknownVariant s (all.map name))

end Decode

structure Record where
  kind : String
  fields : List String
  given : List (String × Json)
  length : Option Nat
  place : Place

structure Field (α : Type) where
  name : String
  outcome : Option (Decoded α)

namespace Record

def ofValue (place : Place) (kind : String) (fields : List String) : Json → Decoded Record
  | .object members =>
      .ok { kind, fields, given := Json.sortMembers members, length := none, place }
  | .array items =>
      .ok { kind, fields, given := fields.zip items, length := some items.length, place }
  | j => Decode.mismatch j kind

def field {α : Type} (r : Record) (name : String) (decode : Json → Decoded α) : Field α :=
  { name, outcome := (r.given.lookup name).map decode }

def excess (r : Record) : Option DecodeError :=
  match r.length with
  | none => none
  | some length =>
      let count := r.fields.length
      if length ≤ count then none
      else
        match r.place with
        | .inOpen => some (.invalidLength length "fewer elements in array")
        | .inTagged =>
            let noun := if count = 1 then " element in sequence" else " elements in sequence"
            some (.invalidLength length (count.repr ++ noun))

def settle (r : Record) (faults : List (String × Option DecodeError)) : Decoded Unit :=
  match r.given.findSome? fun member => (faults.lookup member.1).join with
  | some fault => .error fault
  | none =>
      match r.excess with
      | some fault => .error fault
      | none => .ok ()

end Record

namespace Field

variable {α : Type}

def fault (f : Field α) : String × Option DecodeError :=
  (f.name,
    match f.outcome with
    | some (.error e) => some e
    | _ => none)

def required (f : Field α) (r : Record) : Decoded α :=
  match f.outcome with
  | some decoded => decoded
  | none =>
      match r.length with
      | none => .error (.missingField f.name)
      | some _ =>
          let count := r.fields.length
          let noun := if count = 1 then " element" else " elements"
          .error (.invalidLength (r.fields.idxOf f.name)
            (r.kind ++ " with " ++ count.repr ++ noun))

def getD (f : Field α) (default : α) : Decoded α :=
  f.outcome.getD (.ok default)

end Field

end ArchiveSearch

import ArchiveSearch.Json.Basic
import ArchiveSearch.Number.Decimal
import ArchiveSearch.Text.Quoted

namespace ArchiveSearch.Json

set_option autoImplicit false

/-- Quotes, backslashes and the controls below the space are written as escapes; all else is
written as it is. -/
def escapedChar (c : Char) : List Char :=
  if c == '"' then ['\\', '"']
  else if c == '\\' then ['\\', '\\']
  else if c == '\n' then ['\\', 'n']
  else if c == '\r' then ['\\', 'r']
  else if c == '\t' then ['\\', 't']
  else if c == '\x08' then ['\\', 'b']
  else if c == '\x0c' then ['\\', 'f']
  else if c.toNat < 0x10 then ['\\', 'u', '0', '0', '0'] ++ Text.hexDigits c.toNat
  else if c.toNat < 0x20 then ['\\', 'u', '0', '0'] ++ Text.hexDigits c.toNat
  else [c]

def stringChars (s : String) : List Char :=
  '"' :: s.toList.flatMap escapedChar ++ ['"']

def scalarChars : Json → List Char
  | .null => "null".toList
  | .bool b => if b then "true".toList else "false".toList
  | .integer n => n.repr.toList
  | .real x => (x.render Binary64.dataStyle).toList
  | .string s => stringChars s
  | .array _ => []
  | .object _ => []

mutual
def compactChars : Json → List Char
  | .array items => '[' :: compactItems items
  | .object members => '\x7b' :: compactMembers members
  | .null => scalarChars .null
  | .bool b => scalarChars (.bool b)
  | .integer n => scalarChars (.integer n)
  | .real x => scalarChars (.real x)
  | .string s => scalarChars (.string s)
def compactItems : List Json → List Char
  | [] => [']']
  | [item] => compactChars item ++ [']']
  | item :: next :: rest => compactChars item ++ ',' :: compactItems (next :: rest)
def compactMembers : List (String × Json) → List Char
  | [] => ['\x7d']
  | [(name, value)] => stringChars name ++ ':' :: compactChars value ++ ['\x7d']
  | (name, value) :: next :: rest =>
      stringChars name ++ ':' :: compactChars value ++ ',' :: compactMembers (next :: rest)
end

def compact (j : Json) : String :=
  String.ofList j.compactChars

def canonical (j : Json) : String :=
  j.arrange.compact

def newLine (depth : Nat) : List Char :=
  '\n' :: List.replicate (2 * depth) ' '

mutual
def prettyChars (depth : Nat) : Json → List Char
  | .array [] => ['[', ']']
  | .array (item :: rest) => '[' :: prettyItems (depth + 1) (item :: rest)
  | .object [] => ['\x7b', '\x7d']
  | .object (member :: rest) => '\x7b' :: prettyMembers (depth + 1) (member :: rest)
  | .null => scalarChars .null
  | .bool b => scalarChars (.bool b)
  | .integer n => scalarChars (.integer n)
  | .real x => scalarChars (.real x)
  | .string s => scalarChars (.string s)
def prettyItems (depth : Nat) : List Json → List Char
  | [] => [']']
  | [item] => newLine depth ++ prettyChars depth item ++ newLine (depth - 1) ++ [']']
  | item :: next :: rest =>
      newLine depth ++ prettyChars depth item ++ ',' :: prettyItems depth (next :: rest)
def prettyMembers (depth : Nat) : List (String × Json) → List Char
  | [] => ['\x7d']
  | [(name, value)] =>
      newLine depth ++ stringChars name ++ [':', ' '] ++ prettyChars depth value ++
        newLine (depth - 1) ++ ['\x7d']
  | (name, value) :: next :: rest =>
      newLine depth ++ stringChars name ++ [':', ' '] ++ prettyChars depth value ++
        ',' :: prettyMembers depth (next :: rest)
end

def pretty (j : Json) : String :=
  String.ofList (j.prettyChars 0)

end ArchiveSearch.Json

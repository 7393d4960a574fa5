import ArchiveSearch.Text.EscapeTable
import ArchiveSearch.Text.Word

namespace ArchiveSearch.Text

set_option autoImplicit false

def hexDigits (n : Nat) : List Char :=
  Nat.toDigits 16 n

def isUnseen (c : Char) : Bool :=
  c != ' ' && inRanges escapedRanges c.toNat

def quotedChar (c : Char) : List Char :=
  if c == '\x00' then ['\\', '0']
  else if c == '\t' then ['\\', 't']
  else if c == '\n' then ['\\', 'n']
  else if c == '\r' then ['\\', 'r']
  else if c == '"' then ['\\', '"']
  else if c == '\\' then ['\\', '\\']
  else if isUnseen c then ['\\', 'u', '\x7b'] ++ hexDigits c.toNat ++ ['\x7d']
  else [c]

def quoted (s : String) : String :=
  String.ofList ('"' :: s.toList.flatMap quotedChar ++ ['"'])

end ArchiveSearch.Text

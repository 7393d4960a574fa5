import ArchiveSearch.Filter.Basic
import ArchiveSearch.Text.Blank
import ArchiveSearch.Text.Case

namespace ArchiveSearch.FullText

set_option autoImplicit false

def isSpecial (c : Char) : Bool :=
  ['-', '.', '_', '"', ':', '*', '(', ')', '^', '+'].contains c || Text.isBlank c

def doubleQuotes (cs : List Char) : List Char :=
  cs.flatMap fun c => if c == '"' then ['"', '"'] else [c]

def escapeChars (cs : List Char) : List Char :=
  if cs.any isSpecial then '"' :: doubleQuotes cs ++ ['"'] else cs

def escape (term : String) : String :=
  String.ofList (escapeChars term.toList)

/-- The term of a column; there is none for blank text, nor for an exact match, which is no matter
of the index. -/
def term? (column value : String) (matching : TextMatch) : Option String :=
  let value := Text.lower (Text.trim value)
  if value.isEmpty then none
  else
    let word := escape value
    match matching with
    | .equals => none
    | .startsWith => some (column ++ ":" ++ word ++ "*")
    | .contains => some (column ++ ":*" ++ word ++ "*")
    | .endsWith => some (column ++ ":*" ++ word)

def join? (connective : Connective) : List String → Option String
  | [] => none
  | terms => some ((" " ++ connective.name ++ " ").intercalate terms)

end ArchiveSearch.FullText

/- Column names.

   A field is named in camel case and its column in snake case. Only a plain ASCII identifier has a
   column, so a column name never carries anything but letters, digits and underscores into a query. -/
namespace ArchiveSearch.Column

set_option autoImplicit false

def isLowerOrDigit (c : Char) : Bool :=
  ('a' ≤ c && c ≤ 'z') || ('0' ≤ c && c ≤ '9')

def isUpper (c : Char) : Bool :=
  'A' ≤ c && c ≤ 'Z'

def startsName (c : Char) : Bool :=
  isUpper c || ('a' ≤ c && c ≤ 'z') || c == '_'

def continuesName (c : Char) : Bool :=
  isUpper c || isLowerOrDigit c || c == '_'

def isIdentifier : List Char → Bool
  | [] => false
  | first :: rest => startsName first && rest.all continuesName

def snakeFrom : Option Char → List Char → List Char
  | _, [] => []
  | before, c :: rest =>
      if isUpper c then
        if before.any isLowerOrDigit then '_' :: c.toLower :: snakeFrom (some c) rest
        else c.toLower :: snakeFrom (some c) rest
      else c :: snakeFrom (some c) rest

def ofField? (field : String) : Option String :=
  if isIdentifier field.toList then some (String.ofList (snakeFrom none field.toList)) else none

end ArchiveSearch.Column

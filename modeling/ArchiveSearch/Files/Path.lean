import ArchiveSearch.Text.Cursor

namespace ArchiveSearch.Path

set_option autoImplicit false

def piecesFrom : List Char → List Char → List (List Char)
  | name, [] => [name.reverse]
  | name, c :: rest =>
      if c = '/' then name.reverse :: piecesFrom [] rest else piecesFrom (c :: name) rest

def pieces (path : String) : List String :=
  (piecesFrom [] path.toList).map String.ofList

def isIdle (piece : String) : Bool :=
  piece == "" || piece == "."

def names (path : String) : List String :=
  (pieces path).filter fun piece => !isIdle piece

def isAbsolute (path : String) : Bool :=
  path.toList.head? == some '/'

def meansDirectory (path : String) : Bool :=
  ((pieces path).getLast?.map isIdle).getD false

def trimEnd (pieces : List String) : List String :=
  match pieces with
  | [] => []
  | first :: rest => first :: (rest.reverse.dropWhile isIdle).reverse

def join : List String → String
  | [""] => "/"
  | pieces => "/".intercalate pieces

def parent? (path : String) : Option String :=
  match trimEnd (pieces path) with
  | [] => none
  | [""] => none
  | trimmed => some (join (trimEnd trimmed.dropLast))

end ArchiveSearch.Path

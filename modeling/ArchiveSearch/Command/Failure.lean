import ArchiveSearch.SearchError

namespace ArchiveSearch

set_option autoImplicit false

inductive Background where
  | plain
  | value
  | writing
  deriving DecidableEq

structure Failure where
  message : String
  causes : List String := []
  background : Background := .plain

namespace Failure

def ofError (e : SearchError) : Failure :=
  { message := e.message, causes := e.causes }

def because (message : String) (e : SearchError) : Failure :=
  { message, causes := e.message :: e.causes }

def ofText (message : String) (e : SearchError) : Failure :=
  let background := match e with
    | .json _ => Background.value
    | .malformedJson => Background.writing
    | _ => Background.plain
  { because message e with background }

def setIn (head tail text : String) : String :=
  head ++ ("\n" ++ tail).intercalate (text.splitOn "\n")

def causeLines : List String → List String
  | [cause] => [setIn "    " "    " cause]
  | causes => causes.zipIdx.map fun x => setIn ("    " ++ x.2.repr ++ ": ") "       " x.1

def report (f : Failure) : String :=
  "Error: " ++ f.message ++
    (if f.background = .plain ∧ f.causes ≠ [] then
      "\n\nCaused by:\n" ++ "\n".intercalate (causeLines f.causes)
    else "")

def summary (f : Failure) : String :=
  ": ".intercalate
    (f.message :: if f.background = .writing then ["syntax"] else f.causes)

end Failure

end ArchiveSearch

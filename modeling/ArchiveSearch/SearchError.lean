import ArchiveSearch.Json.Decode

namespace ArchiveSearch

set_option autoImplicit false

inductive SearchError where
  | incompatibleContentTypes (expected found : String)
  | invalidField (field : String)
  | statementNotFound (id : String)
  | execution (message : String)
  | database (message : String) (causes : List String)
  | json (message : String)
  | malformedJson
  | io (path : Option String) (message : String) (causes : List String)
  | config (message : String)
  | other (message : String)
  | windowOutOfRange
  deriving DecidableEq

namespace SearchError

def ofDecode (e : DecodeError) : SearchError :=
  .json e.message

def message : SearchError → String
  | .incompatibleContentTypes expected found =>
      "Cannot combine " ++ found ++ " filters with " ++ expected ++ " filters in one query"
  | .invalidField field => "Invalid field name: " ++ Text.quoted field
  | .statementNotFound id => "Prepared statement not found: " ++ id
  | .execution message => "Query execution failed: " ++ message
  | .database message _ => "Database error: " ++ message
  | .json message => "JSON error: " ++ message
  | .malformedJson => "JSON error: not JSON"
  | .io none message _ => "IO error at None: " ++ message
  | .io (some path) message _ => "IO error at Some(" ++ Text.quoted path ++ "): " ++ message
  | .config message => "Configuration error: " ++ message
  | .other message => message
  | .windowOutOfRange => "Date window opens before the first day of the calendar"

def causes : SearchError → List String
  | .database _ causes => causes
  | .json message => [message]
  | .malformedJson => ["not JSON"]
  | .io _ _ causes => causes
  | _ => []

def isCompileError : SearchError → Bool
  | .incompatibleContentTypes _ _ => true
  | .invalidField _ => true
  | _ => false

end SearchError

abbrev Outcome (α : Type) := Except SearchError α

def liftDecoded {α : Type} : Decoded α → Outcome α
  | .ok a => .ok a
  | .error e => .error (.ofDecode e)

end ArchiveSearch

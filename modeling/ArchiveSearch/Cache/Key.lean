import ArchiveSearch.Digest.Blake3
import ArchiveSearch.Json.Printer

namespace ArchiveSearch.Cache

set_option autoImplicit false

def keyOf (namespace_ : String) (parts : List Json) : String :=
  let text := (Json.array parts).canonical
  namespace_ ++ ":" ++
    String.ofList ((Digest.hexChars (Digest.Blake3.digest (Digest.ofText text))).take 16)

def keyOfValue (namespace_ : String) (part : Json) : String :=
  keyOf namespace_ [part]

end ArchiveSearch.Cache

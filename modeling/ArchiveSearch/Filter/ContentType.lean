import ArchiveSearch.Text.Case

namespace ArchiveSearch

set_option autoImplicit false

inductive ContentType where
  | alumni
  | publications
  | photos
  | faculty
  deriving DecidableEq, Inhabited

namespace ContentType

def all : List ContentType :=
  [.alumni, .publications, .photos, .faculty]

def name : ContentType → String
  | .alumni => "alumni"
  | .publications => "publications"
  | .photos => "photos"
  | .faculty => "faculty"

def table (c : ContentType) : String :=
  c.name

def fullTextTable (c : ContentType) : String :=
  c.table ++ "_fts"

def ofName? (s : String) : Option ContentType :=
  let lowered := Text.lower s
  all.find? fun c => c.name == lowered

end ContentType

end ArchiveSearch

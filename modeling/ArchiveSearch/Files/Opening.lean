import ArchiveSearch.Files.Tree
import ArchiveSearch.SearchError

namespace ArchiveSearch.Files

set_option autoImplicit false

def cannotOpenCauses (path : String) : List String :=
  ["unable to open database file: " ++ path, "Error code 14: Unable to open the database file"]

def notDatabaseCauses : List String :=
  ["file is not a database", "Error code 26: File opened that is not a database file"]

def openError (intro : String) (causes : List String) : SearchError :=
  .database (intro ++ causes.headD "") causes

def searchFault (path : String) : OpenFault → SearchError
  | .cannotOpen => openError ("Failed to open database " ++ path ++ ": ") (cannotOpenCauses path)
  | .notDatabase => openError "" notDatabaseCauses

def storeFault (path : String) : OpenFault → SearchError
  | .cannotOpen => openError "Failed to open store database: " (cannotOpenCauses path)
  | .notDatabase => openError "Failed to set pragmas: " notDatabaseCauses

def directoryFault (intro parent : String) (fault : FileFault) : SearchError :=
  .io (some parent) (intro ++ fault.message) [fault.message]

def openIn (f : Files) (path : String) (explain : OpenFault → SearchError) :
    Outcome Database × Files :=
  match f.database path with
  | .error fault => (.error (explain fault), f)
  | .ok d => (.ok d, f.keep path d)

def directoryOf (path : String) : Option String :=
  (Path.parent? path).filter fun parent => parent != ""

def openForSearch (f : Files) (path : String) : Outcome Database × Files :=
  match (directoryOf path).filter fun parent => (f.at? parent).isNone with
  | none => f.openIn path (searchFault path)
  | some parent =>
      match f.makeDirectories parent with
      | .error fault => (.error (directoryFault "" parent fault), f)
      | .ok f => f.openIn path (searchFault path)

def openForRecords (f : Files) (path : String) : Outcome Database × Files :=
  match directoryOf path with
  | none => f.openIn path (storeFault path)
  | some parent =>
      match f.makeDirectories parent with
      | .error fault =>
          (.error (directoryFault "Failed to create store directory: " parent fault), f)
      | .ok f => f.openIn path (storeFault path)

end ArchiveSearch.Files

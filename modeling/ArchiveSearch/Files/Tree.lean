import ArchiveSearch.Files.Path
import ArchiveSearch.Search.Database

/- Files and directories, and the databases among the files.

   A place is given by the names on the way to it. What is looked for has to lie in directories that are
   all there; only the last name may be missing. -/
namespace ArchiveSearch

set_option autoImplicit false

inductive FileNode where
  | directory
  | text (content : String)
  | database (d : Database)

inductive FileFault where
  | missing
  | notDirectory
  | isDirectory
  | exists_
  | notText
  deriving DecidableEq

def FileFault.message : FileFault → String
  | .missing => "No such file or directory (os error 2)"
  | .notDirectory => "Not a directory (os error 20)"
  | .isDirectory => "Is a directory (os error 21)"
  | .exists_ => "File exists (os error 17)"
  | .notText => "stream did not contain valid UTF-8"

inductive OpenFault where
  | cannotOpen
  | notDatabase
  deriving DecidableEq

abbrev Files := List (List String × FileNode)

namespace Files

def root : List String :=
  ["/"]

def node? (f : Files) (place : List String) : Option FileNode :=
  if place = [] ∨ place = root then some .directory else f.lookup place

def put (f : Files) (place : List String) (node : FileNode) : Files :=
  f.filter (fun x => x.1 != place) ++ [(place, node)]

def walk (f : Files) : List String → List String → Except FileFault (List String)
  | here, [] => .ok here
  | here, name :: rest =>
      match f.node? here with
      | none => .error .missing
      | some .directory => walk f (if name = ".." then here.dropLast else here ++ [name]) rest
      | some _ => .error .notDirectory

def follow (f : Files) (path : String) : Except FileFault (List String) :=
  f.walk (if Path.isAbsolute path then root else []) (Path.names path)

def locate (f : Files) (path : String) : Except FileFault (List String) :=
  if path = "" then .error .missing
  else
    match f.follow path with
    | .error fault => .error fault
    | .ok place =>
        if Path.meansDirectory path then
          match f.node? place with
          | some (.text _) => .error .notDirectory
          | some (.database _) => .error .notDirectory
          | _ => .ok place
        else .ok place

def at? (f : Files) (path : String) : Option FileNode :=
  match f.locate path with
  | .ok place => f.node? place
  | .error _ => none

def isDirectory (f : Files) (path : String) : Bool :=
  match f.at? path with
  | some .directory => true
  | _ => false

def isFile (f : Files) (path : String) : Bool :=
  match f.at? path with
  | some .directory => false
  | some _ => true
  | none => false

def readText (f : Files) (path : String) : Except FileFault String :=
  match f.locate path with
  | .error fault => .error fault
  | .ok place =>
      match f.node? place with
      | none => .error .missing
      | some .directory => .error .isDirectory
      | some (.text content) => .ok content
      | some (.database _) => .error .notText

def makeDirectory (f : Files) (path : String) : Except FileFault Files :=
  match f.locate path with
  | .error fault => .error fault
  | .ok place => if (f.node? place).isSome then .error .exists_ else .ok (f.put place .directory)

def orExisting (f : Files) (path : String) : Except FileFault Files → Except FileFault Files
  | .ok f => .ok f
  | .error fault => if f.isDirectory path then .ok f else .error fault

def makeDirectoriesFrom : Nat → Files → String → Except FileFault Files
  | 0, f, path => f.orExisting path (f.makeDirectory path)
  | depth + 1, f, path =>
      match f.makeDirectory path with
      | .error .missing =>
          match Path.parent? path with
          | none => .error .missing
          | some parent => do
              let f ← if parent = "" then .ok f else makeDirectoriesFrom depth f parent
              f.orExisting path (f.makeDirectory path)
      | answer => f.orExisting path answer

def makeDirectories (f : Files) (path : String) : Except FileFault Files :=
  makeDirectoriesFrom (Path.pieces path).length f path

def isUnfiled (path : String) : Bool :=
  path = "" || path = ":memory:"

def database (f : Files) (path : String) : Except OpenFault Database :=
  if isUnfiled path then .ok {}
  else
    match f.follow path with
    | .error _ => .error .cannotOpen
    | .ok place =>
        match f.node? place with
        | none => .ok {}
        | some .directory => .error .cannotOpen
        | some (.text content) => if content = "" then .ok {} else .error .notDatabase
        | some (.database d) => .ok d

def keep (f : Files) (path : String) (d : Database) : Files :=
  if isUnfiled path then f
  else
    match f.follow path with
    | .error _ => f
    | .ok place => f.put place (.database d)

def ancestors : List String → List (List String)
  | [] => []
  | [_] => []
  | name :: rest => [name] :: (ancestors rest).map (name :: ·)

def ofList (contents : List (String × FileNode)) : Files :=
  contents.foldl (fun f x =>
    let place := Path.names x.1
    let f := (ancestors place).foldl (fun f above => f.put above .directory) f
    f.put place x.2) []

def pathsEndingIn (f : Files) (ending : String) : List String :=
  let paths := f.filterMap fun x =>
    match x.2 with
    | .directory => none
    | _ => some ("/".intercalate x.1)
  (paths.filter fun path => ending.toList.isSuffixOf path.toList).mergeSort fun a b => a ≤ b

end Files

end ArchiveSearch

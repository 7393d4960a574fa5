import ArchiveSearch.Command.Arguments
import ArchiveSearch.Files.DatabaseText

namespace ArchiveSearch.Shell

set_option autoImplicit false

def pathOf : List String → String
  | "/" :: names => "/" ++ "/".intercalate names
  | names => "/".intercalate names

def placesAlong : List String → List String → List (List String)
  | _, [] => []
  | here, name :: rest =>
      let next := if name = ".." then here.dropLast else here ++ [name]
      next :: placesAlong next rest

def pathsOf (around : Circumstances) : Request → List String
  | .validate filter => [filter]
  | .compile filter _ _ => [filter]
  | .explain filter database _ => [filter, database]
  | .search filter database _ => [filter, database]
  | .indexes filter => [filter]
  | .suggest _ history _ => [history.getD around.historyPath]
  | .record _ _ history => [history.getD around.historyPath]

def nodeAt (place : List String) : IO (Option FileNode) := do
  let path := (← IO.currentDir) / pathOf place
  if ← path.isDir then return some .directory
  else if ← path.pathExists then
    return some (.ofText ((String.fromUTF8? (← IO.FS.readBinFile path)).getD "\uFFFD"))
  else return none

def load (paths : List String) : IO Files := do
  let mut files : Files := []
  for path in paths do
    let start := if Path.isAbsolute path then Files.root else []
    for place in placesAlong start (Path.names path) do
      if let some node ← nodeAt place then
        files := files.put place node
  return files

def isKeptAs : FileNode → Option FileNode → Bool
  | .directory, some .directory => true
  | .text s, some (.text t) => s == t
  | .database d, some (.database e) => d.text == e.text
  | _, _ => false

def save (before after : Files) : IO Unit := do
  for (place, node) in after do
    let path := (← IO.currentDir) / pathOf place
    if !isKeptAs node (before.node? place) then
      match node with
      | .directory => IO.FS.createDirAll path
      | .text content => IO.FS.writeFile path content
      | .database d => IO.FS.writeFile path d.text

def now : IO Nat := do
  let (_, path) ← IO.FS.createTempFile
  let time := (← path.metadata).modified
  IO.FS.removeFile path
  return (time.sec * 1000).toNat + time.nsec.toNat / 1000000

def circumstances : IO Circumstances := do
  let now ← now
  let data ← match ← IO.getEnv "XDG_DATA_HOME", ← IO.getEnv "HOME" with
    | some directory, _ => pure directory
    | none, some home => pure (home ++ "/.local/share")
    | none, none => pure "."
  return { now, today := (Instant.ofClock now).date, historyPath := historyPathIn data }

def usage : String :=
  "validate FILTER | compile FILTER [--tree] [--optimize] | explain FILTER --db DB [--tree] | " ++
    "search FILTER --db DB [--tree] | indexes FILTER | " ++
    "suggest INPUT [--history-db DB] [--content-type TYPE] | " ++
    "record QUERY --results N [--history-db DB]\n" ++
    "Everywhere: [--debug] [--config FILE]"

def run (arguments : List String) : IO Exit := do
  let around ← circumstances
  let paths := match Arguments.read arguments with
    | .ok (config, request) => config.toList ++ pathsOf around request
    | .error _ => []
  let before ← load paths
  let (exit, after) := runProgram around before arguments
  save before after
  return exit

end ArchiveSearch.Shell

def main (arguments : List String) : IO UInt32 := do
  let exit ← ArchiveSearch.Shell.run arguments
  match exit with
  | .help => IO.println ArchiveSearch.Shell.usage
  | .misuse message => IO.eprintln (message.getD ArchiveSearch.Shell.usage)
  | .failed failure => IO.eprintln failure.report
  | .printed result => IO.println result.pretty
  return exit.code.toUInt32

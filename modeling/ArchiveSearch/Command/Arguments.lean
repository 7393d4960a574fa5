import ArchiveSearch.Command.Request

/- Arguments of the program, and the request that they make.

   Options stand anywhere, with their values after them or after an equals sign; what follows two dashes
   is never an option. An option is checked when the next thing is read, so the first fault in the order
   of the arguments is the one that is reported. Options of the whole program may be given once before
   the name of the command and once after it, and the later one counts. -/
namespace ArchiveSearch

set_option autoImplicit false

namespace Arguments

inductive ValueKind where
  | path
  | text
  | count
  | contentType
  deriving DecidableEq

structure Shape where
  operand : Option ValueKind := none
  options : List (String × ValueKind) := []
  flags : List String := []

inductive Ending where
  | help
  | misuse
  | invalidValue (option value why : String)
  deriving DecidableEq

def placeholder (option : String) : String :=
  String.ofList (option.toList.map fun c => if c == '-' then '_' else c.toUpper)

def Ending.message? : Ending → Option String
  | .invalidValue option value why =>
      some ("error: invalid value '" ++ value ++ "' for '--" ++ option ++ " <" ++
        placeholder option ++ ">': " ++ why)
  | _ => none

abbrev Reading (α : Type) := Except Ending α

structure Given where
  operand : Option String := none
  values : List (String × String) := []
  flags : List String := []
  pending : Option (String × Option String) := none

def readCount (text : String) : Except String Nat :=
  match text.toList with
  | [] => .error "cannot parse integer from empty string"
  | ['+'] => .error "invalid digit found in string"
  | '+' :: digits => digits.foldlM next 0
  | digits => digits.foldlM next 0
where
  next (n : Nat) (c : Char) : Except String Nat :=
    if !('0' ≤ c && c ≤ '9') then .error "invalid digit found in string"
    else
      let n := 10 * n + (c.toNat - '0'.toNat)
      if n < Bound.word64 then .ok n else .error "number too large to fit in target type"

def readContentType (text : String) : Except String ContentType :=
  match ContentType.ofName? text with
  | some c => .ok c
  | none =>
      .error ("unknown content type " ++ Text.quoted text ++ "; expected one of " ++
        ", ".intercalate (ContentType.all.map ContentType.name))

def checkValue (option : String) (kind : ValueKind) (value : String) : Reading Unit :=
  match kind with
  | .path => if value.isEmpty then .error .misuse else .ok ()
  | .text => .ok ()
  | .count => (readCount value).map (fun _ => ()) |>.mapError (.invalidValue option value)
  | .contentType =>
      (readContentType value).map (fun _ => ()) |>.mapError (.invalidValue option value)

def commonOptions : List (String × ValueKind) :=
  [("config", .path)]

def commonFlags : List String :=
  ["debug"]

def Shape.option? (s : Shape) (name : String) : Option ValueKind :=
  (commonOptions ++ s.options).lookup name

def Shape.hasFlag (s : Shape) (name : String) : Bool :=
  (commonFlags ++ s.flags).contains name

def takeValue (s : Shape) (name value : String) (g : Given) : Reading Given :=
  if (g.values.lookup name).isSome then .error .misuse
  else
    match s.option? name with
    | none => .error .misuse
    | some kind => do
        checkValue name kind value
        return { g with values := g.values ++ [(name, value)] }

def settle (s : Shape) (g : Given) : Reading Given :=
  match g.pending with
  | none => .ok g
  | some (_, none) => .error .misuse
  | some (name, some value) => takeValue s name value { g with pending := none }

def takeFlag (s : Shape) (name : String) (g : Given) : Reading Given := do
  let g ← settle s g
  if g.flags.contains name then .error .misuse
  else return { g with flags := g.flags ++ [name] }

def takeOperand (s : Shape) (value : String) (g : Given) : Reading Given :=
  match s.operand, g.operand with
  | some kind, none => do
      let g ← settle s g
      checkValue "" kind value
      return { g with operand := some value }
  | _, _ => .error .misuse

def splitAtEquals : List Char → List Char × Option (List Char)
  | [] => ([], none)
  | c :: rest =>
      if c = '=' then ([], some rest)
      else
        let (name, value) := splitAtEquals rest
        (c :: name, value)

def takeLong (s : Shape) (text : List Char) (g : Given) : Reading Given :=
  let (name, value) := splitAtEquals text
  let name := String.ofList name
  if (s.option? name).isSome then do
    let g ← settle s g
    match value with
    | some value => takeValue s name (String.ofList value) g
    | none => return { g with pending := some (name, none) }
  else if value.isSome then .error .misuse
  else if s.hasFlag name then takeFlag s name g
  else if name = "help" then do
    let _ ← settle s g
    .error .help
  else .error .misuse

def takeShort (s : Shape) : List Char → Given → Reading Given
  | [], g => .ok g
  | 'd' :: rest, g => do takeShort s rest (← takeFlag s "debug" g)
  | 'h' :: _, g => do
      let _ ← settle s g
      .error .help
  | _, _ => .error .misuse

def isWaiting (g : Given) : Bool :=
  match g.pending with
  | some (_, none) => true
  | _ => false

def takeArgument (s : Shape) (argument : String) (g : Given) : Reading Given :=
  match argument.toList, g.pending with
  | '-' :: '-' :: text, _ => takeLong s text g
  | '-' :: c :: text, _ => takeShort s (c :: text) g
  | _, some (name, none) => .ok { g with pending := some (name, some argument) }
  | _, _ => takeOperand s argument g

def takeAll (s : Shape) : List String → Given → Reading Given
  | [], g => settle s g
  | "--" :: rest, g => do settle s (← rest.foldlM (fun g argument => takeOperand s argument g) g)
  | argument :: rest, g => do takeAll s rest (← takeArgument s argument g)

def shapes : List (String × Shape) :=
  [("validate", { operand := some .path }),
    ("compile", { operand := some .path, flags := ["tree", "optimize"] }),
    ("explain", { operand := some .path, options := [("db", .path)], flags := ["tree"] }),
    ("search", { operand := some .path, options := [("db", .path)], flags := ["tree"] }),
    ("indexes", { operand := some .path }),
    ("suggest",
      { operand := some .text,
        options := [("history-db", .path), ("content-type", .contentType)] }),
    ("record",
      { operand := some .text, options := [("results", .count), ("history-db", .path)] })]

def request? (command : String) (g : Given) : Option Request := do
  let operand ← g.operand
  let value := fun name => g.values.lookup name
  let flag := fun name => g.flags.contains name
  match command with
  | "validate" => some (.validate operand)
  | "compile" => some (.compile operand (flag "tree") (flag "optimize"))
  | "explain" => (value "db").map fun db => .explain operand db (flag "tree")
  | "search" => (value "db").map fun db => .search operand db (flag "tree")
  | "indexes" => some (.indexes operand)
  | "suggest" =>
      some (.suggest operand (value "history-db")
        ((value "content-type").bind fun name => (readContentType name).toOption))
  | "record" => do
      let results ← (value "results").bind fun text => (readCount text).toOption
      some (.record operand results (value "history-db"))
  | _ => none

def help : List String → Ending
  | [] => .help
  | [name] => if name = "help" ∨ (shapes.lookup name).isSome then .help else .misuse
  | _ => .misuse

/-- The arguments up to the name of the command, and those of the command: the file of the
settings, and the request. -/
def readFrom : List String → Given → Reading (Option String × Request)
  | [], _ => .error .misuse
  | argument :: rest, g =>
      match (if isWaiting g then none else shapes.lookup argument) with
      | some shape => do
          let outer ← settle {} g
          let inner ← takeAll shape rest {}
          match request? argument inner with
          | some r => return (inner.values.lookup "config" <|> outer.values.lookup "config", r)
          | none => .error .misuse
      | none =>
          if argument = "help" ∧ !isWaiting g then .error (help rest)
          else if argument = "--" then .error .misuse
          else do readFrom rest (← takeArgument {} argument g)

def read (arguments : List String) : Reading (Option String × Request) :=
  readFrom arguments {}

end Arguments

inductive Exit where
  | help
  | misuse (message : Option String)
  | failed (f : Failure)
  | printed (j : Json)

namespace Exit

def code : Exit → Nat
  | .help => 0
  | .misuse _ => 2
  | .failed _ => 1
  | .printed _ => 0

end Exit

def runProgram (around : Circumstances) (f : Files) (arguments : List String) : Exit × Files :=
  match Arguments.read arguments with
  | .error .help => (.help, f)
  | .error ending => (.misuse ending.message?, f)
  | .ok (config, request) =>
      match request.runWith config around f with
      | (.ok j, f) => (.printed j.arrange, f)
      | (.error failure, f) => (.failed failure, f)

def historyPathIn (directory : String) : String :=
  directory ++ "/kiosk-search/history.db"

end ArchiveSearch

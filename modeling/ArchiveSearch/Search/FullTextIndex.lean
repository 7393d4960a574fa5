import ArchiveSearch.Filter.Column
import ArchiveSearch.Filter.ContentType
import ArchiveSearch.SearchError

/- The full-text index beside the table of a category.

   The index is a table of its own, which three triggers keep in step with the rows of the category's
   table. It is set up by statements that run one after the other, any of which may fail; what the ones
   before have done stays. So a later set-up has to recognise every state that an earlier one may have
   left behind. -/
namespace ArchiveSearch

set_option autoImplicit false

structure IndexLayout where
  contentType : ContentType
  columns : List String

namespace IndexLayout

def ofFields (contentType : ContentType) (fields : List String) : Outcome IndexLayout := do
  let columns ← fields.mapM fun field =>
    match Column.ofField? field with
    | some column => .ok column
    | none => .error (.invalidField field)
  return { contentType, columns }

def content (l : IndexLayout) : String :=
  l.contentType.table

def table (l : IndexLayout) : String :=
  l.contentType.fullTextTable

def tokenizer : String := "unicode61 remove_diacritics 1"

def columnList (l : IndexLayout) : String :=
  ", ".intercalate l.columns

def valuesOf (l : IndexLayout) (row : String) : String :=
  ", ".intercalate (l.columns.map fun column => row ++ "." ++ column)

end IndexLayout

inductive IndexTrigger where
  | insertion
  | deletion
  | update
  deriving DecidableEq

namespace IndexTrigger

def all : List IndexTrigger :=
  [.insertion, .deletion, .update]

def suffix : IndexTrigger → String
  | .insertion => "_ai"
  | .deletion => "_ad"
  | .update => "_au"

def name (l : IndexLayout) (t : IndexTrigger) : String :=
  l.table ++ t.suffix

def event : IndexTrigger → String
  | .insertion => "INSERT"
  | .deletion => "DELETE"
  | .update => "UPDATE"

def removal (l : IndexLayout) : String :=
  "                INSERT INTO " ++ l.table ++ " (" ++ l.table ++ ", rowid, " ++ l.columnList ++
    ") VALUES ('delete', old.rowid, " ++ l.valuesOf "old" ++ ");\n"

def addition (l : IndexLayout) : String :=
  "                INSERT INTO " ++ l.table ++ " (rowid, " ++ l.columnList ++
    ") VALUES (new.rowid, " ++ l.valuesOf "new" ++ ");\n"

def body (l : IndexLayout) : IndexTrigger → String
  | .insertion => addition l
  | .deletion => removal l
  | .update => removal l ++ addition l

def definition (l : IndexLayout) (t : IndexTrigger) : String :=
  t.name l ++ " AFTER " ++ t.event ++ " ON " ++ l.content ++ " BEGIN\n" ++ t.body l ++
    "            END"

end IndexTrigger

inductive IndexStatement where
  | createTable
  | createTrigger (t : IndexTrigger)
  | populate
  | dropTrigger (t : IndexTrigger)
  | dropTable
  | optimize
  deriving DecidableEq

namespace IndexStatement

def tableDefinition (l : IndexLayout) : String :=
  l.table ++ " USING fts5(" ++ l.columnList ++ ", content='" ++ l.content ++ "', tokenize='" ++
    IndexLayout.tokenizer ++ "')"

def command (l : IndexLayout) (name : String) : String :=
  "INSERT INTO " ++ l.table ++ "(" ++ l.table ++ ") VALUES('" ++ name ++ "')"

def text (l : IndexLayout) : IndexStatement → String
  | .createTable => "CREATE VIRTUAL TABLE IF NOT EXISTS " ++ tableDefinition l
  | .createTrigger t => "CREATE TRIGGER IF NOT EXISTS " ++ t.definition l
  | .populate => command l "rebuild"
  | .dropTrigger t => "DROP TRIGGER IF EXISTS " ++ t.name l
  | .dropTable => "DROP TABLE IF EXISTS " ++ l.table
  | .optimize => command l "optimize"

end IndexStatement

structure IndexState (ρ : Type) where
  hasTable : Bool := false
  triggers : List IndexTrigger := []
  content : List ρ := []
  indexed : List ρ := []

namespace IndexState

variable {ρ : Type}

def hasTrigger (s : IndexState ρ) (t : IndexTrigger) : Bool :=
  s.triggers.contains t

def apply (s : IndexState ρ) : IndexStatement → Option (IndexState ρ)
  | .createTable => some (if s.hasTable then s else { s with hasTable := true, indexed := [] })
  | .createTrigger t =>
      some (if s.hasTrigger t then s else { s with triggers := s.triggers ++ [t] })
  | .populate => if s.hasTable then some { s with indexed := s.content } else none
  | .dropTrigger t => some { s with triggers := s.triggers.filter fun other => other != t }
  | .dropTable => some { s with hasTable := false, indexed := [] }
  | .optimize => if s.hasTable then some s else none

def run : List IndexStatement → IndexState ρ → Bool × IndexState ρ
  | [], s => (true, s)
  | statement :: rest, s =>
      match s.apply statement with
      | some next => run rest next
      | none => (false, s)

def createTriggers : List IndexStatement :=
  IndexTrigger.all.map .createTrigger

def dropTriggers : List IndexStatement :=
  [.dropTrigger .insertion, .dropTrigger .update, .dropTrigger .deletion]

def ensure (s : IndexState ρ) : List IndexStatement :=
  (if !s.hasTable then [.createTable, .populate]
    else if !s.hasTrigger .insertion then [.populate]
    else []) ++ createTriggers

def rebuild : List IndexStatement :=
  dropTriggers ++ [.dropTable, .createTable] ++ createTriggers ++ [.populate]

inductive Change (ρ : Type) where
  | insert (row : ρ)
  | delete (row : ρ)
  | update (old new : ρ)

namespace Change

def trigger : Change ρ → IndexTrigger
  | .insert _ => .insertion
  | .delete _ => .deletion
  | .update _ _ => .update

variable [DecidableEq ρ]

def onRows : Change ρ → List ρ → List ρ
  | .insert row, rows => rows ++ [row]
  | .delete row, rows => rows.erase row
  | .update old new, rows => rows.map fun row => if row = old then new else row

def removes : Change ρ → Bool
  | .insert _ => false
  | .delete _ => true
  | .update _ _ => true

end Change

variable [DecidableEq ρ]

/-- A change of a row, which its trigger repeats in the index. It fails as a whole if the trigger
does: when there is no index, or no row in it to take out. -/
def change (s : IndexState ρ) (c : Change ρ) : Option (IndexState ρ) :=
  let s' := { s with content := c.onRows s.content }
  if s.hasTrigger c.trigger then
    if !s.hasTable || (c.removes && s.indexed.isEmpty) then none
    else some { s' with indexed := c.onRows s.indexed }
  else some s'

def clear (s : IndexState ρ) : Option (IndexState ρ) :=
  if s.hasTrigger .deletion && !s.hasTable then none
  else s.content.foldlM (fun s row => s.change (.delete row)) s

end IndexState

namespace IndexLayout

variable {ρ : Type}

def schema (l : IndexLayout) (s : IndexState ρ) : List (String × String) :=
  (if s.hasTable then [(l.table, "CREATE VIRTUAL TABLE " ++ IndexStatement.tableDefinition l)]
    else []) ++
    s.triggers.map fun t => (t.name l, "CREATE TRIGGER " ++ t.definition l)

def noTable (l : IndexLayout) : SearchError :=
  let message := "no such table: " ++ l.table
  .database message [message]

def run (l : IndexLayout) (statements : List IndexStatement) (s : IndexState ρ) :
    Outcome Unit × IndexState ρ :=
  match s.run statements with
  | (true, s) => (.ok (), s)
  | (false, s) => (.error l.noTable, s)

def rowCount (l : IndexLayout) (s : IndexState ρ) : Outcome Nat :=
  if s.hasTable then .ok s.content.length else .error l.noTable

end IndexLayout

end ArchiveSearch

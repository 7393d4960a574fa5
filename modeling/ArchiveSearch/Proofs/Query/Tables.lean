import ArchiveSearch.Proofs.Query.Naming
import ArchiveSearch.Proofs.Simplify.Heads
import ArchiveSearch.Query.Condition
import ArchiveSearch.Query.Statement

namespace ArchiveSearch

set_option autoImplicit false

open Simplify (Calm Settled lastOr last_or_cons mayBegin may_begin_spelled)
open Text (Cursor foldChar isBlank)

theorem many_from_run (p : Char → Bool) (before : Option Char) (x : List Char) (c : Char) (rest : List Char)
    (all : ∀ d ∈ x, p d = true) (stops : p c = false) :
    Cursor.manyFrom p before (x ++ c :: rest) = ⟨lastOr before x, c :: rest⟩ := by
  induction x generalizing before with
  | nil => simp [Cursor.manyFrom, stops]
  | cons d x ih =>
      obtain ⟨here, later⟩ := List.forall_mem_cons.1 all
      rw [List.cons_append, Cursor.manyFrom, if_pos here, ih (some d) later, last_or_cons]

theorem find_from_calm {α : Type} (step : Cursor → Option α) (opens : List Char → Bool)
    (opened : ∀ before v tail found, v ≠ [] → step ⟨before, v ++ tail⟩ = some found → opens v = true)
    (before : Option Char) (head tail : List Char) (calm : Calm opens head) :
    Cursor.findFrom step before (head ++ tail) = Cursor.findFrom step (lastOr before head) tail := by
  induction head generalizing before with
  | nil => rfl
  | cons c head ih =>
      have nothing : step ⟨before, c :: (head ++ tail)⟩ = none := by
        cases found : step ⟨before, c :: (head ++ tail)⟩ with
        | none => rfl
        | some _ =>
            have open_ := opened before (c :: head) tail _ (List.cons_ne_nil c head) found
            rw [calm.1] at open_
            cases open_
      rw [List.cons_append, Cursor.findFrom, nothing, last_or_cons]
      exact ih (some c) calm.2

namespace Statement

def fromLetters : List Char :=
  ['F', 'R', 'O', 'M']

theorem table_at_opens (before : Option Char) (v tail found : List Char)
    (here : tableAt ⟨before, v ++ tail⟩ = some found) : mayBegin fromLetters v = true := by
  simp only [tableAt, Option.bind_eq_bind, Option.bind_eq_some_iff] at here
  obtain ⟨_, ⟨behind, ⟨start, edge, word⟩, -⟩, -⟩ := here
  obtain ⟨-, rfl⟩ := (Simplify.boundary_found _ _).1 edge
  obtain ⟨w, split, folded, -⟩ := Simplify.word_found _ _ _ _ word
  exact may_begin_spelled fromLetters v tail w behind.rest split folded

theorem table_at_name (c : Char) (name : List Char) (d : Char) (rest : List Char) (starts : startsName c = true)
    (continues : ∀ e ∈ name, continuesName e = true) (stops : continuesName d = false) (solid : isBlank c = false) :
    tableAt ⟨some ' ', fromLetters ++ ([' '] ++ (c :: (name ++ d :: rest)))⟩ = some (c :: name) := by
  have edge : Text.isBoundary (some ' ') (some 'F') = true := by decide
  have start := (Simplify.boundary_found ⟨some ' ', fromLetters ++ ([' '] ++ (c :: (name ++ d :: rest)))⟩ _).2 ⟨edge, rfl⟩
  have word := Simplify.word_step fromLetters fromLetters (some ' ') ([' '] ++ (c :: (name ++ d :: rest))) rfl
  have blank := Simplify.blanks_step (some 'M') [' '] (c :: (name ++ d :: rest))
    ⟨by simp, fun e mem => by rw [List.mem_singleton.1 mem]; rfl⟩ (by simp [Simplify.Solid, solid])
  have reached : (Cursor.boundary ⟨some ' ', fromLetters ++ ([' '] ++ (c :: (name ++ d :: rest)))⟩ >>=
      Cursor.word fromLetters >>= Cursor.blanks) = some ⟨some ' ', c :: (name ++ d :: rest)⟩ := by
    rw [start, Option.bind_eq_bind, Option.bind_some, word, Option.bind_some]
    exact blank
  have passed : (Cursor.one startsName ⟨some ' ', c :: (name ++ d :: rest)⟩ >>= Cursor.many continuesName) =
      some ⟨lastOr (some c) name, d :: rest⟩ := by
    rw [Cursor.one, if_pos starts, Option.bind_eq_bind, Option.bind_some, Cursor.many,
      many_from_run continuesName (some c) name d rest continues stops]
  have length : Cursor.distance ⟨some ' ', c :: (name ++ d :: rest)⟩ ⟨lastOr (some c) name, d :: rest⟩ =
      (c :: name).length := by
    simp only [Cursor.distance, List.length_cons, List.length_append]
    omega
  show ((Cursor.boundary ⟨some ' ', fromLetters ++ ([' '] ++ (c :: (name ++ d :: rest)))⟩ >>=
      Cursor.word fromLetters >>= Cursor.blanks) >>= fun at_ =>
        (Cursor.one startsName at_ >>= Cursor.many continuesName) >>= fun last =>
          pure (at_.rest.take (at_.distance last))) = _
  rw [reached, Option.bind_eq_bind, Option.bind_some, passed, Option.bind_some, length, ← List.cons_append, List.take_left]
  rfl

theorem table_of_headed (text : String) (lead name : List Char) (d : Char) (rest : List Char)
    (split : text.toList = lead ++ (fromLetters ++ ([' '] ++ (name ++ d :: rest))))
    (calm : Calm (mayBegin fromLetters) lead) (behind : lead.getLast? = some ' ')
    (continues : ∀ e ∈ name, continuesName e = true) (starts : name.head?.any startsName = true)
    (solid : name.head?.any isBlank = false) (stops : continuesName d = false) :
    tableOf? text = some (String.ofList name) := by
  obtain ⟨c, name, rfl⟩ : ∃ c more, name = c :: more := by
    cases name with
    | nil => cases starts
    | cons c name => exact ⟨c, name, rfl⟩
  have here := table_at_name c name d rest (by simpa using starts) (List.forall_mem_cons.1 continues).2 stops
    (by simpa using solid)
  have skipped := find_from_calm tableAt (mayBegin fromLetters)
    (fun before v tail found _ => table_at_opens before v tail found) none lead
    (fromLetters ++ ([' '] ++ (c :: (name ++ d :: rest)))) calm
  rw [lastOr, behind] at skipped
  have found : Cursor.findFrom tableAt (some ' ') (fromLetters ++ ([' '] ++ (c :: (name ++ d :: rest)))) =
      some (c :: name) := by
    rw [fromLetters, List.cons_append, Cursor.findFrom]
    rw [fromLetters, List.cons_append] at here
    rw [here]
  rw [tableOf?, Cursor.find?, split]
  exact congrArg (Option.map String.ofList) (skipped.trans found)

end Statement

-- The letters of a category's table. Texts are compared by their letters here, since a text of many letters is slow to
-- take apart.
def ContentType.letters : ContentType → List Char
  | .alumni => ['a', 'l', 'u', 'm', 'n', 'i']
  | .publications => ['p', 'u', 'b', 'l', 'i', 'c', 'a', 't', 'i', 'o', 'n', 's']
  | .photos => ['p', 'h', 'o', 't', 'o', 's']
  | .faculty => ['f', 'a', 'c', 'u', 'l', 't', 'y']

theorem table_to_list (contentType : ContentType) : contentType.table.toList = contentType.letters := by
  cases contentType <;> decide

def relevanceLetters : List Char :=
  ['_', 'f', 't', 's', '_', 'h', 'i', 't', 's', '.', 'r', 'e', 'l', 'e', 'v', 'a', 'n', 'c', 'e',
    ' ', 'A', 'S', ' ', 'r', 'e', 'l', 'e', 'v', 'a', 'n', 'c', 'e']

def selectLead (contentType : ContentType) (ranked : Bool) : List Char :=
  ['S', 'E', 'L', 'E', 'C', 'T', ' '] ++ (contentType.letters ++ (['.', '*'] ++
    ((if ranked then [',', ' '] ++ (contentType.letters ++ relevanceLetters) else []) ++ [' '])))

def selectHead (contentType : ContentType) (ranked : Bool) : List Char :=
  selectLead contentType ranked ++ (Statement.fromLetters ++ ([' '] ++ (contentType.letters ++
    ' ' :: if ranked then ['L', 'E', 'F', 'T'] else ['W', 'H', 'E', 'R', 'E'])))

theorem select_head_settled (contentType : ContentType) (ranked : Bool) : Settled (selectHead contentType ranked) := by
  have checked : (selectHead contentType ranked).all (fun c => c ∉ ['(', ')', '\'', '"']) = true := by
    cases contentType <;> cases ranked <;> decide
  have plain : ∀ c ∈ selectHead contentType ranked, c ≠ '(' ∧ c ≠ ')' ∧ c ≠ '\'' ∧ c ≠ '"' := fun c mem => by
    simpa using List.all_eq_true.1 checked c mem
  have flat : ∀ c ∈ selectHead contentType ranked, c ≠ '(' ∧ c ≠ ')' := fun c mem =>
    ⟨(plain c mem).1, (plain c mem).2.1⟩
  have unquoted : ∀ c ∈ selectHead contentType ranked, c ≠ '\'' ∧ c ≠ '"' := fun c mem => (plain c mem).2.2
  cases contentType <;> cases ranked <;>
    exact ⟨by decide, flat, unquoted, by decide, by decide⟩

theorem select_head_table (contentType : ContentType) (ranked : Bool) (text : String)
    (headed : selectHead contentType ranked <+: text.toList) :
    Statement.tableOf? (simplify text) = some contentType.table := by
  obtain ⟨tail, split⟩ := headed
  obtain ⟨left, made⟩ := Simplify.simplify_keeps _ tail (select_head_settled contentType ranked) text split.symm
  have lead : Calm (mayBegin Statement.fromLetters) (selectLead contentType ranked) := by
    cases contentType <;> cases ranked <;> decide
  have behind : (selectLead contentType ranked).getLast? = some ' ' := by
    cases contentType <;> cases ranked <;> rfl
  have continues : contentType.letters.all Statement.continuesName = true := by cases contentType <;> decide
  have starts : contentType.letters.head?.any Statement.startsName = true ∧
      contentType.letters.head?.any isBlank = false := by
    cases contentType <;> decide
  rw [Statement.table_of_headed (simplify text) (selectLead contentType ranked) contentType.letters ' '
    ((if ranked then ['L', 'E', 'F', 'T'] else ['W', 'H', 'E', 'R', 'E']) ++ left) _ lead behind
    (List.all_eq_true.1 continues) starts.1 starts.2 (by decide),
    ← table_to_list, String.ofList_toList]
  rw [made, selectHead]
  simp only [List.append_assoc, List.cons_append]

theorem select_head_plain (contentType : ContentType) (rest : String) : selectHead contentType false <+:
    ("SELECT " ++ contentType.table ++ ".* FROM " ++ contentType.table ++ " WHERE " ++ rest).toList := by
  simp only [String.toList_append, table_to_list, selectHead, selectLead, Statement.fromLetters, List.append_assoc]
  simp

theorem Parts.select_headed (p : Parts) : selectHead p.contentType p.matchExpression.isSome <+: p.select.text.toList := by
  cases asked : p.matchExpression with
  | none =>
      rw [show p.select.text = "SELECT " ++ p.table ++ ".* FROM " ++ p.table ++ " WHERE " ++ p.joined p.clauseTexts by
        rw [Parts.select, asked]]
      exact select_head_plain p.contentType _
  | some expression =>
      rw [Parts.select, asked, Option.isSome_some]
      simp only [Parts.table, ContentType.fullTextTable, String.toList_append, table_to_list, selectHead, selectLead,
        relevanceLetters, Statement.fromLetters, List.append_assoc]
      simp

theorem Filter.compiled_table (today : Date) (f : Filter) (q : Query) (compiled : f.compile today = .ok q) :
    Statement.tableOf? (simplify q.text) = some f.contentType.table := by
  obtain ⟨p, made, rfl⟩ := (map_ok_iff _ _ _).1 compiled
  have same : p.contentType = f.contentType := f.parts_category today p made
  rw [← same]
  exact select_head_table _ _ _ p.select_headed

theorem FilterTree.compiled_table (today : Date) (t : FilterTree) (found : Condition × Option ContentType) (q : Query)
    (made : t.condition today = .ok found) (compiled : t.compile today = .ok q) :
    Statement.tableOf? (simplify q.text) = some (found.2.getD .alumni).table := by
  rw [FilterTree.compile, made] at compiled
  obtain rfl := Except.ok.inj compiled
  exact select_head_table _ false _ (select_head_plain _ _)

end ArchiveSearch

import ArchiveSearch.Proofs.Search.Transparency
import ArchiveSearch.Proofs.Simplify.Compiled
import ArchiveSearch.Proofs.Simplify.Edits

/- Variants of one condition: what is compiled is a condition of comparisons, and however a condition is edited with blanks
   and constants that decide nothing, one statement is prepared for it. -/
namespace ArchiveSearch

set_option autoImplicit false

open Simplify
open Text (isBlank)

theorem reads_unquoted (deep : Bool) (e last : Edge) (cs : List Char) (read : reads deep e cs = some last) :
    Token.Unquoted cs := by
  induction cs generalizing e with
  | nil => nofun
  | cons c cs ih =>
      obtain ⟨m, step, later⟩ := (reads_cons_some deep e last c cs).mp read
      refine List.forall_mem_cons.mpr ⟨?_, ih m later⟩
      rcases next_some deep e m c step with ⟨rfl, -⟩ | ⟨-, unquoted, -⟩
      · decide
      · constructor <;> rintro rfl <;> cases unquoted

theorem neat_atomic (text : String) (c : Char) (neat : Neat false text) (last : text.toList.getLast? = some c)
    (strange : Strange c) (open_ : c ≠ '(') : Atomic text.toList := by
  have read : reads false .gap text.toList = some .solid := neat.leads .gap (.inr (.inl rfl))
  refine ⟨⟨reads_unquoted _ _ _ _ read, ?_, c, last, strange.1, open_⟩, ⟨c, last, strange⟩, reads_signless _ _ _ _ read⟩
  cases text_ : text.toList with
  | nil => rw [text_] at read; cases read
  | cons d cs =>
      rw [text_] at read
      obtain ⟨m, step, -⟩ := (reads_cons_some false .gap .solid d cs).mp read
      rcases next_some false .gap m d step with ⟨-, none_, -⟩ | ⟨solid, -, -, -, -, -, closes⟩
      · exact absurd none_ (by simp)
      · exact ⟨d, rfl, solid, fun closing => closes closing rfl⟩

theorem last_of_text (a b : String) (c : Char) (last : b.toList.getLast? = some c) :
    (a ++ b).toList.getLast? = some c := by
  rw [String.toList_append, List.getLast?_append, last]
  rfl

theorem mark_strange : Strange '?' :=
  strange_of_all '?' (by decide) (by decide)

theorem null_strange : Strange 'L' :=
  strange_of_all 'L' (by decide) (by decide)

section Pieces

variable (contentType : ContentType)

theorem clause_atomic (clause : Clause) (field : String) (named : Column.ofField? field = some clause.column) :
    Atomic (clause.text contentType.table).toList := by
  have neat := clause_neat false contentType clause field named
  have marked : ∀ a b : String, b.toList.getLast? = some '?' → clause.text contentType.table = a ++ b →
      Atomic (clause.text contentType.table).toList := fun a b last same =>
    neat_atomic _ '?' neat (by rw [same]; exact last_of_text a b '?' last) mark_strange (by decide)
  have closed : ∀ a b : String, b.toList.getLast? = some ')' → clause.text contentType.table = a ++ b →
      Atomic (clause.text contentType.table).toList := fun a b last same =>
    neat_atomic _ ')' neat (by rw [same]; exact last_of_text a b ')' last) closing_strange (by decide)
  cases test : clause.test with
  | sameText value => exact closed _ ") = LOWER(?)" rfl (by rw [Clause.text, test])
  | within first last => exact closed _ " <= ?)" rfl (by rw [Clause.text, test])
  | since first => exact marked _ " >= ?" rfl (by rw [Clause.text, test])
  | upTo last => exact marked _ " <= ?" rfl (by rw [Clause.text, test])
  | between least most => exact marked _ " BETWEEN ? AND ?" rfl (by rw [Clause.text, test])
  | flag value => exact marked _ " = ?" rfl (by rw [Clause.text, test])
  | compare comparison value => exact marked _ " ?" rfl (by rw [Clause.text, test])

theorem membership_atomic :
    Atomic (contentType.table ++ ".rowid IN (SELECT rowid FROM " ++ contentType.fullTextTable ++ " WHERE " ++
      contentType.fullTextTable ++ " MATCH ?)").toList :=
  neat_atomic _ ')' (membership_neat false contentType) (last_of_text _ _ ')' rfl) closing_strange (by decide)

theorem found_atomic : Atomic (contentType.fullTextTable ++ "_hits" ++ ".fts_rowid IS NOT NULL").toList :=
  neat_atomic _ 'L' (found_neat false contentType) (last_of_text _ _ 'L' rfl) null_strange (by decide)

end Pieces

theorem joined_around (connective : Connective) (rest : List (List Char)) (each : ∀ x ∈ rest, Operand x) :
    ∃ next, Around [] (rest.flatMap fun x => joint connective ++ x) next := by
  induction rest with
  | nil => exact ⟨none, .alone [] [] nofun nofun⟩
  | cons x rest ih =>
      obtain ⟨here, later⟩ := List.forall_mem_cons.mp each
      obtain ⟨next, around⟩ := ih later
      have before := Around.before [] x [' '] [' '] _ connective next around here space_blanks space_blanks
      exact ⟨some connective, by simpa [joint] using before⟩

theorem intercalate_joined (connective : Connective) (first : String) (rest : List String) :
    ((" " ++ connective.name ++ " ").intercalate (first :: rest)).toList =
      first.toList ++ (rest.map String.toList).flatMap fun x => joint connective ++ x := by
  induction rest generalizing first with
  | nil => simp
  | cons second rest ih =>
      rw [String.intercalate_cons_cons, String.toList_append, String.toList_append, ih second]
      simp [joint]

theorem joined_condition (connective : Connective) (first : String) (rest : List String)
    (each : ∀ text ∈ first :: rest, Operand text.toList) :
    IsCondition ((" " ++ connective.name ++ " ").intercalate (first :: rest)).toList := by
  obtain ⟨here, later⟩ := List.forall_mem_cons.mp each
  obtain ⟨next, around⟩ := joined_around connective (rest.map String.toList) (List.forall_mem_map.mpr later)
  exact ⟨[], first.toList, _, next, around, here, intercalate_joined connective first rest⟩

theorem always_true_condition : IsCondition alwaysTrue.toList :=
  ⟨[], spelledConstant true, [], none, .alone [] [] nofun nofun, .constant true, rfl⟩

theorem Parts.condition_composed (p : Parts) (named : p.Named) : IsCondition p.condition.text.toList := by
  have clauses : ∀ text ∈ p.clauseTexts, Operand text.toList := by
    intro text member
    obtain ⟨clause, inside, rfl⟩ := List.mem_map.mp member
    obtain ⟨field, column⟩ := named clause inside
    exact .atom _ (clause_atomic p.contentType clause field column)
  cases expression : p.matchExpression with
  | some e =>
      simp only [condition, expression, Option.map_some, Option.toList_some, List.singleton_append, joined]
      have membership := Operand.atom _ (membership_atomic p.contentType)
      exact joined_condition p.connective _ _ (List.forall_mem_cons.mpr ⟨membership, clauses⟩)
  | none =>
      simp only [condition, expression, Option.map_none, Option.toList_none, List.nil_append]
      cases texts : p.clauseTexts with
      | nil => exact always_true_condition
      | cons first rest =>
          rw [texts] at clauses
          exact joined_condition p.connective first rest clauses

namespace Condition

mutual
theorem query_composed (c : Condition) (named : ∀ p ∈ c.leaves, p.Named) : IsCondition c.query.text.toList := by
  cases c with
  | leaf parts => exact parts.condition_composed (named parts (by simp [leaves]))
  | join connective children =>
      have each := constraining_composed children named
      rw [query]
      cases found : constraining children with
      | nil => exact always_true_condition
      | cons first rest =>
          rw [found] at each
          have wrapped : ∀ text ∈ (first :: rest).map fun q => "(" ++ q.text ++ ")", Operand text.toList := by
            intro text member
            obtain ⟨q, inside, rfl⟩ := List.mem_map.mp member
            obtain ⟨l, x, r, next, around, operand, split⟩ := each q inside
            rw [String.toList_append, String.toList_append, split]
            exact .group l x r next around operand
          exact joined_condition connective _ _ wrapped
theorem constraining_composed (children : List Condition) (named : ∀ p ∈ leavesAll children, p.Named) :
    ∀ q ∈ constraining children, IsCondition q.text.toList := by
  cases children with
  | nil => simp [constraining]
  | cons child rest =>
      have here := query_composed child fun p member => named p (List.mem_append_left _ member)
      have later := constraining_composed rest fun p member => named p (List.mem_append_right _ member)
      rw [constraining]
      by_cases always : child.query.isAlwaysTrue = true
      · rw [if_pos always]
        exact later
      · rw [if_neg always]
        exact List.forall_mem_cons.mpr ⟨here, later⟩
end

end Condition

theorem variants_simplified :
    (∀ (contentType : ContentType) (clause : Clause) (field : String), Column.ofField? field = some clause.column →
      Atomic (clause.text contentType.table).toList) ∧
    (∀ contentType : ContentType,
      Atomic (contentType.table ++ ".rowid IN (SELECT rowid FROM " ++ contentType.fullTextTable ++ " WHERE " ++
        contentType.fullTextTable ++ " MATCH ?)").toList ∧
      Atomic (contentType.fullTextTable ++ "_hits" ++ ".fts_rowid IS NOT NULL").toList) ∧
    (∀ (today : Date) (tree : FilterTree) (q : Query), tree.compileCondition today = .ok q →
      IsCondition q.text.toList) ∧
    ∀ t t' : List Char, IsCondition t → Relation.ReflTransGen Edit t t' →
      simplify (String.ofList t') = simplify (String.ofList t) ∧
      ∀ (s s' : Searcher) (now now' : Nat) (params params' : List Value),
        (s'.prepare now' ⟨String.ofList t', params'⟩).1.id = (s.prepare now ⟨String.ofList t, params⟩).1.id := by
  refine ⟨clause_atomic, fun contentType => ⟨membership_atomic contentType, found_atomic contentType⟩, ?_, ?_⟩
  · intro today tree q made
    obtain ⟨⟨c, found⟩, condition, rfl⟩ := (map_ok_iff _ _ _).mp made
    exact c.query_composed (FilterTree.leaves_named today none found tree c condition)
  · intro t t' condition edits
    have same := (edits_kept t t' (condition_unquoted t condition) edits).2
    refine ⟨same, fun s s' now now' params params' => ?_⟩
    have named : ∀ (s : Searcher) (now : Nat) (q : Query), (s.prepare now q).1.id = Statement.idOf (simplify q.text) :=
      fun s now q => prepare_id s.statements (simplify q.text) q.params now
    rw [named, named, same]

theorem named_or_living_simplified :
    let named := "alumni.name LIKE ?".toList
    let living := "alumni.deceased = ?".toList
    let t := named ++ (" OR ".toList ++ living)
    let t' := named ++ (" OR 1=1\n AND ".toList ++ (living ++ " OR 0=1".toList))
    IsCondition t ∧ Relation.ReflTransGen Edit t t' ∧
      String.ofList t' = "alumni.name LIKE ? OR 1=1\n AND alumni.deceased = ? OR 0=1" ∧
      simplify (String.ofList t') = "alumni.name LIKE ? OR alumni.deceased = ?" ∧
      ∃ q, livingInGroups.compileCondition Date.epoch = .ok q ∧ IsCondition q.text.toList := by
  intro named living t t'
  obtain ⟨clauses, -, compiled, variants⟩ := variants_simplified
  have first : Operand named :=
    .atom _ (clauses .alumni ⟨"name", .compare .like (.text "A%")⟩ "name" (by decide +kernel))
  have second : Operand living := .atom _ (clauses .alumni ⟨"deceased", .flag true⟩ "deceased" (by decide +kernel))
  have alone : Around [] [] none := .alone [] [] nofun nofun
  have wide : Blanks ['\n', ' '] := ⟨List.cons_ne_nil _ _, List.forall_mem_cons.mpr ⟨rfl, space_blanks.2⟩⟩
  have condition : IsCondition t :=
    ⟨[], named, _, _, .before [] living [' '] [' '] [] .or none alone second space_blanks space_blanks, first, rfl⟩
  have place := Around.behind [] named [' '] [' '] [] .or none alone first space_blanks space_blanks
  have constant : Edit t (named ++ (" OR 1=1 AND ".toList ++ living)) := .trueBefore _ living [] none place second
  have blanks : Edit (named ++ (" OR 1=1 AND ".toList ++ living)) (named ++ (" OR 1=1\n AND ".toList ++ living)) :=
    .respace (named ++ " OR 1=1".toList) [' '] ['\n', ' '] ("AND ".toList ++ living) space_blanks wide
  have place' := Around.behind _ _ ['\n', ' '] [' '] [] .and none place (.constant true) wide space_blanks
  have last : Edit (named ++ (" OR 1=1\n AND ".toList ++ living)) t' := .falseAfter _ living [] none place' second nofun
  have edits : Relation.ReflTransGen Edit t t' := ((Relation.ReflTransGen.single constant).tail blanks).tail last
  have same := (variants t t' condition edits).1
  exact ⟨condition, edits, by decide +kernel, same.trans (by decide +kernel), _, rfl,
    compiled Date.epoch livingInGroups _ rfl⟩

end ArchiveSearch

import ArchiveSearch.Proofs.Query.Naming
import ArchiveSearch.Proofs.Text.Trimming

/- Which conditions ask something. A text that begins like a comparison is never taken for the condition
   that leaves every record in, so a tree's join drops exactly the children none of whose leaves asks
   anything. -/
namespace ArchiveSearch

set_option autoImplicit false

def Opens (text : String) : Prop :=
  ∃ first rest, text.toList = first :: rest ∧ Text.isBlank first = false ∧ first ≠ '1'

theorem opens_append (a b : String) (opens : Opens a) : Opens (a ++ b) := by
  obtain ⟨first, rest, chars, solid, other⟩ := opens
  exact ⟨first, rest ++ b.toList, by simp [chars], solid, other⟩

theorem opens_not_always_true (q : Query) (opens : Opens q.text) : q.isAlwaysTrue = false := by
  obtain ⟨first, rest, chars, solid, other⟩ := opens
  obtain ⟨kept, trimmed⟩ := Text.trim_end_head first rest solid
  rw [Query.isAlwaysTrue, beq_eq_false_iff_ne]
  intro same
  have letters := congrArg String.toList same
  rw [Text.trim, String.toList_ofList, chars, Text.trimStart, List.dropWhile_cons_of_neg (by simp [solid]),
    trimmed] at letters
  have leading := congrArg List.head? letters
  exact other (by simpa [alwaysTrue] using leading)

theorem table_opens (contentType : ContentType) : Opens contentType.table := by
  cases contentType with
  | alumni => exact ⟨'a', _, rfl, by decide, by decide⟩
  | publications => exact ⟨'p', _, rfl, by decide, by decide⟩
  | photos => exact ⟨'p', _, rfl, by decide, by decide⟩
  | faculty => exact ⟨'f', _, rfl, by decide, by decide⟩

theorem clause_opens (contentType : ContentType) (clause : Clause) :
    Opens (clause.text contentType.table) := by
  have named : Opens (contentType.table ++ "." ++ clause.column) :=
    opens_append _ _ (opens_append _ _ (table_opens contentType))
  unfold Clause.text
  cases clause.test with
  | sameText value =>
      exact opens_append _ _ (opens_append _ _ ⟨'L', _, rfl, by decide, by decide⟩)
  | within first last =>
      exact opens_append _ _ (opens_append _ _ (opens_append _ _ (opens_append _ _
        ⟨'(', _, rfl, by decide, by decide⟩)))
  | since first => exact opens_append _ _ named
  | upTo last => exact opens_append _ _ named
  | between least most => exact opens_append _ _ named
  | flag value => exact opens_append _ _ named
  | compare comparison value =>
      exact opens_append _ _ (opens_append _ _ (opens_append _ _ named))

theorem intercalate_opens (separator first : String) (rest : List String) (opens : Opens first) :
    Opens (separator.intercalate (first :: rest)) := by
  cases rest with
  | nil => simpa using opens
  | cons second rest =>
      rw [String.intercalate_cons_cons]
      exact opens_append _ _ (opens_append _ _ opens)

namespace Parts

theorem match_expression_none (p : Parts) : p.matchExpression = none ↔ p.terms = [] := by
  unfold matchExpression
  cases p.terms with
  | nil => simp [FullText.join?]
  | cons term rest => simp [FullText.join?]

theorem constrains_false_iff (p : Parts) :
    p.constrains = false ↔ p.matchExpression = none ∧ p.clauses = [] := by
  rw [match_expression_none, constrains]
  cases p.terms <;> cases p.clauses <;> simp

theorem condition_opens (p : Parts) (asks : p.constrains = true) : Opens p.condition.text := by
  cases expression : p.matchExpression with
  | some e =>
      simp only [condition, expression, Option.map_some, Option.toList_some, List.singleton_append, joined]
      exact intercalate_opens _ _ _ (opens_append _ _ (opens_append _ _ (opens_append _ _
        (opens_append _ _ (opens_append _ _ (table_opens p.contentType))))))
  | none =>
      have some_clause : p.clauses ≠ [] := by
        intro none_
        have nothing := (constrains_false_iff p).mpr ⟨expression, none_⟩
        rw [asks] at nothing
        cases nothing
      obtain ⟨clause, rest, clauses⟩ := List.exists_cons_of_ne_nil some_clause
      simp only [condition, expression, Option.map_none, Option.toList_none, List.nil_append, clauseTexts,
        clauses, List.map_cons, joined]
      exact intercalate_opens _ _ _ (clause_opens p.contentType clause)

theorem condition_of_nothing (p : Parts) (asks : p.constrains = false) :
    p.condition = Query.everything := by
  obtain ⟨expression, clauses⟩ := (constrains_false_iff p).mp asks
  simp [condition, expression, clauseTexts, params, clauses, joined, Query.everything]

end Parts

theorem everything_always_true : Query.everything.isAlwaysTrue = true := by
  decide

namespace Condition

mutual
theorem query_asks (c : Condition) (asks : c.constrains = true) : Opens c.query.text := by
  cases c with
  | leaf parts => exact parts.condition_opens (by simpa [constrains] using asks)
  | join connective children =>
      rw [constrains] at asks
      have some_left := constraining_ne_nil children asks
      obtain ⟨first, rest, found⟩ := List.exists_cons_of_ne_nil some_left
      simp only [query, found, List.map_cons]
      exact intercalate_opens _ _ _ (opens_append _ _ (opens_append _ _
        ⟨'(', _, rfl, by decide, by decide⟩))
theorem constraining_ne_nil (children : List Condition) (asks : anyConstrains children = true) :
    constraining children ≠ [] := by
  cases children with
  | nil => simp [anyConstrains] at asks
  | cons child rest =>
      rw [anyConstrains, Bool.or_eq_true] at asks
      rw [constraining]
      split
      · rename_i nothing
        rcases asks with here | later
        · rw [opens_not_always_true _ (query_asks child here)] at nothing
          cases nothing
        · exact constraining_ne_nil rest later
      · simp
end

mutual
theorem query_of_nothing (c : Condition) (asks : c.constrains = false) :
    c.query = Query.everything := by
  cases c with
  | leaf parts => exact parts.condition_of_nothing (by simpa [constrains] using asks)
  | join connective children =>
      rw [constrains] at asks
      rw [query, constraining_nil children asks]
theorem constraining_nil (children : List Condition) (asks : anyConstrains children = false) :
    constraining children = [] := by
  cases children with
  | nil => rfl
  | cons child rest =>
      rw [anyConstrains, Bool.or_eq_false_iff] at asks
      rw [constraining, query_of_nothing child asks.1, if_pos everything_always_true]
      exact constraining_nil rest asks.2
end

theorem always_true_iff (c : Condition) : c.query.isAlwaysTrue = !c.constrains := by
  cases asks : c.constrains with
  | true => exact opens_not_always_true _ (query_asks c asks)
  | false => rw [query_of_nothing c asks, everything_always_true]; rfl

end Condition

end ArchiveSearch

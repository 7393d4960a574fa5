import ArchiveSearch.Proofs.Query.Placeholders
import ArchiveSearch.Proofs.Search.Transparency
import ArchiveSearch.Proofs.Simplify.Spared

/- Simplifying keeps the placeholders of a text: quotes and question marks are never taken away, and a count of placeholders
   depends on nothing else. So a query that binds one value to each placeholder is prepared as a statement that does. -/
namespace ArchiveSearch

set_option autoImplicit false

open Simplify

def isMark (c : Char) : Bool :=
  c == '?' || c == '\'' || c == '"'

theorem marks_spared : Spared isMark where
  solid c blank := by
    rw [Bool.eq_false_iff]
    intro mark
    simp only [isMark, Bool.or_eq_true, beq_iff_eq] at mark
    rcases mark with (rfl | rfl) | rfl <;> revert blank <;> decide
  wordless := by decide
  opening := by decide
  closing := by decide

theorem count_from_marks (open_ : Option Char) (cs : List Char) (quote : open_.all isMark = true) :
    Query.countFrom open_ (cs.filter isMark) = Query.countFrom open_ cs := by
  induction cs generalizing open_ with
  | nil => rfl
  | cons c cs ih =>
      by_cases mark : isMark c = true
      · rw [List.filter_cons_of_pos mark]
        cases open_ with
        | none =>
            rw [Query.countFrom, Query.countFrom]
            by_cases placeholder : (c == '?') = true
            · rw [if_pos placeholder, if_pos placeholder, ih none rfl]
            · rw [if_neg placeholder, if_neg placeholder]
              apply ih
              rw [Query.quoteAfter]
              split
              · exact mark
              · rfl
        | some q =>
            rw [Query.countFrom, Query.countFrom]
            apply ih
            rw [Query.quoteAfter]
            split
            · rfl
            · exact quote
      · rw [List.filter_cons_of_neg mark, ih open_ quote]
        have plain : c ≠ '?' ∧ c ≠ '\'' ∧ c ≠ '"' := by simpa [isMark, and_assoc] using mark
        cases open_ with
        | none => simp [Query.countFrom, Query.quoteAfter, plain]
        | some q =>
            have inside : c ≠ q := by
              rintro rfl
              exact mark quote
            simp [Query.countFrom, Query.quoteAfter, inside]

theorem count_simplified (text : String) :
    Query.countFrom none (simplify text).toList = Query.countFrom none text.toList := by
  rw [← count_from_marks none _ rfl, simplify_spares isMark marks_spared text, count_from_marks none _ rfl]

def Statement.Complete (known : Statement) : Prop :=
  Query.countFrom none known.text.toList = known.params.length

def Statements.Free (table : Statements) (text : String) : Prop :=
  ∀ known ∈ table, known.id = Statement.idOf text → known.text = text

theorem prepare_made (table : Statements) (text : String) (params : List Value) (now : Nat) (free : table.Free text) :
    (table.prepare text params now).1.text = text ∧ (table.prepare text params now).1.params = params := by
  cases found : table.find? (Statement.idOf text) with
  | some known =>
      obtain ⟨inside, named⟩ := find_mem table _ known found
      rw [prepare_known table text params now known found]
      exact ⟨free known inside named, rfl⟩
  | none =>
      rw [prepare_new table text params now found]
      exact ⟨rfl, rfl⟩

theorem prepare_others (table : Statements) (text : String) (params : List Value) (now : Nat) (known : Statement)
    (member : known ∈ (table.prepare text params now).2) :
    known = (table.prepare text params now).1 ∨ known ∈ table := by
  cases found : table.find? (Statement.idOf text) with
  | some old =>
      rw [prepare_known table text params now old found] at member ⊢
      obtain ⟨other, there, rfl⟩ := List.mem_map.mp member
      by_cases here : (other.id == Statement.idOf text) = true
      · rw [if_pos here]
        exact .inl rfl
      · rw [if_neg here]
        exact .inr there
  | none =>
      rw [prepare_new table text params now found, List.mem_append, List.mem_singleton] at member
      rw [prepare_new table text params now found]
      exact member.symm

theorem prepare_collides (s : Searcher) (now later : Nat) (q q' : Query)
    (ids : Statement.idOf (simplify q.text) = Statement.idOf (simplify q'.text)) :
    ((s.prepare now q).2.prepare later q').1 =
      { (s.prepare now q).1 with params := q'.params, useCount := (s.prepare now q).1.useCount + 1 } := by
  have found := prepare_found s.statements (simplify q.text) q.params now
  rw [ids] at found
  exact congrArg Prod.fst (prepare_known _ (simplify q'.text) q'.params later _ found)

theorem placeholders_simplified :
    (∀ text : String, Query.countFrom none (simplify text).toList = Query.countFrom none text.toList ∧
      (simplify text).toList.filter isMark = text.toList.filter isMark) ∧
    ∀ (s : Searcher) (now : Nat) (q : Query), q.placeholders = q.params.length →
      s.statements.Free (simplify q.text) →
      (s.prepare now q).1.text = simplify q.text ∧ (s.prepare now q).1.params = q.params ∧
      (s.prepare now q).1.Complete ∧
      (s.prepare now q).2.statements.find? (Statement.idOf (simplify q.text)) = some (s.prepare now q).1 ∧
      ((∀ known ∈ s.statements, known.Complete) → ∀ known ∈ (s.prepare now q).2.statements, known.Complete) := by
  refine ⟨fun text => ⟨count_simplified text, simplify_spares isMark marks_spared text⟩, ?_⟩
  intro s now q bound free
  obtain ⟨text, params⟩ := prepare_made s.statements (simplify q.text) q.params now free
  have complete : (s.prepare now q).1.Complete := by
    rw [Statement.Complete, show (s.prepare now q).1.text = _ from text, show (s.prepare now q).1.params = _ from params,
      count_simplified]
    exact bound
  refine ⟨text, params, complete, prepare_found s.statements (simplify q.text) q.params now, ?_⟩
  intro before known member
  rcases prepare_others s.statements (simplify q.text) q.params now known member with rfl | there
  · exact complete
  · exact before known there

theorem quoted_mark_prepared :
    let known : Statement :=
      { id := Statement.idOf "WHERE a = '?' AND b = ?", text := "WHERE a = '?' AND b = ?", params := [.integer 1]
        createdAt := 5, useCount := 1 }
    let q : Query := ⟨" WHERE 1=1  AND a = '?' AND\tb = ? AND 1=1", [.integer 2]⟩
    simplify q.text = known.text ∧
      (({ statements := [known] } : Searcher).prepare 9 q).1 = { known with params := [.integer 2], useCount := 2 } ∧
      (({ statements := [known] } : Searcher).prepare 9 q).1.Complete := by
  intro known q
  have same : simplify q.text = known.text := by decide +kernel
  have free : Statements.Free [known] (simplify q.text) := by
    intro other member _
    rw [List.mem_singleton.mp member, same]
  have prepared := placeholders_simplified.2 { statements := [known] } 9 q (by decide +kernel) free
  refine ⟨same, ?_, prepared.2.2.1⟩
  have found : Statements.find? [known] (Statement.idOf (simplify q.text)) = some known := by
    rw [same]
    exact List.find?_cons_of_pos (beq_self_eq_true _)
  exact congrArg Prod.fst (prepare_known [known] (simplify q.text) q.params 9 known found)

def collidingEqual : Query :=
  { text := "SELECT faculty.* FROM faculty WHERE faculty.yearofthefirstregistricecdanmhkphajlc = ?", params := [.integer 1] }

def collidingBetween : Query :=
  { text := "SELECT faculty.* FROM faculty WHERE faculty.yearofthefirstregistrmlpenkjplodhplif BETWEEN ? AND ?"
    params := [.integer 0, .integer 1] }

theorem colliding_simplest : simplify collidingEqual.text = collidingEqual.text ∧
    simplify collidingBetween.text = collidingBetween.text :=
  ⟨(simplify_of_list _).trans (congrArg String.ofList (by decide +kernel)),
    (simplify_of_list _).trans (congrArg String.ofList (by decide +kernel))⟩

theorem colliding_text_prepared :
    collidingBetween.placeholders = collidingBetween.params.length ∧
      collidingEqual.placeholders = collidingEqual.params.length ∧
      ((({} : Searcher).prepare 0 collidingEqual).2.prepare 0 collidingBetween).1.text = collidingEqual.text ∧
      ((({} : Searcher).prepare 0 collidingEqual).2.prepare 0 collidingBetween).1.params = collidingBetween.params ∧
      ¬ ((({} : Searcher).prepare 0 collidingEqual).2.prepare 0 collidingBetween).1.Complete := by
  have ids : Statement.idOf (simplify collidingEqual.text) = Statement.idOf (simplify collidingBetween.text) := by
    rw [colliding_simplest.1, colliding_simplest.2]
    decide +kernel
  have text : (({} : Searcher).prepare 0 collidingEqual).1.text = collidingEqual.text :=
    (prepare_made [] _ _ 0 fun _ none_ => absurd none_ List.not_mem_nil).1.trans colliding_simplest.1
  have bound : collidingBetween.placeholders = 2 ∧ collidingEqual.placeholders = 1 :=
    ⟨(congrArg (Query.countFrom none) String.toList_ofList).trans (by decide +kernel),
      (congrArg (Query.countFrom none) String.toList_ofList).trans (by decide +kernel)⟩
  have one : Query.countFrom none (({} : Searcher).prepare 0 collidingEqual).1.text.toList = 1 := by
    rw [text]
    exact bound.2
  rw [prepare_collides {} 0 0 _ _ ids]
  exact ⟨bound.1, bound.2, text, rfl, fun complete => absurd (one.symm.trans complete) (by simp [collidingBetween])⟩

end ArchiveSearch

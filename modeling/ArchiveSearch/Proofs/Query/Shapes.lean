import ArchiveSearch.Proofs.Query.Trees
import ArchiveSearch.Proofs.Text.Trimming

/- Filters of the same shape, and trees of the same form. They differ in values alone: in texts, days, bounds, flags and
   whatever else is compared with a column. What they compile to differs in the values that are bound, and not in the text;
   and where one has no query, the other has none for the same reason. -/
namespace ArchiveSearch

set_option autoImplicit false

structure TextFilter.SameShape (f g : TextFilter) : Prop where
  field : f.field = g.field
  matching : f.matching = g.matching
  blank : f.matching ≠ .equals → Text.isAllBlank f.value = Text.isAllBlank g.value

def bothPresent (bounds : Option Date × Option Date) : Bool × Bool :=
  (bounds.1.isSome, bounds.2.isSome)

structure DateFilter.SameShape (today today' : Date) (f g : DateFilter) : Prop where
  field : f.field = g.field
  bounds : (Filter.dateBounds today f).map bothPresent = (Filter.dateBounds today' g).map bothPresent

structure CustomFilter.SameShape (f g : CustomFilter) : Prop where
  field : f.field = g.field
  comparison : f.comparison = g.comparison

structure Filter.SameShape (today today' : Date) (f g : Filter) : Prop where
  contentType : f.contentType = g.contentType
  connective : f.connective = g.connective
  texts : List.Forall₂ TextFilter.SameShape f.texts g.texts
  dates : List.Forall₂ (DateFilter.SameShape today today') f.dates g.dates
  ranges : List.Forall₂ (fun r s => r.field = s.field) f.ranges g.ranges
  booleans : List.Forall₂ (fun b c => b.field = c.field) f.booleans g.booleans
  customs : List.Forall₂ CustomFilter.SameShape f.customs g.customs

inductive FilterTree.SameForm (today today' : Date) : FilterTree → FilterTree → Prop
  | leaf {id id' : Option String} {filter filter' : Filter} (same : filter.SameShape today today' filter') :
      SameForm today today' (.leaf id filter) (.leaf id' filter')
  | operator {id id' : Option String} {connective : Connective} {children children' : List FilterTree}
      (same : List.Forall₂ (SameForm today today') children children') :
      SameForm today today' (.operator id connective children) (.operator id' connective children')
  | group {id id' : Option String} {children children' : List FilterTree}
      (same : List.Forall₂ (SameForm today today') children children') :
      SameForm today today' (.group id children) (.group id' children')

def Clause.SameText (c d : Clause) : Prop :=
  ∀ table, c.text table = d.text table

structure Parts.SameText (p q : Parts) : Prop where
  contentType : p.contentType = q.contentType
  connective : p.connective = q.connective
  terms : p.terms.length = q.terms.length
  clauses : List.Forall₂ Clause.SameText p.clauses q.clauses

namespace Parts

variable {p q : Parts} (same : p.SameText q)

include same

theorem SameText.table_eq : p.table = q.table :=
  congrArg ContentType.table same.contentType

theorem SameText.expressions : (p.matchExpression = none ∧ q.matchExpression = none) ∨
    ∃ e f, p.matchExpression = some e ∧ q.matchExpression = some f := by
  have terms := same.terms
  unfold matchExpression FullText.join?
  cases here : p.terms with
  | nil =>
      rw [here] at terms
      rw [List.length_eq_zero_iff.1 terms.symm]
      exact .inl ⟨rfl, rfl⟩
  | cons term rest =>
      cases there : q.terms with
      | nil =>
          rw [here, there] at terms
          cases terms
      | cons _ _ => exact .inr ⟨_, _, rfl, rfl⟩

theorem SameText.clause_texts_eq : p.clauseTexts = q.clauseTexts := by
  rw [clauseTexts, clauseTexts, same.table_eq, ← List.forall₂_eq_eq_eq, List.forall₂_map_left_iff,
    List.forall₂_map_right_iff]
  exact same.clauses.imp fun c d written => written q.table

theorem SameText.joined_eq : p.joined = q.joined := by
  funext conditions
  cases conditions with
  | nil => rfl
  | cons first rest => simp only [joined, same.connective]

theorem SameText.condition_text : p.condition.text = q.condition.text := by
  simp only [condition, same.clause_texts_eq, same.joined_eq, same.contentType, same.table_eq]
  obtain ⟨here, there⟩ | ⟨e, f, here, there⟩ := same.expressions
  · rw [here, there]
  · rw [here, there]
    rfl

theorem SameText.select_text : p.select.text = q.select.text := by
  simp only [select, same.clause_texts_eq, same.joined_eq, same.contentType, same.table_eq]
  obtain ⟨here, there⟩ | ⟨e, f, here, there⟩ := same.expressions
  · rw [here, there]
  · rw [here, there]

theorem SameText.count_text : p.count.text = q.count.text :=
  congrArg₂ (fun table text => "SELECT COUNT(*) AS count FROM " ++ table ++ " WHERE " ++ text) same.table_eq
    same.condition_text

end Parts

namespace Filter

variable {today today' : Date}

theorem term_is_some (column : String) (f : TextFilter) (loose : f.matching ≠ .equals) :
    (FullText.term? column f.value f.matching).isSome = !Text.isAllBlank f.value := by
  simp only [FullText.term?, Text.lower_trim_is_empty]
  cases blank : Text.isAllBlank f.value with
  | true => rfl
  | false =>
      cases matching : f.matching with
      | equals => exact absurd matching loose
      | _ => rfl

theorem text_part_alike (f g : TextFilter) (same : f.SameShape g) :
    EndsAlike (fun a b => Option.Rel (fun _ _ => True) a.1 b.1 ∧ Option.Rel Clause.SameText a.2 b.2)
      (textPart f) (textPart g) := by
  unfold textPart
  rw [same.field]
  refine EndsAlike.bind_same _ fun column => ?_
  by_cases exact_ : f.matching = .equals
  · rw [if_pos exact_, if_pos (same.matching ▸ exact_)]
    exact .ok ⟨.none, .some fun table => rfl⟩
  · have loose : g.matching ≠ .equals := same.matching ▸ exact_
    rw [if_neg exact_, if_neg loose]
    refine .ok ⟨?_, .none⟩
    have present := term_is_some column f exact_
    rw [same.blank exact_, ← term_is_some column g loose] at present
    cases here : FullText.term? column f.value f.matching <;>
      cases there : FullText.term? column g.value g.matching <;> rw [here, there] at present
    · exact .none
    · cases present
    · cases present
    · exact .some trivial

theorem date_clause_alike (f g : DateFilter) (same : f.SameShape today today' g) :
    EndsAlike (Option.Rel Clause.SameText) (dateClause today f) (dateClause today' g) := by
  unfold dateClause
  rw [same.field]
  refine EndsAlike.bind_same _ fun column => ?_
  refine (EndsAlike.of_map _ _ _ _ same.bounds).bind fun bounds bounds' present => ?_
  obtain ⟨first, last⟩ := bounds
  obtain ⟨first', last'⟩ := bounds'
  cases first <;> cases last <;> cases first' <;> cases last' <;> cases present
  · exact .ok .none
  · exact .ok (.some fun table => rfl)
  · exact .ok (.some fun table => rfl)
  · exact .ok (.some fun table => rfl)

theorem range_clause_alike (r s : RangeFilter) (same : r.field = s.field) :
    EndsAlike Clause.SameText (rangeClause r) (rangeClause s) := by
  unfold rangeClause
  rw [same]
  exact EndsAlike.bind_same _ fun column => .ok fun table => rfl

theorem boolean_clause_alike (b c : BooleanFilter) (same : b.field = c.field) :
    EndsAlike Clause.SameText (booleanClause b) (booleanClause c) := by
  unfold booleanClause
  rw [same]
  exact EndsAlike.bind_same _ fun column => .ok fun table => rfl

theorem custom_clause_alike (f g : CustomFilter) (same : f.SameShape g) :
    EndsAlike Clause.SameText (customClause f) (customClause g) := by
  unfold customClause
  rw [same.field, same.comparison]
  exact EndsAlike.bind_same _ fun column => .ok fun table => rfl

theorem parts_alike (f g : Filter) (same : f.SameShape today today' g) :
    EndsAlike Parts.SameText (f.parts today) (g.parts today') := by
  refine (EndsAlike.map_each same.texts text_part_alike).bind fun texts texts' alikeTexts => ?_
  refine (EndsAlike.map_each same.dates date_clause_alike).bind fun dates dates' alikeDates => ?_
  refine (EndsAlike.map_each same.ranges range_clause_alike).bind fun ranges ranges' alikeRanges => ?_
  refine (EndsAlike.map_each same.booleans boolean_clause_alike).bind fun booleans booleans' alikeBooleans => ?_
  refine (EndsAlike.map_each same.customs custom_clause_alike).bind fun customs customs' alikeCustoms => ?_
  have terms : List.Forall₂ (fun _ _ => True) (texts.filterMap (·.1)) (texts'.filterMap (·.1)) :=
    List.rel_filterMap (fun a b related => related.1) alikeTexts
  have exact_ : List.Forall₂ Clause.SameText (texts.filterMap (·.2)) (texts'.filterMap (·.2)) :=
    List.rel_filterMap (fun a b related => related.2) alikeTexts
  have windows : List.Forall₂ Clause.SameText (dates.filterMap id) (dates'.filterMap id) :=
    List.rel_filterMap (fun a b related => related) alikeDates
  exact .ok ⟨same.contentType, same.connective, terms.length_eq,
    List.rel_append (List.rel_append (List.rel_append (List.rel_append exact_ windows) alikeRanges) alikeBooleans)
      alikeCustoms⟩

end Filter

namespace Condition

theorem join_text (connective : Connective) (children others : List Condition)
    (same : (constraining children).map Query.text = (constraining others).map Query.text) :
    (Condition.join connective children).query.text = (Condition.join connective others).query.text := by
  have wrapped : ∀ qs : List Query,
      qs.map (fun q => "(" ++ q.text ++ ")") = (qs.map Query.text).map fun text => "(" ++ text ++ ")" := fun qs => by
    rw [List.map_map]
    rfl
  rw [query, query]
  cases here : constraining children with
  | nil =>
      rw [here, List.map_nil, eq_comm, List.map_eq_nil_iff] at same
      rw [same]
  | cons q qs =>
      cases there : constraining others with
      | nil =>
          rw [here, there] at same
          cases same
      | cons r rs =>
          rw [here, there] at same
          simp only [wrapped, same]

theorem constraining_text (c d : Condition) (cs ds : List Condition) (first : c.query.text = d.query.text)
    (rest : (constraining cs).map Query.text = (constraining ds).map Query.text) :
    (constraining (c :: cs)).map Query.text = (constraining (d :: ds)).map Query.text := by
  have nothing : c.query.isAlwaysTrue = d.query.isAlwaysTrue := by rw [Query.isAlwaysTrue, first, Query.isAlwaysTrue]
  rw [constraining, constraining, nothing]
  by_cases trivial_ : d.query.isAlwaysTrue = true
  · rw [if_pos trivial_, if_pos trivial_, rest]
  · rw [if_neg trivial_, if_neg trivial_, List.map_cons, List.map_cons, first, rest]

end Condition

namespace FilterTree

variable {today today' : Date}

def SameCondition (c d : Condition × Option ContentType) : Prop :=
  c.1.query.text = d.1.query.text ∧ c.2 = d.2

def SameConditions (cs ds : List Condition × Option ContentType) : Prop :=
  (Condition.constraining cs.1).map Query.text = (Condition.constraining ds.1).map Query.text ∧ cs.2 = ds.2

theorem leaf_alike (expected : Option ContentType) (id id' : Option String) (f g : Filter)
    (same : f.SameShape today today' g) :
    EndsAlike SameCondition (conditionFrom today expected (.leaf id f))
      (conditionFrom today' expected (.leaf id' g)) := by
  have parts := Filter.parts_alike f g same
  have leaf : ∀ (contentType : Option ContentType) (p q : Parts), p.SameText q →
      SameCondition (.leaf p, contentType) (.leaf q, contentType) := fun _ p q alike => ⟨alike.condition_text, rfl⟩
  cases expected with
  | none =>
      rw [conditionFrom, conditionFrom, same.contentType]
      exact parts.map _ _ (leaf _)
  | some other =>
      rw [conditionFrom, conditionFrom, same.contentType]
      by_cases fits : other = g.contentType
      · rw [if_pos fits, if_pos fits]
        exact parts.map _ _ (leaf _)
      · rw [if_neg fits, if_neg fits]
        exact .error _

mutual
theorem condition_alike (expected : Option ContentType) (t u : FilterTree) (same : t.SameForm today today' u) :
    EndsAlike SameCondition (t.conditionFrom today expected) (u.conditionFrom today' expected) := by
  cases t with
  | leaf id f =>
      cases same with
      | leaf shape => exact leaf_alike expected id _ f _ shape
  | operator id connective children =>
      cases same with
      | operator all =>
          rw [condition_from_operator_eq, condition_from_operator_eq]
          exact (conditions_alike expected children _ all).map _ _ fun cs ds alike =>
            ⟨Condition.join_text connective cs.1 ds.1 alike.1, alike.2⟩
  | group id children =>
      cases same with
      | group all =>
          rw [condition_from_group_eq, condition_from_group_eq]
          exact (conditions_alike expected children _ all).map _ _ fun cs ds alike =>
            ⟨Condition.join_text .and cs.1 ds.1 alike.1, alike.2⟩
theorem conditions_alike (expected : Option ContentType) (ts us : List FilterTree)
    (same : List.Forall₂ (SameForm today today') ts us) :
    EndsAlike SameConditions (conditionsFrom today expected ts) (conditionsFrom today' expected us) := by
  cases ts with
  | nil =>
      cases same
      exact .ok ⟨rfl, rfl⟩
  | cons t ts =>
      cases same with
      | cons first rest =>
          rw [conditions_from_cons_eq, conditions_from_cons_eq]
          refine (condition_alike expected t _ first).bind fun c d alike => ?_
          rw [alike.2]
          exact (conditions_alike d.2 ts _ rest).map _ _ fun cs ds others =>
            ⟨Condition.constraining_text c.1 d.1 cs.1 ds.1 alike.1 others.1, others.2⟩
end

end FilterTree

end ArchiveSearch

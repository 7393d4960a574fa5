import ArchiveSearch.Proofs.Query.Comparisons
import ArchiveSearch.Proofs.Query.Constraining
import ArchiveSearch.Proofs.Query.Trees
import ArchiveSearch.Proofs.Simplify.Tidy

/- Simplifying leaves the queries of filters as they are, and takes nothing but parentheses out of the queries of trees:
   what is compiled is tidy, and only the joins of a tree open a parenthesis right behind another. -/
namespace ArchiveSearch

set_option autoImplicit false

open Simplify

def Leads (deep : Bool) (e last : Edge) (text : String) : Prop :=
  reads deep e text.toList = some last

theorem Leads.append {deep : Bool} {e m last : Edge} {a b : String} (first : Leads deep e m a)
    (second : Leads deep m last b) : Leads deep e last (a ++ b) := by
  rw [Leads, String.toList_append]
  exact (reads_append_some deep e last _ _).mpr ⟨m, first, second⟩

theorem leads_text {deep : Bool} {e last : Edge} (cs : List Char) (read : reads deep e cs = some last) :
    Leads deep e last (String.ofList cs) := by
  rw [Leads, String.toList_ofList]
  exact read

def Admits (deep : Bool) (e : Edge) : Prop :=
  e = .start ∨ e = .gap ∨ e = .opening ∧ deep = true

-- A text that may stand wherever a condition may, and ends with something solid. Its parentheses match.
structure Neat (deep : Bool) (text : String) : Prop where
  leads : ∀ e, Admits deep e → Leads deep e .solid text
  matched : Matched text.toList

def isOrdinary (c : Char) : Bool :=
  c != '(' && c != ')' && c != '\'' && c != '"'

theorem ordinary_matched (cs : List Char) (plain : cs.all isOrdinary = true) : Matched (String.ofList cs).toList := by
  rw [String.toList_ofList]
  refine matched_flat _ fun c member => ?_
  have here := List.all_eq_true.mp plain c member
  simp only [isOrdinary, Bool.and_eq_true, bne_iff_ne] at here
  exact ⟨here.1.1, here.1.2, here.2⟩

theorem matched_append (a b : String) (first : Matched a.toList) (second : Matched b.toList) : Matched (a ++ b).toList := by
  rw [String.toList_append]
  exact first.append _ _ second

theorem matched_wrap (a : String) (inner : Matched a.toList) : Matched ("(" ++ a ++ ")").toList := by
  rw [String.toList_append, String.toList_append]
  exact inner.wrap

section Pieces

variable (deep : Bool) (contentType : ContentType)

theorem table_leads (e : Edge) (free : e ≠ .sign) : Leads deep e .solid contentType.table := by
  cases contentType <;> cases e <;> first | exact absurd rfl free | exact leads_text _ rfl

theorem full_text_leads (e : Edge) (free : e ≠ .sign) : Leads deep e .solid contentType.fullTextTable :=
  (table_leads deep contentType e free).append (leads_text _ rfl)

theorem table_matched : Matched contentType.table.toList := by
  cases contentType <;> exact ordinary_matched _ rfl

theorem full_text_matched : Matched contentType.fullTextTable.toList :=
  matched_append _ _ (table_matched contentType) (ordinary_matched _ rfl)

theorem admits_free (e : Edge) (admits : Admits deep e) : e ≠ .sign := by
  rintro rfl
  rcases admits with same | same | ⟨same, -⟩ <;> cases same

theorem opening_leads (e : Edge) (admits : Admits deep e) : Leads deep e .opening "(" := by
  rcases admits with rfl | rfl | ⟨rfl, rfl⟩ <;> exact leads_text _ rfl

theorem lower_leads (e : Edge) (admits : Admits deep e) : Leads deep e .opening "LOWER(" := by
  rcases admits with rfl | rfl | ⟨rfl, rfl⟩ <;> exact leads_text _ rfl

theorem connective_leads (connective : Connective) : Leads deep .solid .gap (" " ++ connective.name ++ " ") := by
  cases connective <;> rfl

theorem comparison_leads (comparison : Comparison) : Leads deep .solid .solid (" " ++ comparison.name ++ " ?") := by
  cases comparison <;> rfl

theorem spaced_matched (text last : String) (plain : Matched text.toList) (ends : Matched last.toList) :
    Matched (" " ++ text ++ last).toList :=
  matched_append _ _ (matched_append _ _ (ordinary_matched _ rfl) plain) ends

theorem column_next (c : Char) (plain : Column.isColumnChar c = true) : Edge.next deep .solid c = some .solid := by
  have other : ∀ d, Column.isColumnChar d = false → c ≠ d := by
    rintro d none_ rfl
    rw [plain] at none_
    cases none_
  have solid := (column_char_letter c plain).2
  have unquoted : Query.quoteAfter none c = none := by
    simp [Query.quoteAfter, other '\'' (by decide), other '"' (by decide)]
  simp [Edge.next, solid, unquoted, other ' ' (by decide), other '(' (by decide), other ')' (by decide),
    other '=' (by decide)]

theorem column_leads (cs : List Char) (chars : ∀ c ∈ cs, Column.isColumnChar c = true) :
    reads deep .solid cs = some .solid := by
  induction cs with
  | nil => rfl
  | cons c rest ih =>
      obtain ⟨here, later⟩ := List.forall_mem_cons.mp chars
      exact (reads_cons_some deep _ _ c rest).mpr ⟨.solid, column_next deep c here, ih later⟩

structure Word (deep : Bool) (name : String) : Prop where
  leads : ∀ e, e ≠ .sign → Leads deep e .solid name
  matched : Matched name.toList

theorem name_word (field column : String) (named : Column.ofField? field = some column) :
    Word deep (contentType.table ++ "." ++ column) := by
  have chars := Column.of_field_chars field column named
  constructor
  · intro e free
    have dot : Leads deep .solid .solid "." := leads_text _ rfl
    exact ((table_leads deep contentType e free).append dot).append (column_leads deep column.toList chars)
  · refine matched_append _ _ (matched_append _ _ (table_matched contentType) (ordinary_matched _ rfl))
      (matched_flat _ fun c member => ?_)
    have other : ∀ d, Column.isColumnChar d = false → c ≠ d := by
      rintro d none_ rfl
      rw [chars c member] at none_
      cases none_
    exact ⟨⟨other '(' (by decide), other ')' (by decide)⟩, other '\'' (by decide), other '"' (by decide)⟩

section Tests

variable (name : String) (word : Word deep name)

include word

theorem lowered_neat : Neat deep ("LOWER(" ++ name ++ ") = LOWER(?)") := by
  constructor
  · intro e admits
    exact ((lower_leads deep e admits).append (word.leads .opening nofun)).append (leads_text _ rfl)
  · have pieces : "LOWER(" ++ name ++ ") = LOWER(?)" =
        "LOWER" ++ ("(" ++ name ++ ")") ++ " = LOWER" ++ ("(" ++ "?" ++ ")") := by
      rw [show "LOWER(" = "LOWER" ++ "(" from rfl,
        show ") = LOWER(?)" = ")" ++ (" = LOWER" ++ ("(" ++ "?" ++ ")")) from rfl]
      simp only [String.append_assoc]
    rw [pieces]
    exact matched_append _ _ (matched_append _ _ (matched_append _ _ (ordinary_matched _ rfl)
      (matched_wrap _ word.matched)) (ordinary_matched _ rfl)) (matched_wrap "?" (ordinary_matched _ rfl))

theorem window_neat : Neat deep ("(" ++ name ++ " >= ? AND " ++ name ++ " <= ?)") := by
  constructor
  · intro e admits
    have between : Leads deep .solid .gap " >= ? AND " := leads_text _ rfl
    have lower := (opening_leads deep e admits).append (word.leads .opening nofun)
    exact ((lower.append between).append (word.leads .gap nofun)).append (leads_text _ rfl)
  · have pieces : "(" ++ name ++ " >= ? AND " ++ name ++ " <= ?)" =
        "(" ++ (name ++ " >= ? AND " ++ name ++ " <= ?") ++ ")" := by
      rw [show " <= ?)" = " <= ?" ++ ")" from rfl]
      simp only [String.append_assoc]
    rw [pieces]
    exact matched_wrap _ (matched_append _ _ (matched_append _ _ (matched_append _ _ word.matched
      (ordinary_matched _ rfl)) word.matched) (ordinary_matched _ rfl))

theorem tested_neat (test : String) (more : Leads deep .solid .solid test) (plain : Matched test.toList) :
    Neat deep (name ++ test) :=
  ⟨fun e admits => (word.leads e (admits_free deep e admits)).append more, matched_append _ test word.matched plain⟩

end Tests

theorem clause_neat (clause : Clause) (field : String) (named : Column.ofField? field = some clause.column) :
    Neat deep (clause.text contentType.table) := by
  have word := name_word deep contentType field clause.column named
  unfold Clause.text
  cases clause.test with
  | sameText value => exact lowered_neat deep _ word
  | within first last => exact window_neat deep _ word
  | since first => exact tested_neat deep _ word " >= ?" (leads_text _ rfl) (ordinary_matched _ rfl)
  | upTo last => exact tested_neat deep _ word " <= ?" (leads_text _ rfl) (ordinary_matched _ rfl)
  | between least most => exact tested_neat deep _ word " BETWEEN ? AND ?" (leads_text _ rfl) (ordinary_matched _ rfl)
  | flag value => exact tested_neat deep _ word " = ?" (leads_text _ rfl) (ordinary_matched _ rfl)
  | compare comparison value =>
      have compared := tested_neat deep _ word (" " ++ comparison.name ++ " ?") (comparison_leads deep comparison)
        (spaced_matched _ _ (by cases comparison <;> exact ordinary_matched _ rfl) (ordinary_matched _ rfl))
      simpa only [String.append_assoc] using compared

theorem membership_neat :
    Neat deep (contentType.table ++ ".rowid IN (SELECT rowid FROM " ++ contentType.fullTextTable ++ " WHERE " ++
      contentType.fullTextTable ++ " MATCH ?)") := by
  constructor
  · intro e admits
    have rows : Leads deep .solid .gap ".rowid IN (SELECT rowid FROM " := leads_text _ rfl
    have asking : Leads deep .solid .gap " WHERE " := leads_text _ rfl
    have fullText := full_text_leads deep contentType .gap nofun
    have opened := (table_leads deep contentType e (admits_free deep e admits)).append rows
    exact (((opened.append fullText).append asking).append fullText).append (leads_text _ rfl)
  · have pieces : contentType.table ++ ".rowid IN (SELECT rowid FROM " ++ contentType.fullTextTable ++ " WHERE " ++
        contentType.fullTextTable ++ " MATCH ?)" =
        contentType.table ++ ".rowid IN " ++ ("(" ++ ("SELECT rowid FROM " ++ contentType.fullTextTable ++ " WHERE " ++
          contentType.fullTextTable ++ " MATCH ?") ++ ")") := by
      rw [show ".rowid IN (SELECT rowid FROM " = ".rowid IN " ++ ("(" ++ "SELECT rowid FROM ") from rfl,
        show " MATCH ?)" = " MATCH ?" ++ ")" from rfl]
      simp only [String.append_assoc]
    have fullText := full_text_matched contentType
    have query : Matched ("SELECT rowid FROM " ++ contentType.fullTextTable ++ " WHERE " ++ contentType.fullTextTable ++
        " MATCH ?").toList :=
      matched_append _ _ (matched_append _ _ (matched_append _ _ (matched_append _ _ (ordinary_matched _ rfl) fullText)
        (ordinary_matched _ rfl)) fullText) (ordinary_matched _ rfl)
    rw [pieces]
    exact matched_append _ _ (matched_append _ _ (table_matched contentType) (ordinary_matched _ rfl)) (matched_wrap _ query)

theorem hits_leads (e : Edge) (free : e ≠ .sign) : Leads deep e .solid (contentType.fullTextTable ++ "_hits") :=
  (full_text_leads deep contentType e free).append (leads_text _ rfl)

theorem found_neat : Neat deep (contentType.fullTextTable ++ "_hits" ++ ".fts_rowid IS NOT NULL") := by
  refine ⟨fun e admits => (hits_leads deep contentType e (admits_free deep e admits)).append (leads_text _ rfl), ?_⟩
  exact matched_append _ _ (matched_append _ _ (full_text_matched contentType) (ordinary_matched _ rfl))
    (ordinary_matched _ rfl)

theorem intercalate_neat (connective : Connective) (first : String) (rest : List String)
    (each : ∀ text ∈ first :: rest, Neat deep text) :
    Neat deep ((" " ++ connective.name ++ " ").intercalate (first :: rest)) := by
  induction rest generalizing first with
  | nil =>
      rw [String.intercalate_singleton]
      exact each first List.mem_cons_self
  | cons second rest ih =>
      obtain ⟨here, later⟩ := List.forall_mem_cons.mp each
      have behind := ih second later
      rw [String.intercalate_cons_cons]
      constructor
      · intro e admits
        have joined := (here.leads e admits).append (connective_leads deep connective)
        exact joined.append (behind.leads .gap (.inr (.inl rfl)))
      · have between : Matched (" " ++ connective.name ++ " ").toList :=
          spaced_matched _ _ (by cases connective <;> exact ordinary_matched _ rfl) (ordinary_matched _ rfl)
        exact matched_append _ _ (matched_append _ _ here.matched between) behind.matched

end Pieces

theorem everything_selected (contentType : ContentType) :
    simplify ("SELECT " ++ contentType.table ++ ".* FROM " ++ contentType.table ++ " WHERE " ++ alwaysTrue) =
      "SELECT " ++ contentType.table ++ ".* FROM " ++ contentType.table ++ " WHERE " ++ alwaysTrue := by
  cases contentType <;> decide +kernel

namespace Parts

variable (p : Parts) (named : p.Named)

include named

theorem clause_texts_neat (deep : Bool) : ∀ text ∈ p.clauseTexts, Neat deep text := by
  intro text member
  obtain ⟨clause, inside, rfl⟩ := List.mem_map.mp member
  obtain ⟨field, column⟩ := named clause inside
  exact clause_neat deep p.contentType clause field column

theorem condition_neat (deep : Bool) (asks : p.constrains = true) : Neat deep p.condition.text := by
  have clauses := p.clause_texts_neat named deep
  cases expression : p.matchExpression with
  | some e =>
      simp only [condition, expression, Option.map_some, Option.toList_some, List.singleton_append, joined]
      exact intercalate_neat deep p.connective _ _
        (List.forall_mem_cons.mpr ⟨membership_neat deep p.contentType, clauses⟩)
  | none =>
      have some_clause : p.clauses ≠ [] := by
        intro none_
        have nothing := (constrains_false_iff p).mpr ⟨expression, none_⟩
        rw [asks] at nothing
        cases nothing
      obtain ⟨clause, rest, split⟩ := List.exists_cons_of_ne_nil some_clause
      rw [clauseTexts, split, List.map_cons] at clauses
      simp only [condition, expression, Option.map_none, Option.toList_none, List.nil_append, clauseTexts, split,
        List.map_cons, joined]
      exact intercalate_neat deep p.connective _ _ clauses

theorem condition_simplified : simplify p.condition.text = p.condition.text := by
  cases asks : p.constrains with
  | true => exact simplify_flat _ ((p.condition_neat named false asks).leads .start (.inl rfl))
  | false =>
      rw [p.condition_of_nothing asks]
      decide +kernel

theorem count_simplified : simplify p.count.text = p.count.text := by
  have text : p.count.text = "SELECT COUNT(*) AS count FROM " ++ p.contentType.table ++ " WHERE " ++ p.condition.text :=
    rfl
  rw [text]
  cases asks : p.constrains with
  | true =>
      have counts : Leads false .start .gap "SELECT COUNT(*) AS count FROM " := leads_text _ rfl
      have asking : Leads false .solid .gap " WHERE " := leads_text _ rfl
      have head := (counts.append (table_leads false p.contentType .gap nofun)).append asking
      exact simplify_flat _ (head.append ((p.condition_neat named false asks).leads .gap (.inr (.inl rfl))))
  | false =>
      rw [p.condition_of_nothing asks]
      cases p.contentType <;> decide +kernel

theorem select_simplified : simplify p.select.text = p.select.text := by
  have clauses := p.clause_texts_neat named false
  have table := table_leads false p.contentType
  have fullText := full_text_leads false p.contentType
  have selects : Leads false .start .gap "SELECT " := leads_text _ rfl
  have asking : Leads false .solid .gap " WHERE " := leads_text _ rfl
  cases expression : p.matchExpression with
  | some e =>
      have hits := hits_leads false p.contentType
      have conditions := intercalate_neat false p.connective _ _
        (List.forall_mem_cons.mpr ⟨found_neat false p.contentType, clauses⟩)
      have all : Leads false .solid .gap ".*, " := leads_text _ rfl
      have relevance : Leads false .solid .gap ".relevance AS relevance FROM " := leads_text _ rfl
      have joins : Leads false .solid .opening " LEFT JOIN (SELECT rowid AS fts_rowid, bm25(" := leads_text _ rfl
      have ranked : Leads false .solid .gap ") AS relevance FROM " := leads_text _ rfl
      have matches_ : Leads false .solid .gap " MATCH ?) AS " := leads_text _ rfl
      have on_ : Leads false .solid .gap " ON " := leads_text _ rfl
      have row : Leads false .solid .gap ".fts_rowid = " := leads_text _ rfl
      have asking' : Leads false .solid .gap ".rowid WHERE " := leads_text _ rfl
      have order : Leads false .solid .solid " ORDER BY relevance IS NULL, relevance" := leads_text _ rfl
      have columns := (((selects.append (table .gap nofun)).append all).append (hits .gap nofun)).append relevance
      have source := (((columns.append (table .gap nofun)).append joins).append (fullText .opening nofun)).append ranked
      have found := (((source.append (fullText .gap nofun)).append asking).append (fullText .gap nofun)).append matches_
      have joined_ := (((found.append (hits .gap nofun)).append on_).append (hits .gap nofun)).append row
      have head := (joined_.append (table .gap nofun)).append asking'
      simp only [select, expression]
      exact simplify_flat _ ((head.append (conditions.leads .gap (.inr (.inl rfl)))).append order)
  | none =>
      have all : Leads false .solid .gap ".* FROM " := leads_text _ rfl
      have head := (((selects.append (table .gap nofun)).append all).append (table .gap nofun)).append asking
      simp only [select, expression]
      cases texts : p.clauseTexts with
      | nil => exact everything_selected p.contentType
      | cons first rest =>
          rw [texts] at clauses
          have conditions := intercalate_neat false p.connective first rest clauses
          exact simplify_flat _ (head.append (conditions.leads .gap (.inr (.inl rfl))))

end Parts

namespace Condition

mutual
theorem query_neat (c : Condition) (named : ∀ p ∈ c.leaves, p.Named) (asks : c.query.isAlwaysTrue = false) :
    Neat true c.query.text := by
  cases c with
  | leaf parts =>
      have constrains_ : parts.constrains = true := by
        rw [always_true_iff, constrains] at asks
        simpa using asks
      exact parts.condition_neat (named parts (by simp [leaves])) true constrains_
  | join connective children =>
      have each := constraining_neat children named
      rw [query] at asks ⊢
      cases found : constraining children with
      | nil =>
          simp only [found, everything_always_true] at asks
          cases asks
      | cons first rest =>
          rw [found] at each
          have wrapped : ∀ q ∈ first :: rest, Neat true ("(" ++ q.text ++ ")") := fun q inside =>
            ⟨fun e admits => ((opening_leads true e admits).append ((each q inside).leads .opening
              (.inr (.inr ⟨rfl, rfl⟩)))).append (leads_text _ rfl), matched_wrap _ (each q inside).matched⟩
          exact intercalate_neat true connective _ _
            (List.forall_mem_map (f := fun q : Query => "(" ++ q.text ++ ")").mpr wrapped)
theorem constraining_neat (children : List Condition) (named : ∀ p ∈ leavesAll children, p.Named) :
    ∀ q ∈ constraining children, Neat true q.text := by
  cases children with
  | nil => simp [constraining]
  | cons child rest =>
      have here := query_neat child fun p member => named p (List.mem_append_left _ member)
      have later := constraining_neat rest fun p member => named p (List.mem_append_right _ member)
      rw [constraining]
      by_cases always : child.query.isAlwaysTrue = true
      · rw [if_pos always]
        exact later
      · rw [if_neg always]
        exact List.forall_mem_cons.mpr ⟨here (by simpa using always), later⟩
end

theorem query_or_neat (c : Condition) (named : ∀ p ∈ c.leaves, p.Named) :
    c.query.text = alwaysTrue ∨ Neat true c.query.text := by
  cases asks : c.constrains with
  | true => exact .inr (c.query_neat named (by rw [always_true_iff, asks]; rfl))
  | false => exact .inl (by rw [query_of_nothing c asks]; rfl)

end Condition

theorem selected_unwrapped (contentType : ContentType) (text : String) (shape : text = alwaysTrue ∨ Neat true text) :
    Unwrapped ("SELECT " ++ contentType.table ++ ".* FROM " ++ contentType.table ++ " WHERE " ++ text).toList
      (simplify ("SELECT " ++ contentType.table ++ ".* FROM " ++ contentType.table ++ " WHERE " ++ text)).toList := by
  have flat : Matched ("SELECT " ++ contentType.table ++ ".* FROM " ++ contentType.table ++ " WHERE ").toList :=
    matched_append _ _ (matched_append _ _ (matched_append _ _ (matched_append _ _ (ordinary_matched _ rfl)
      (table_matched contentType)) (ordinary_matched _ rfl)) (table_matched contentType)) (ordinary_matched _ rfl)
  rcases shape with rfl | neat
  · exact simplify_untouched _ (everything_selected contentType) (matched_append _ _ flat (ordinary_matched _ rfl))
  · have selects : Leads true .start .gap "SELECT " := leads_text _ rfl
    have all : Leads true .solid .gap ".* FROM " := leads_text _ rfl
    have asking : Leads true .solid .gap " WHERE " := leads_text _ rfl
    have table := table_leads true contentType .gap nofun
    have head := (((selects.append table).append all).append table).append asking
    exact simplify_nested _ ⟨head.append (neat.leads .gap (.inr (.inl rfl))), matched_append _ _ flat neat.matched⟩

theorem compiled_simplified (today : Date) :
    (∀ (filter : Filter) (q : Query),
      filter.compile today = .ok q ∨ filter.compileCount today = .ok q ∨ filter.compileCondition today = .ok q →
      simplify q.text = q.text) ∧
    ∀ (tree : FilterTree) (q : Query), tree.compileCondition today = .ok q ∨ tree.compile today = .ok q →
      Unwrapped q.text.toList (simplify q.text).toList := by
  constructor
  · rintro filter q (select_ | count_ | condition_)
    · obtain ⟨p, made, rfl⟩ := (map_ok_iff _ _ _).mp select_
      exact p.select_simplified (filter.parts_named today p made)
    · obtain ⟨p, made, rfl⟩ := (map_ok_iff _ _ _).mp count_
      exact p.count_simplified (filter.parts_named today p made)
    · obtain ⟨p, made, rfl⟩ := (map_ok_iff _ _ _).mp condition_
      exact p.condition_simplified (filter.parts_named today p made)
  · rintro tree q (condition_ | select_)
    · obtain ⟨⟨c, found⟩, made, rfl⟩ := (map_ok_iff _ _ _).mp condition_
      rcases c.query_or_neat (FilterTree.leaves_named today none found tree c made) with always | neat
      · simp only [always]
        exact simplify_untouched _ (by decide +kernel) (ordinary_matched _ rfl)
      · exact simplify_nested _ ⟨neat.leads .start (.inl rfl), neat.matched⟩
    · obtain ⟨⟨c, found⟩, made, rfl⟩ := (map_ok_iff _ _ _).mp select_
      exact selected_unwrapped (found.getD .alumni) c.query.text
        (c.query_or_neat (FilterTree.leaves_named today none found tree c made))

def livingOnly : Filter :=
  (Filter.empty .alumni).withBoolean "deceased" false

def livingInGroups : FilterTree :=
  .group none [.operator none .or [.leaf none livingOnly]]

theorem living_in_groups_simplified :
    (∃ q, livingOnly.compile Date.epoch = .ok q ∧ simplify q.text = q.text) ∧
    ∃ q, livingInGroups.compileCondition Date.epoch = .ok q ∧ q.text = "((alumni.deceased = ?))" ∧
      simplify q.text = "(alumni.deceased = ?)" ∧ Unwrapped q.text.toList (simplify q.text).toList := by
  obtain ⟨flat, nested⟩ := compiled_simplified Date.epoch
  exact ⟨⟨_, rfl, flat livingOnly _ (.inl rfl)⟩, _, rfl, by decide +kernel, by decide +kernel,
    nested livingInGroups _ (.inl rfl)⟩

end ArchiveSearch

import ArchiveSearch.Proofs.Query.Constraining
import ArchiveSearch.Proofs.Query.Placeholders
import ArchiveSearch.Proofs.Query.Trees

/- Every compiled query is aligned: flat or out of a tree, as a condition, a query for records or a count, its
   placeholders stand in the clauses and match conditions that contribute its values, in the same order. -/
namespace ArchiveSearch

set_option autoImplicit false

theorem column_char_plain (c : Char) (plain : Column.isColumnChar c = true) :
    c ≠ '\'' ∧ c ≠ '"' ∧ c ≠ '?' := by
  refine ⟨?_, ?_, ?_⟩ <;> (rintro rfl; revert plain; decide)

theorem column_quiet (field column : String) (named : Column.ofField? field = some column) :
    Quiet column := by
  have plain := Column.of_field_chars field column named
  constructor
  · intro c member
    have apart := column_char_plain c (plain c member)
    exact ⟨apart.1, apart.2.1⟩
  · rw [marks, List.count_eq_zero]
    intro member
    exact (column_char_plain '?' (plain '?' member)).2.2 rfl

@[simp]
theorem table_quiet (contentType : ContentType) : Quiet contentType.table := by
  cases contentType <;> decide

@[simp]
theorem full_text_table_quiet (contentType : ContentType) : Quiet contentType.fullTextTable := by
  cases contentType <;> decide

theorem connective_quiet (connective : Connective) : Quiet (" " ++ connective.name ++ " ") := by
  cases connective <;> decide

theorem clause_sound (contentType : ContentType) (clause : Clause)
    (named : ∃ field, Column.ofField? field = some clause.column) :
    Passage.Sound ⟨clause.text contentType.table, clause.params⟩ := by
  obtain ⟨field, found⟩ := named
  obtain ⟨columnPlain, columnMarks⟩ := column_quiet field clause.column found
  obtain ⟨tablePlain, tableMarks⟩ := table_quiet contentType
  unfold Clause.text Clause.params
  cases clause.test with
  | compare comparison value =>
      cases comparison <;>
        simp +decide [Passage.Sound, Comparison.name, tablePlain, columnPlain, tableMarks, columnMarks]
  | sameText value => simp +decide [Passage.Sound, tablePlain, columnPlain, tableMarks, columnMarks]
  | within first last => simp +decide [Passage.Sound, tablePlain, columnPlain, tableMarks, columnMarks]
  | since first => simp +decide [Passage.Sound, tablePlain, columnPlain, tableMarks, columnMarks]
  | upTo last => simp +decide [Passage.Sound, tablePlain, columnPlain, tableMarks, columnMarks]
  | between least most => simp +decide [Passage.Sound, tablePlain, columnPlain, tableMarks, columnMarks]
  | flag value => simp +decide [Passage.Sound, tablePlain, columnPlain, tableMarks, columnMarks]

theorem clause_binds (clause : Clause) (text : String) :
    Passage.binds ⟨text, clause.params⟩ = true := by
  unfold Passage.binds Clause.params
  cases clause.test <;> rfl

namespace Parts

@[simp]
theorem table_quiet (p : Parts) : Quiet p.table :=
  ArchiveSearch.table_quiet p.contentType

def clauseQueries (p : Parts) : List Query :=
  p.clauses.map fun c => ⟨c.text p.table, c.params⟩

def clauseSources (p : Parts) : List Passage :=
  p.clauses.map fun c => ⟨c.text p.table, c.params⟩

theorem clauses_laid (p : Parts) (named : p.Named) :
    List.Forall₂ Laid p.clauseQueries (p.clauseSources.map fun source => [source]) := by
  rw [clauseQueries, clauseSources, List.map_map, List.forall₂_map_left_iff, List.forall₂_map_right_iff,
    List.forall₂_same]
  intro clause member
  exact laid_source _ (clause_sound p.contentType clause (named clause member)) (clause_binds clause _)

theorem joined_laid (p : Parts) (qs : List Query) (sources : List (List Passage))
    (each : List.Forall₂ Laid qs sources) :
    Laid ⟨p.joined (qs.map Query.text), qs.flatMap Query.params⟩ sources.flatten := by
  cases qs with
  | nil =>
      cases each
      exact laid_gap alwaysTrue (by decide)
  | cons q qs =>
      have all := laid_intercalate _ (connective_quiet p.connective) (q :: qs) sources each
      simpa only [List.map_cons, joined] using all

theorem match_laid (p : Parts) (e : String) (before after : String) (quietBefore : Quiet before)
    (quietAfter : Quiet after) :
    Laid ⟨before ++ (p.contentType.fullTextTable ++ " MATCH ?") ++ after, [.text e]⟩
      [⟨p.contentType.fullTextTable ++ " MATCH ?", [.text e]⟩] := by
  obtain ⟨plain, none_⟩ := full_text_table_quiet p.contentType
  have sound : Passage.Sound ⟨p.contentType.fullTextTable ++ " MATCH ?", [.text e]⟩ := by
    simp +decide [Passage.Sound, plain, none_]
  have source := laid_source _ sound rfl
  have all := laid_between before after _ _ source quietBefore quietAfter
  exact all

theorem sources_none (p : Parts) (expression : p.matchExpression = none) :
    p.sources = p.clauseSources := by
  simp [sources, expression, clauseSources]

theorem sources_some (p : Parts) (e : String) (expression : p.matchExpression = some e) :
    p.sources = ⟨p.contentType.fullTextTable ++ " MATCH ?", [.text e]⟩ :: p.clauseSources := by
  simp [sources, expression, clauseSources]

theorem singletons_flatten {α : Type} (xs : List α) : (xs.map fun x => [x]).flatten = xs := by
  induction xs with
  | nil => rfl
  | cons x xs ih => simp [ih]

theorem condition_laid (p : Parts) (named : p.Named) : Laid p.condition p.sources := by
  cases expression : p.matchExpression with
  | none =>
      have all := joined_laid p _ _ (clauses_laid p named)
      rw [sources_none p expression]
      simpa [condition, expression, params, clauseTexts, clauseQueries, List.flatMap_map, Function.comp_def,
        singletons_flatten] using all
  | some e =>
      have first := match_laid p e
        (p.table ++ ".rowid IN (SELECT rowid FROM " ++ p.contentType.fullTextTable ++ " WHERE ") ")"
        (by simp +decide) (by decide)
      have all := joined_laid p _ _ (.cons first (clauses_laid p named))
      rw [sources_some p e expression]
      simpa [condition, expression, params, clauseTexts, clauseQueries, List.flatMap_map, Function.comp_def,
        String.append_assoc, singletons_flatten] using all

theorem select_laid (p : Parts) (named : p.Named) : Laid p.select p.sources := by
  cases expression : p.matchExpression with
  | none =>
      have all := laid_between ("SELECT " ++ p.table ++ ".* FROM " ++ p.table ++ " WHERE ") "" _ _
        (joined_laid p _ _ (clauses_laid p named)) (by simp +decide) (by decide)
      rw [sources_none p expression]
      simpa [select, expression, params, clauseTexts, clauseQueries, List.flatMap_map, Function.comp_def,
        String.append_assoc, singletons_flatten] using all
  | some e =>
      let fullText := p.contentType.fullTextTable
      let hits := fullText ++ "_hits"
      have matched := match_laid p e
        ("SELECT " ++ p.table ++ ".*, " ++ hits ++ ".relevance AS relevance FROM " ++ p.table ++
          " LEFT JOIN (SELECT rowid AS fts_rowid, bm25(" ++ fullText ++ ") AS relevance FROM " ++
          fullText ++ " WHERE ")
        (") AS " ++ hits ++ " ON " ++ hits ++ ".fts_rowid = " ++ p.table ++ ".rowid WHERE ")
        (by simp +decide [hits, fullText]) (by simp +decide [hits, fullText])
      have found := laid_gap (hits ++ ".fts_rowid IS NOT NULL") (by simp +decide [hits, fullText])
      have conditions := laid_between "" " ORDER BY relevance IS NULL, relevance" _ _
        (joined_laid p _ _ (.cons found (clauses_laid p named))) (by decide) (by decide)
      have all := laid_append _ _ _ _ matched conditions
      have parenthesis : " MATCH ?) AS " = " MATCH ?" ++ ") AS " := by decide
      rw [sources_some p e expression]
      simpa [select, expression, params, clauseTexts, clauseQueries, List.flatMap_map, Function.comp_def,
        String.append_assoc, singletons_flatten, hits, fullText, parenthesis, -String.reduceAppend] using all

theorem count_laid (p : Parts) (named : p.Named) : Laid p.count p.sources :=
  laid_after ("SELECT COUNT(*) AS count FROM " ++ p.table ++ " WHERE ") p.condition p.sources
    (by simp +decide) (condition_laid p named)

theorem nothing_sources (p : Parts) (asks : p.constrains = false) : p.sources = [] := by
  obtain ⟨expression, clauses⟩ := (constrains_false_iff p).mp asks
  simp [sources, expression, clauses]

theorem match_value_first (p : Parts) (e : String) (expression : p.matchExpression = some e) :
    p.params[0]? = some (.text e) := by
  simp [params, expression]

theorem sources_params (p : Parts) : p.sources.flatMap Passage.params = p.params := by
  unfold sources params
  cases p.matchExpression <;> simp [List.flatMap_map]

end Parts

namespace Condition

mutual
theorem nothing_leaves (c : Condition) (asks : c.constrains = false) :
    c.leaves.flatMap Parts.sources = [] := by
  cases c with
  | leaf parts => simpa [leaves] using parts.nothing_sources (by simpa [constrains] using asks)
  | join connective children => exact nothing_leaves_all children (by simpa [constrains] using asks)
theorem nothing_leaves_all (children : List Condition) (asks : anyConstrains children = false) :
    (leavesAll children).flatMap Parts.sources = [] := by
  cases children with
  | nil => rfl
  | cons child rest =>
      rw [anyConstrains, Bool.or_eq_false_iff] at asks
      rw [leavesAll, List.flatMap_append, nothing_leaves child asks.1, nothing_leaves_all rest asks.2]
      rfl
end

def wrapped (q : Query) : Query :=
  { text := "(" ++ q.text ++ ")", params := q.params }

mutual
theorem query_laid (c : Condition) (named : ∀ p ∈ c.leaves, p.Named) :
    Laid c.query (c.leaves.flatMap Parts.sources) := by
  cases c with
  | leaf parts => simpa [leaves, query] using parts.condition_laid (named parts (by simp [leaves]))
  | join connective children =>
      obtain ⟨sources, each, all⟩ := constraining_laid children named
      rw [query, leaves, ← all]
      cases found : constraining children with
      | nil =>
          rw [found] at each
          cases each
          exact laid_gap alwaysTrue (by decide)
      | cons first rest =>
          rw [found] at each
          have joined := laid_intercalate _ (connective_quiet connective) _ _ each
          simpa [wrapped, List.flatMap_map, Function.comp_def] using joined
theorem constraining_laid (children : List Condition) (named : ∀ p ∈ leavesAll children, p.Named) :
    ∃ sources, List.Forall₂ Laid ((constraining children).map wrapped) sources ∧
      sources.flatten = (leavesAll children).flatMap Parts.sources := by
  cases children with
  | nil => exact ⟨[], .nil, rfl⟩
  | cons child rest =>
      obtain ⟨sources, each, all⟩ := constraining_laid rest fun p member =>
        named p (List.mem_append_right _ member)
      rw [constraining, leavesAll, List.flatMap_append]
      by_cases nothing : child.query.isAlwaysTrue = true
      · have asks : child.constrains = false := by simpa [always_true_iff] using nothing
        rw [if_pos nothing, nothing_leaves child asks]
        exact ⟨sources, each, all⟩
      · have here := query_laid child fun p member => named p (List.mem_append_left _ member)
        have parenthesized := laid_between "(" ")" _ _ here (by decide) (by decide)
        rw [if_neg nothing]
        exact ⟨_ :: sources, .cons parenthesized each, by rw [List.flatten_cons, all]⟩
end

end Condition

namespace FilterTree

theorem compile_laid (today : Date) (tree : FilterTree) (q : Query)
    (compiled : tree.compileCondition today = .ok q ∨ tree.compile today = .ok q) :
    ∃ c found, tree.condition today = .ok (c, found) ∧ Laid q (c.leaves.flatMap Parts.sources) := by
  rcases compiled with condition_ | select_
  · obtain ⟨⟨c, found⟩, made, rfl⟩ := (map_ok_iff _ _ _).mp condition_
    exact ⟨c, found, made, c.query_laid (leaves_named today none found tree c made)⟩
  · obtain ⟨⟨c, found⟩, made, rfl⟩ := (map_ok_iff _ _ _).mp select_
    exact ⟨c, found, made, laid_after _ _ _ (by simp +decide)
      (c.query_laid (leaves_named today none found tree c made))⟩

end FilterTree

theorem filter_compile_laid (today : Date) (filter : Filter) (q : Query)
    (compiled : filter.compile today = .ok q ∨ filter.compileCount today = .ok q ∨
      filter.compileCondition today = .ok q) :
    ∃ p, filter.parts today = .ok p ∧ Laid q p.sources ∧ q.params = p.params := by
  rcases compiled with select_ | count_ | condition_
  · obtain ⟨p, made, rfl⟩ := (map_ok_iff _ _ _).mp select_
    exact ⟨p, made, p.select_laid (filter.parts_named today p made), rfl⟩
  · obtain ⟨p, made, rfl⟩ := (map_ok_iff _ _ _).mp count_
    exact ⟨p, made, p.count_laid (filter.parts_named today p made), rfl⟩
  · obtain ⟨p, made, rfl⟩ := (map_ok_iff _ _ _).mp condition_
    exact ⟨p, made, p.condition_laid (filter.parts_named today p made), rfl⟩

theorem compiled_placeholders_aligned (today : Date) :
    (∀ (filter : Filter) (q : Query), filter.compile today = .ok q ∨ filter.compileCount today = .ok q ∨
        filter.compileCondition today = .ok q →
      ∃ p, filter.parts today = .ok p ∧ q.placeholders = q.params.length ∧ q.Aligned p.sources ∧
        ∀ e, p.matchExpression = some e → q.params[0]? = some (.text e)) ∧
    (∀ (tree : FilterTree) (q : Query), tree.compileCondition today = .ok q ∨ tree.compile today = .ok q →
      q.placeholders = q.params.length ∧
      (∃ parts, tree.leaves.mapM (Filter.parts today) = .ok parts ∧
        q.Aligned (parts.flatMap Parts.sources)) ∧
      ∃ conditions, tree.leaves.mapM (Filter.compileCondition today) = .ok conditions ∧
        q.params = conditions.flatMap Query.params) := by
  constructor
  · intro filter q compiled
    obtain ⟨p, made, laid, params⟩ := filter_compile_laid today filter q compiled
    have aligned := laid_aligned q p.sources laid
    refine ⟨p, made, aligned_placeholders q p.sources aligned, aligned, ?_⟩
    intro e expression
    rw [params]
    exact p.match_value_first e expression
  · intro tree q compiled
    obtain ⟨c, found, made, laid⟩ := tree.compile_laid today q compiled
    have aligned := laid_aligned q _ laid
    have leaves := tree.condition_from_leaves today none found c made
    refine ⟨aligned_placeholders q _ aligned, ⟨c.leaves, (map_each_ok_iff _ _ _).mpr leaves, aligned⟩,
      c.leaves.map Parts.condition, ?_, ?_⟩
    · rw [map_each_ok_iff, List.forall₂_map_right_iff]
      exact leaves.imp fun filter p parts => (map_ok_iff _ _ _).mpr ⟨p, parts, rfl⟩
    · rw [aligned_params q _ aligned, List.flatMap_assoc, List.flatMap_map]
      exact congrArg (fun f => c.leaves.flatMap f) (funext Parts.sources_params)

-- A name that the index is asked for, a window of dates and a flag, of which the tree drops a group.
def neighbours : Filter :=
  (((Filter.empty .alumni).withConnective .or).withText "lastName" "Doe" .startsWith).withDate "gradDate"
    none none .lastWeek

def neighboursOrLiving : FilterTree :=
  .operator none .or [.leaf none neighbours, .group none [.leaf none (Filter.empty .alumni)],
    .leaf none ((Filter.empty .alumni).withBoolean "deceased" false)]

theorem neighbours_placeholders_aligned :
    (∃ q, neighbours.compile Date.epoch = .ok q ∧ q.placeholders = q.params.length ∧
      q.params[0]? = some (.text "last_name:doe*")) ∧
    ∃ q, neighboursOrLiving.compile Date.epoch = .ok q ∧ q.placeholders = q.params.length ∧
      q.params = [.text "last_name:doe*", .text "1969-12-25", .text "1970-01-01", .integer 0] := by
  obtain ⟨flat, nested⟩ := compiled_placeholders_aligned Date.epoch
  obtain ⟨p, made, balanced, _, first⟩ := flat neighbours _ (.inl rfl)
  cases made
  exact ⟨⟨_, rfl, balanced, first _ rfl⟩, _, rfl, (nested neighboursOrLiving _ (.inr rfl)).1, by decide +kernel⟩

end ArchiveSearch

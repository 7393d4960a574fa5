import ArchiveSearch.Proofs.Query.Trees

namespace ArchiveSearch

set_option autoImplicit false

def templates : List String :=
  ["SELECT ", ".* FROM ", " WHERE ", "SELECT COUNT(*) AS count FROM ", ".*, ", "_hits", ".relevance AS relevance FROM ",
    " LEFT JOIN (SELECT rowid AS fts_rowid, bm25(", ") AS relevance FROM ", " MATCH ?) AS ", " ON ", ".fts_rowid = ",
    ".rowid WHERE ", ".fts_rowid IS NOT NULL", " ORDER BY relevance IS NULL, relevance",
    ".rowid IN (SELECT rowid FROM ", " MATCH ?)", alwaysTrue, "(", ")", ".", "LOWER(", ") = LOWER(?)", " >= ? AND ",
    " <= ?)", " >= ?", " <= ?", " BETWEEN ? AND ?", " = ?", " ", " ?"] ++
  ContentType.all.map ContentType.table ++ ContentType.all.map ContentType.fullTextTable ++
  Connective.all.map (fun connective => " " ++ connective.name ++ " ") ++ Comparison.all.map Comparison.name

inductive Woven (columns : List String) : String → Prop
  | template {text : String} (fixed : text ∈ templates) : Woven columns text
  | column {text : String} (named : text ∈ columns) : Woven columns text
  | append {first second : String} (before : Woven columns first) (behind : Woven columns second) :
      Woven columns (first ++ second)

theorem Woven.then {columns : List String} {first second : String} (before : Woven columns first)
    (fixed : second ∈ templates) : Woven columns (first ++ second) :=
  before.append (.template fixed)

section Pieces

variable (columns : List String)

theorem table_woven (contentType : ContentType) : Woven columns contentType.table :=
  .template (by cases contentType <;> decide)

theorem full_text_woven (contentType : ContentType) : Woven columns contentType.fullTextTable :=
  .template (by cases contentType <;> decide)

theorem connective_woven (connective : Connective) : Woven columns (" " ++ connective.name ++ " ") :=
  .template (by cases connective <;> decide)

theorem everything_woven : Woven columns alwaysTrue :=
  .template (by decide)

theorem comparison_woven (comparison : Comparison) : Woven columns comparison.name :=
  .template (by cases comparison <;> decide)

theorem intercalate_woven (separator first : String) (rest : List String) (between : Woven columns separator)
    (each : ∀ text ∈ first :: rest, Woven columns text) : Woven columns (separator.intercalate (first :: rest)) := by
  induction rest generalizing first with
  | nil =>
      rw [String.intercalate_singleton]
      exact each first List.mem_cons_self
  | cons second rest ih =>
      rw [String.intercalate_cons_cons]
      exact ((each first List.mem_cons_self).append between).append
        (ih second fun text member => each text (List.mem_cons_of_mem _ member))

theorem clause_woven (contentType : ContentType) (clause : Clause) (named : clause.column ∈ columns) :
    Woven columns (clause.text contentType.table) := by
  have name : Woven columns (contentType.table ++ "." ++ clause.column) :=
    ((table_woven columns contentType).then (by decide)).append (.column named)
  unfold Clause.text
  cases clause.test with
  | sameText value => exact (Woven.append (.template (by decide)) name).then (by decide)
  | within first last =>
      exact (((Woven.append (.template (by decide)) name).then (by decide)).append name).then (by decide)
  | since first => exact name.then (by decide)
  | upTo last => exact name.then (by decide)
  | between least most => exact name.then (by decide)
  | flag value => exact name.then (by decide)
  | compare comparison value =>
      exact ((name.then (by decide)).append (comparison_woven columns comparison)).then (by decide)

end Pieces

namespace Parts

variable (p : Parts) (columns : List String) (named : ∀ clause ∈ p.clauses, clause.column ∈ columns)

theorem joined_woven (conditions : List String) (each : ∀ text ∈ conditions, Woven columns text) :
    Woven columns (p.joined conditions) := by
  cases conditions with
  | nil => exact everything_woven columns
  | cons first rest => exact intercalate_woven columns _ first rest (connective_woven columns p.connective) each

include named

theorem clause_texts_woven : ∀ text ∈ p.clauseTexts, Woven columns text := by
  intro text member
  obtain ⟨clause, inside, rfl⟩ := List.mem_map.1 member
  exact clause_woven columns p.contentType clause (named clause inside)

theorem condition_woven : Woven columns p.condition.text := by
  have table := table_woven columns p.contentType
  have fullText := full_text_woven columns p.contentType
  refine p.joined_woven columns _ fun text member => ?_
  rcases List.mem_append.1 member with asked | inside
  · obtain ⟨e, -, rfl⟩ := Option.map_eq_some_iff.1 (Option.mem_toList.1 asked)
    exact ((((table.then (by decide)).append fullText).then (by decide)).append fullText).then (by decide)
  · exact p.clause_texts_woven columns named text inside

theorem select_woven : Woven columns p.select.text := by
  have table := table_woven columns p.contentType
  have fullText := full_text_woven columns p.contentType
  have hits : Woven columns (p.contentType.fullTextTable ++ "_hits") := fullText.then (by decide)
  have clauses := p.clause_texts_woven columns named
  have start : Woven columns ("SELECT " ++ p.table) := .append (.template (by decide)) table
  unfold select
  cases p.matchExpression with
  | none =>
      exact (((start.then (by decide)).append table).then (by decide)).append (p.joined_woven columns _ clauses)
  | some e =>
      have conditions := p.joined_woven columns ((p.contentType.fullTextTable ++ "_hits" ++ ".fts_rowid IS NOT NULL") ::
        p.clauseTexts) (List.forall_mem_cons.2 ⟨hits.then (by decide), clauses⟩)
      exact (start.then (by decide)).append hits |>.then (by decide) |>.append table |>.then (by decide)
        |>.append fullText |>.then (by decide) |>.append fullText |>.then (by decide) |>.append fullText
        |>.then (by decide) |>.append hits |>.then (by decide) |>.append hits |>.then (by decide) |>.append table
        |>.then (by decide) |>.append conditions |>.then (by decide)

theorem count_woven : Woven columns p.count.text :=
  ((Woven.append (.template (by decide)) (table_woven columns p.contentType)).then (by decide)).append
    (p.condition_woven columns named)

end Parts

namespace Condition

variable (columns : List String)

mutual
theorem query_woven (c : Condition) (named : ∀ p ∈ c.leaves, ∀ clause ∈ p.clauses, clause.column ∈ columns) :
    Woven columns c.query.text := by
  cases c with
  | leaf parts => exact parts.condition_woven columns (named parts (by simp [leaves]))
  | join connective children =>
      have each := constraining_woven children named
      rw [query]
      cases found : constraining children with
      | nil => exact everything_woven columns
      | cons first rest =>
          rw [found] at each
          have wrapped : ∀ q ∈ first :: rest, Woven columns ("(" ++ q.text ++ ")") := fun q inside =>
            (Woven.append (.template (by decide)) (each q inside)).then (by decide)
          exact intercalate_woven columns _ _ _ (connective_woven columns connective)
            (List.forall_mem_map (f := fun q : Query => "(" ++ q.text ++ ")").2 wrapped)
theorem constraining_woven (children : List Condition)
    (named : ∀ p ∈ leavesAll children, ∀ clause ∈ p.clauses, clause.column ∈ columns) :
    ∀ q ∈ constraining children, Woven columns q.text := by
  cases children with
  | nil => simp [constraining]
  | cons child rest =>
      have here := query_woven child fun p member => named p (List.mem_append_left _ member)
      have later := constraining_woven rest fun p member => named p (List.mem_append_right _ member)
      rw [constraining]
      split
      · exact later
      · exact List.forall_mem_cons.2 ⟨here, later⟩
end

end Condition

theorem Filter.columns_named (f : Filter) : ∀ column ∈ f.columns, Column.isName column.toList = true := by
  intro column member
  obtain ⟨field, -, named⟩ := List.mem_filterMap.1 member
  exact Column.of_field_is_name field column named

def FilterTree.columns (tree : FilterTree) : List String :=
  tree.leaves.flatMap Filter.columns

theorem FilterTree.columns_named (tree : FilterTree) :
    ∀ column ∈ tree.columns, Column.isName column.toList = true := by
  intro column member
  obtain ⟨filter, -, inside⟩ := List.mem_flatMap.1 member
  exact filter.columns_named column inside

theorem FilterTree.condition_woven (today : Date) (tree : FilterTree) (found : Condition × Option ContentType)
    (made : tree.condition today = .ok found) : Woven tree.columns found.1.query.text := by
  refine found.1.query_woven tree.columns fun p member clause inside => ?_
  obtain ⟨filter, leaf, parts⟩ := tree.leaves_compiled today none found.2 found.1 made p member
  exact List.mem_flatMap.2 ⟨filter, leaf, filter.parts_columns today p parts clause inside⟩

end ArchiveSearch

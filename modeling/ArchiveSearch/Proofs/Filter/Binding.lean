import ArchiveSearch.Proofs.Filter.Stability
import ArchiveSearch.Proofs.Query.Naming
import ArchiveSearch.Search.Cell

/- What a filter searches for after it came back from JSON. The query has the same text and binds the same cells, but for
   a custom filter's text that reads as a date: that one is bound in the form in which dates are written. -/
namespace ArchiveSearch

set_option autoImplicit false

def Value.cellBack : Value → Cell
  | .text s =>
      match DateReader.loose s with
      | .ok d => .text d.text
      | .error _ => .text s
  | v => Cell.ofValue v

def Value.Canonical (v : Value) : Prop :=
  ∀ s d, v = .text s → DateReader.loose s = .ok d → d.text = s

theorem Value.cell_reread (v : Value) : Cell.ofValue v.reread = v.cellBack := by
  cases v with
  | text s =>
      rw [reread, cellBack]
      cases DateReader.loose s <;> rfl
  | _ => rfl

theorem Value.cell_back_eq_iff (v : Value) : v.cellBack = Cell.ofValue v ↔ v.Canonical := by
  cases v with
  | text s =>
      rw [cellBack]
      cases read : DateReader.loose s with
      | ok d =>
          constructor
          · rintro same t d' ⟨⟩ read'
            rw [read] at read'
            cases read'
            exact Cell.text.inj same
          · exact fun canonical => congrArg Cell.text (canonical s d rfl read)
      | error fault =>
          refine ⟨?_, fun _ => rfl⟩
          rintro - t d ⟨⟩ read'
          rw [read] at read'
          cases read'
  | _ =>
      refine ⟨?_, fun _ => rfl⟩
      rintro - s d ⟨⟩

namespace Filter

theorem customs_reread (customs : List CustomFilter) (clauses : List Clause)
    (made : customs.mapM customClause = .ok clauses) :
    ∃ again, (customs.map CustomFilter.reread).mapM customClause = .ok again ∧
      (∀ table, again.map (Clause.text table) = clauses.map (Clause.text table)) ∧
      clauses.flatMap Clause.params = customs.map CustomFilter.value ∧
      again.flatMap Clause.params = customs.map fun c => c.value.reread := by
  have related := (map_each_ok_iff _ _ _).1 made
  induction related with
  | nil => exact ⟨[], rfl, fun _ => rfl, rfl, rfl⟩
  | @cons c clause customs clauses first others ih =>
      obtain ⟨column, found, ⟨⟩⟩ := (bind_ok_iff _ _ _).1 first
      obtain ⟨again, back, texts, params, paramsBack⟩ := ih ((map_each_ok_iff _ _ _).2 others)
      have firstBack : customClause c.reread = .ok ⟨column, .compare c.comparison c.value.reread⟩ :=
        (bind_ok_iff _ _ _).2 ⟨column, found, rfl⟩
      refine ⟨_ :: again, (map_each_ok_iff _ _ _).2 (.cons firstBack ((map_each_ok_iff _ _ _).1 back)), fun table => ?_,
        ?_, ?_⟩
      · rw [List.map_cons, List.map_cons, texts]
        rfl
      · rw [List.flatMap_cons, params]
        rfl
      · rw [List.flatMap_cons, paramsBack]
        rfl

theorem parts_reread (today : Date) (f : Filter) (p : Parts) (made : f.parts today = .ok p) :
    ∃ again front, f.reread.parts today = .ok again ∧ again.contentType = p.contentType ∧
      again.connective = p.connective ∧ again.terms = p.terms ∧ again.clauseTexts = p.clauseTexts ∧
      p.params = front ++ f.customs.map CustomFilter.value ∧
      again.params = front ++ f.customs.map fun c => c.value.reread := by
  obtain ⟨texts, dates, ranges, booleans, customs, madeTexts, madeDates, madeRanges, madeBooleans, madeCustoms, rfl⟩ :=
    (parts_made_iff today f p).1 made
  obtain ⟨back, madeBack, sameTexts, params, paramsBack⟩ := customs_reread f.customs customs madeCustoms
  let others := texts.filterMap (·.2) ++ dates.filterMap id ++ ranges ++ booleans
  refine ⟨⟨f.contentType, f.connective, texts.filterMap (·.1), others ++ back⟩,
    ((FullText.join? f.connective (texts.filterMap (·.1))).map Value.text).toList ++ others.flatMap Clause.params,
    ?_, rfl, rfl, rfl, ?_, ?_, ?_⟩
  · exact (parts_made_iff today f.reread _).2
      ⟨texts, dates, ranges, booleans, back, madeTexts, madeDates, madeRanges, madeBooleans, madeBack, rfl⟩
  · show (others ++ back).map (Clause.text f.contentType.table) =
      (others ++ customs).map (Clause.text f.contentType.table)
    rw [List.map_append, sameTexts, ← List.map_append]
  · rw [Parts.params, List.flatMap_append, params, ← List.append_assoc]
    rfl
  · rw [Parts.params, List.flatMap_append, paramsBack, ← List.append_assoc]
    rfl

theorem select_text (p again : Parts) (contentType : again.contentType = p.contentType)
    (connective : again.connective = p.connective) (terms : again.terms = p.terms)
    (clauses : again.clauseTexts = p.clauseTexts) : again.select.text = p.select.text := by
  unfold Parts.select Parts.joined Parts.matchExpression Parts.table
  rw [clauses, terms, connective, contentType]

theorem searches_as_before (place : Place) (today : Date) (f : Filter) (finite : f.isFinite = true) (q : Query)
    (compiled : f.compile today = .ok q) :
    ∃ back again front, Filter.decode place f.encode = .ok back ∧ back.compile today = .ok again ∧
      again.text = q.text ∧
      q.params.map Cell.ofValue = front ++ f.customs.map (fun c => Cell.ofValue c.value) ∧
      again.params.map Cell.ofValue = front ++ f.customs.map (fun c => c.value.cellBack) ∧
      (again.params.map Cell.ofValue = q.params.map Cell.ofValue ↔ ∀ c ∈ f.customs, c.value.Canonical) := by
  obtain ⟨p, made, rfl⟩ := (map_ok_iff _ _ _).1 compiled
  obtain ⟨again, front, madeBack, contentType, connective, terms, texts, params, paramsBack⟩ :=
    f.parts_reread today p made
  have cells : p.select.params.map Cell.ofValue =
      front.map Cell.ofValue ++ f.customs.map (fun c => Cell.ofValue c.value) := by
    rw [Parts.select, params, List.map_append, List.map_map]
    rfl
  have cellsBack : again.select.params.map Cell.ofValue =
      front.map Cell.ofValue ++ f.customs.map (fun c => c.value.cellBack) := by
    rw [Parts.select, paramsBack, List.map_append, List.map_map]
    exact congrArg _ (List.map_congr_left fun c _ => c.value.cell_reread)
  refine ⟨f.reread, again.select, front.map Cell.ofValue, f.decode_encode place finite,
    (map_ok_iff _ _ _).2 ⟨again, madeBack, rfl⟩, select_text p again contentType connective terms texts, cells, cellsBack,
    ?_⟩
  rw [cells, cellsBack, List.append_cancel_left_eq, List.map_inj_left]
  exact forall₂_congr fun c _ => c.value.cell_back_eq_iff

def born : Filter :=
  (Filter.empty .alumni).withCustom "born" .equal (.text "2020-1-5")

def bornQuery (value : Value) : Query :=
  { text := "SELECT alumni.* FROM alumni WHERE alumni.born = ?", params := [value] }

theorem born_searches_as_before :
    born.isFinite = true ∧ born.compile ⟨2024, 2, 29, rfl⟩ = .ok (bornQuery (.text "2020-1-5")) ∧
      ∃ back again front, Filter.decode .inOpen born.encode = .ok back ∧
        back.compile ⟨2024, 2, 29, rfl⟩ = .ok again ∧
        again.text = (bornQuery (.text "2020-1-5")).text ∧
        (bornQuery (.text "2020-1-5")).params.map Cell.ofValue =
          front ++ born.customs.map (fun c => Cell.ofValue c.value) ∧
        again.params.map Cell.ofValue = front ++ born.customs.map (fun c => c.value.cellBack) ∧
        (again.params.map Cell.ofValue = (bornQuery (.text "2020-1-5")).params.map Cell.ofValue ↔
          ∀ c ∈ born.customs, c.value.Canonical) := by
  have finite : born.isFinite = true := rfl
  have compiled : born.compile ⟨2024, 2, 29, rfl⟩ = .ok (bornQuery (.text "2020-1-5")) := by rfl
  exact ⟨finite, compiled, searches_as_before .inOpen _ born finite _ compiled⟩

theorem born_bound_anew :
    ∃ back, born.isFinite = true ∧ Filter.decode .inOpen born.encode = .ok back ∧
      born.compile ⟨2024, 2, 29, rfl⟩ = .ok (bornQuery (.text "2020-1-5")) ∧
      back.compile ⟨2024, 2, 29, rfl⟩ = .ok (bornQuery (.date ⟨2020, 1, 5, rfl⟩)) ∧
      Cell.ofValue (.text "2020-1-5") ≠ Cell.ofValue (.date ⟨2020, 1, 5, rfl⟩) :=
  ⟨(Filter.empty .alumni).withCustom "born" .equal (.date ⟨2020, 1, 5, rfl⟩), rfl, by rfl, by rfl, by rfl,
    by decide +kernel⟩

end Filter

end ArchiveSearch

import ArchiveSearch.Proofs.Query.Shapes
import ArchiveSearch.Proofs.Query.Weaving
import ArchiveSearch.Proofs.Search.Transparency

/- Filters of the same shape share a statement: no value of a filter or of a tree has a place in the text of its query, so
   queries that differ in values alone are prepared under one id. -/
namespace ArchiveSearch

set_option autoImplicit false

theorem Searcher.prepare_id (s : Searcher) (now : Nat) (q : Query) :
    (s.prepare now q).1.id = Statement.idOf (simplify q.text) :=
  ArchiveSearch.prepare_id s.statements (simplify q.text) q.params now

structure OneText (x y : Outcome Query) : Prop where
  text : x.map Query.text = y.map Query.text
  statement : ∀ (s s' : Searcher) (now now' : Nat),
    x.map (fun q => (s.prepare now q).1.id) = y.map fun q => (s'.prepare now' q).1.id

section OneText

variable {α β : Type} {R : α → β → Prop} {x : Outcome α} {y : Outcome β}

theorem EndsAlike.one_text (alike : EndsAlike R x y) (render : α → Query) (render' : β → Query)
    (written : ∀ a b, R a b → (render a).text = (render' b).text) : OneText (x.map render) (y.map render') := by
  have queries : EndsAlike (fun p q => p.text = q.text) (x.map render) (y.map render') := alike.map _ _ written
  exact ⟨queries.map_eq _ _ fun _ _ same => same, fun s s' now now' =>
    queries.map_eq _ _ fun p q same => by rw [s.prepare_id, s'.prepare_id, same]⟩

end OneText

theorem filter_one_text {today today' : Date} (f g : Filter) (same : f.SameShape today today' g) :
    OneText (f.compile today) (g.compile today') ∧ OneText (f.compileCount today) (g.compileCount today') ∧
      OneText (f.compileCondition today) (g.compileCondition today') :=
  have parts := f.parts_alike g same
  ⟨parts.one_text _ _ fun _ _ alike => alike.select_text, parts.one_text _ _ fun _ _ alike => alike.count_text,
    parts.one_text _ _ fun _ _ alike => alike.condition_text⟩

theorem tree_one_text {today today' : Date} (t u : FilterTree) (same : t.SameForm today today' u) :
    OneText (t.compile today) (u.compile today') ∧
      OneText (t.compileCondition today) (u.compileCondition today') := by
  have conditions := FilterTree.condition_alike none t u same
  refine ⟨conditions.one_text _ _ fun c d alike => ?_, conditions.one_text _ _ fun _ _ alike => alike.1⟩
  obtain ⟨text, category⟩ := alike
  show "SELECT " ++ (c.2.getD .alumni).table ++ ".* FROM " ++ (c.2.getD .alumni).table ++ " WHERE " ++
    c.1.query.text = _
  rw [text, category]

theorem filter_woven (today : Date) (f : Filter) (q : Query)
    (compiled : f.compile today = .ok q ∨ f.compileCount today = .ok q ∨ f.compileCondition today = .ok q) :
    Woven f.columns q.text := by
  rcases compiled with select_ | count_ | condition_
  · obtain ⟨p, made, rfl⟩ := (map_ok_iff _ _ _).mp select_
    exact p.select_woven f.columns (f.parts_columns today p made)
  · obtain ⟨p, made, rfl⟩ := (map_ok_iff _ _ _).mp count_
    exact p.count_woven f.columns (f.parts_columns today p made)
  · obtain ⟨p, made, rfl⟩ := (map_ok_iff _ _ _).mp condition_
    exact p.condition_woven f.columns (f.parts_columns today p made)

theorem tree_woven (today : Date) (t : FilterTree) (q : Query)
    (compiled : t.compile today = .ok q ∨ t.compileCondition today = .ok q) : Woven t.columns q.text := by
  rcases compiled with select_ | condition_
  · obtain ⟨found, made, rfl⟩ := (map_ok_iff _ _ _).mp select_
    have table := table_woven t.columns (found.2.getD .alumni)
    exact (Woven.append (.template (by decide)) table |>.then (by decide) |>.append table |>.then (by decide)).append
      (t.condition_woven today found made)
  · obtain ⟨found, made, rfl⟩ := (map_ok_iff _ _ _).mp condition_
    exact t.condition_woven today found made

theorem no_value_in_text (today today' : Date) :
    (∀ f g : Filter, f.SameShape today today' g →
      OneText (f.compile today) (g.compile today') ∧ OneText (f.compileCount today) (g.compileCount today') ∧
        OneText (f.compileCondition today) (g.compileCondition today')) ∧
    (∀ t u : FilterTree, t.SameForm today today' u →
      OneText (t.compile today) (u.compile today') ∧
        OneText (t.compileCondition today) (u.compileCondition today')) ∧
    (∀ (f : Filter) (q : Query),
      f.compile today = .ok q ∨ f.compileCount today = .ok q ∨ f.compileCondition today = .ok q →
      Woven f.columns q.text ∧ ∀ column ∈ f.columns, Column.isName column.toList = true) ∧
    ∀ (t : FilterTree) (q : Query), t.compile today = .ok q ∨ t.compileCondition today = .ok q →
      Woven t.columns q.text ∧ ∀ column ∈ t.columns, Column.isName column.toList = true :=
  ⟨filter_one_text, tree_one_text, fun f q compiled => ⟨filter_woven today f q compiled, f.columns_named⟩,
    fun t q compiled => ⟨tree_woven today t q compiled, t.columns_named⟩⟩

def polite : Filter :=
  ((((Filter.empty .alumni).withText "lastName" "Doe" .startsWith).withText "city" "Boston" .equals).withDate "gradDate"
    none none .lastWeek).withCustom "hireYear" .greaterOrEqual (.integer 1999)

def hostile : Filter :=
  ((((Filter.empty .alumni).withText "lastName" "?) OR (1=1" .startsWith).withText "city" "" .equals).withDate
    "gradDate" (some Date.epoch) (some Date.epoch) .custom).withCustom "hireYear" .greaterOrEqual
    (.text "0; DROP TABLE alumni")

def ofLiving (living : Bool) (filter : Filter) : FilterTree :=
  .operator none .or
    [.leaf none filter, .group none [.leaf none ((Filter.empty .alumni).withBoolean "deceased" !living)]]

theorem polite_hostile : polite.SameShape Date.epoch Date.epoch hostile where
  contentType := rfl
  connective := rfl
  texts := .cons ⟨rfl, rfl, fun _ => by decide⟩ (.cons ⟨rfl, rfl, fun loose => absurd rfl loose⟩ .nil)
  dates := .cons ⟨rfl, by decide⟩ .nil
  ranges := .nil
  booleans := .nil
  customs := .cons ⟨rfl, rfl⟩ .nil

theorem hostile_values_bound :
    (hostile.compileCondition Date.epoch).map Query.text =
      .ok ("alumni.rowid IN (SELECT rowid FROM alumni_fts WHERE alumni_fts MATCH ?) AND " ++
        "LOWER(alumni.city) = LOWER(?) AND (alumni.grad_date >= ? AND alumni.grad_date <= ?) AND " ++
        "alumni.hire_year >= ?") ∧
      OneText ((ofLiving true polite).compile Date.epoch) ((ofLiving false hostile).compile Date.epoch) ∧
      (∃ q, hostile.compile Date.epoch = .ok q ∧ Woven hostile.columns q.text) ∧
      ∃ q, (ofLiving false hostile).compile Date.epoch = .ok q ∧ Woven (ofLiving false hostile).columns q.text := by
  obtain ⟨flat, nested, flatWoven, nestedWoven⟩ := no_value_in_text Date.epoch Date.epoch
  have living : ((Filter.empty .alumni).withBoolean "deceased" !true).SameShape Date.epoch Date.epoch
      ((Filter.empty .alumni).withBoolean "deceased" !false) :=
    ⟨rfl, rfl, .nil, .nil, .nil, .cons rfl .nil, .nil⟩
  have form : (ofLiving true polite).SameForm Date.epoch Date.epoch (ofLiving false hostile) :=
    .operator (.cons (.leaf polite_hostile) (.cons (.group (.cons (.leaf living) .nil)) .nil))
  refine ⟨?_, (nested _ _ form).1, ⟨_, rfl, (flatWoven hostile _ (.inl rfl)).1⟩, _, rfl, (nestedWoven _ _ (.inl rfl)).1⟩
  rw [← (flat polite hostile polite_hostile).2.2.text]
  decide +kernel

end ArchiveSearch

import ArchiveSearch.Proofs.Query.Selection

namespace ArchiveSearch

set_option autoImplicit false

-- The rows of the tables and the hits of the full-text indexes, by their rowids, and the truth that an atom with these
-- values bound has on a row. A rowid is in a table once, and a match finds it at most once.
structure Holdings (Record Score : Type) where
  rows : List Char → List (Int × Record)
  hits : List Char → Value → List (Int × Score)
  test : List Piece → List Value → Int × Record → Option Bool
  precedes : Score → Score → Bool
  rows_once : ∀ table, ((rows table).map Prod.fst).Nodup
  hits_once : ∀ fullText asked, ((hits fullText asked).map Prod.fst).Nodup

namespace Selection

def constant? : List Piece → Option Bool
  | [.token (.word one), .token (.symbol ['=']), .token (.word ['1'])] =>
      if one = ['1'] then some true else if one = ['0'] then some false else none
  | _ => none

def membership? (table : List Char) : List Piece → Option (List Char × Nat)
  | [.token (.word here), in_, .group [select, row, from_, .token (.word fullText), where_, .token (.word matched),
      match_, .token (.placeholder number)]] =>
      if in_.isKeyword "in" && select.isKeyword "select" && row.isKeyword "rowid" && from_.isKeyword "from" &&
          where_.isKeyword "where" && match_.isKeyword "match" && matched == fullText &&
          here == qualified table rowid then
        some (fullText, number)
      else none
  | _ => none

def isJoined (join : Option Join) : List Piece → Bool
  | [.token (.word key), is, not, null] =>
      is.isKeyword "is" && not.isKeyword "not" && null.isKeyword "null" &&
        join.any fun j => key == qualified j.name j.key
  | _ => false

end Selection

section
variable {Record Score : Type}

abbrev Beside (Record Score : Type) := (Int × Record) × Option Score

def scores (hits : List (Int × Score)) (rowid : Int) : List Score :=
  (hits.filter fun hit => hit.1 == rowid).map Prod.snd

def leftJoin (rows : List (Int × Record)) (hits : List (Int × Score)) : List (Beside Record Score) :=
  rows.flatMap fun row =>
    match scores hits row.1 with
    | [] => [(row, none)]
    | found => found.map fun score => (row, some score)

namespace Holdings

variable (a : Holdings Record Score)

def matched (params : List Value) (fullText : List Char) (number : Nat) : List (Int × Score) :=
  match params[number]? with
  | some asked => a.hits fullText asked
  | none => []

theorem matched_once (params : List Value) (fullText : List Char) (number : Nat) :
    ((a.matched params fullText number).map Prod.fst).Nodup := by
  unfold matched
  split
  · exact a.hits_once _ _
  · exact List.nodup_nil

def atom (table : List Char) (join : Option Join) (params : List Value) (here : Beside Record Score)
    (pieces : List Piece) : Option Bool :=
  match Selection.constant? pieces, Selection.membership? table pieces with
  | some b, _ => some b
  | none, some (fullText, number) => some (((a.matched params fullText number).map Prod.fst).contains here.1.1)
  | none, none => if Selection.isJoined join pieces then some here.2.isSome else a.test pieces params here.1

def valuation (table : List Char) (join : Option Join) (params : List Value) (here : Beside Record Score) :
    Formula.Valuation where
  atoms := a.atom table join params here
  constants b := by cases b <;> rfl

def ahead : Beside Record Score → Beside Record Score → Bool
  | (_, some score), (_, some other) => a.precedes score other
  | (_, none), (_, some _) => false
  | _, (_, none) => true

end Holdings

namespace Selection

variable (a : Holdings Record Score) (s : Selection) (params : List Value)

def sources : List (Beside Record Score) :=
  match s.join with
  | some join => leftJoin (a.rows s.table) (a.matched params join.fullText join.number)
  | none => (a.rows s.table).map fun row => (row, none)

def kept : List (Beside Record Score) :=
  (s.sources a params).filter fun here =>
    (Formula.ofPieces s.condition).truth (a.atom s.table s.join params here) == some true

def ordered : List (Beside Record Score) :=
  if s.byRelevance then (s.kept a params).mergeSort a.ahead else s.kept a params

end Selection

namespace Query

variable (a : Holdings Record Score) (q : Query)

def records? : Option (List (Beside Record Score)) :=
  (Selection.ofText? q.text).bind fun s =>
    match s.shown with
    | .columns => some ((s.ordered a q.params).map fun here => (here.1, none))
    | .ranked => some (s.ordered a q.params)
    | .number => none

def number? : Option Nat :=
  (Selection.ofText? q.text).bind fun s =>
    match s.shown with
    | .number => some (s.kept a q.params).length
    | _ => none

end Query

theorem scores_once (hits : List (Int × Score)) (rowid : Int) (once : (hits.map Prod.fst).Nodup) :
    scores hits rowid = (hits.lookup rowid).toList := by
  unfold scores
  induction hits with
  | nil => rfl
  | cons hit rest ih =>
      rw [List.map_cons, List.nodup_cons] at once
      by_cases here : hit.1 = rowid
      · have others : ∀ other ∈ rest, ¬ (other.1 == rowid) = true := by
          intro other mem same
          exact once.1 (List.mem_map.2 ⟨other, mem, (beq_iff_eq.1 same).trans here.symm⟩)
        rw [List.filter_cons_of_pos (by simpa using here), List.filter_eq_nil_iff.2 others, ← here,
          List.lookup_cons_self]
        rfl
      · rw [List.filter_cons_of_neg (by simpa using here), ih once.2, List.lookup_cons,
          beq_eq_false_iff_ne.2 (Ne.symm here)]

theorem left_join_once (rows : List (Int × Record)) (hits : List (Int × Score)) (once : (hits.map Prod.fst).Nodup) :
    leftJoin rows hits = rows.map fun row => (row, hits.lookup row.1) := by
  unfold leftJoin
  rw [List.map_eq_flatMap]
  refine List.flatMap_congr fun row _ => ?_
  rw [scores_once hits row.1 once]
  cases hits.lookup row.1 <;> rfl

theorem lookup_some (hits : List (Int × Score)) (rowid : Int) :
    (hits.lookup rowid).isSome = (hits.map Prod.fst).contains rowid := by
  induction hits with
  | nil => rfl
  | cons hit rest ih =>
      rw [List.lookup_cons, List.map_cons, List.contains_cons, ← ih]
      cases rowid == hit.1 <;> rfl

theorem unjoined (join : Option Join) (first second third fourth : Piece) (apart : second.isKeyword "is" = false) :
    Selection.isJoined join [first, second, third, fourth] = false := by
  cases first with
  | group pieces => rfl
  | token t => cases t <;> simp [Selection.isJoined, apart]

theorem comparison_apart (join : Option Join) (table : String) (number : Nat) (c : Clause) :
    ∀ o ∈ c.comparisons table number, Selection.isJoined join o = false := by
  obtain ⟨column, test⟩ := c
  have not_ : (Piece.word "NOT").isKeyword "is" = false := by decide
  cases test with
  | compare comparison value =>
      cases comparison with
      | notLike =>
          exact List.forall_mem_singleton.2 (unjoined join _ _ _ _ not_)
      | _ => simp [Clause.comparisons, Comparison.pieces, Selection.isJoined]
  | _ => simp [Clause.comparisons, Selection.isJoined]

theorem clause_truths_congr (atoms others : List Piece → Option Bool) (table : String) (number : Nat)
    (clauses : List Clause) (same : ∀ number, ∀ c ∈ clauses, ∀ o ∈ c.comparisons table number, atoms o = others o) :
    Clause.truths atoms table number clauses = Clause.truths others table number clauses := by
  induction clauses generalizing number with
  | nil => rfl
  | cons c rest ih =>
      rw [Clause.truths, Clause.truths, ih _ fun number d mem => same number d (List.mem_cons_of_mem _ mem),
        Clause.truth, Clause.truth, List.map_congr_left (same number c List.mem_cons_self)]

namespace Parts

variable (a : Holdings Record Score) (p : Parts) (params : List Value)

def hit (rowid : Int) : Option Score :=
  if p.ranked then (a.matched params p.contentType.fullTextTable.toList 0).lookup rowid else none

theorem sources_once : p.selection.sources a params =
    (a.rows p.table.toList).map fun row => (row, p.hit a params row.1) := by
  unfold Selection.sources selection hit
  cases p.ranked with
  | true => exact left_join_once _ _ (a.matched_once _ _ _)
  | false => rfl

theorem found_atom (row : Int × Record) (ranks : p.ranked = true) :
    a.atom p.table.toList p.selection.join params (row, p.hit a params row.1) p.contentType.found =
      a.atom p.table.toList none params (row, none) (p.membership 0) := by
  have found : Selection.constant? p.contentType.found = none ∧
      Selection.membership? p.table.toList p.contentType.found = none ∧
      Selection.isJoined (some p.contentType.join) p.contentType.found = true := by
    rw [table]
    cases p.contentType <;> decide +kernel
  have member : Selection.constant? (p.membership 0) = none ∧ Selection.membership? p.table.toList (p.membership 0) =
      some (p.contentType.fullTextTable.toList, 0) := by
    rw [membership, table]
    cases p.contentType <;> decide +kernel
  simp only [Holdings.atom, selection, hit, ranks, if_true, found.1, found.2.1, found.2.2, member.1, member.2,
    lookup_some]

theorem comparison_atom (row : Int × Record) (join : Option Join) (score : Option Score) (number : Nat) (c : Clause) :
    ∀ o ∈ c.comparisons p.table number, a.atom p.table.toList join params (row, score) o =
      a.atom p.table.toList none params (row, none) o := by
  intro o mem
  unfold Holdings.atom
  rw [comparison_apart join _ _ c o mem, comparison_apart none _ _ c o mem]
  rfl

theorem selection_value (row : Int × Record) :
    Formula.value (a.atom p.table.toList p.selection.join params (row, p.hit a params row.1)) p.selection.condition =
      Formula.value (a.atom p.table.toList none params (row, none)) p.counting.condition := by
  have joined := p.connective.pieces_value _
    (a.valuation p.table.toList p.selection.join params (row, p.hit a params row.1))
    fun o mem => (p.operands_closed _ p.contentType.found_shaped o mem).1
  have alone := p.connective.pieces_value _ (a.valuation p.table.toList none params (row, none))
    fun o mem => (p.operands_closed _ (membership_shaped p 0) o mem).1
  refine joined.trans (Eq.trans ?_ alone.symm)
  have clauses : ∀ number,
      Clause.truths (a.atom p.table.toList p.selection.join params (row, p.hit a params row.1)) p.table number p.clauses =
        Clause.truths (a.atom p.table.toList none params (row, none)) p.table number p.clauses :=
    fun number => clause_truths_congr _ _ _ _ _ fun number c _ => p.comparison_atom a params row _ _ number c
  refine congrArg _ ?_
  unfold operands
  cases asked : p.matchExpression with
  | none =>
      simp only [Clause.operands_values]
      exact clauses 0
  | some e =>
      have ranks : p.ranked = true := by rw [ranked, asked]; rfl
      rw [List.map_cons, List.map_cons, Clause.operands_values, Clause.operands_values,
        shaped_value _ _ p.contentType.found_shaped, shaped_value _ _ (membership_shaped p 0)]
      exact congrArg₂ _ (p.found_atom a params row ranks) (clauses 1)

def holds (row : Int × Record) : Bool :=
  (Formula.ofPieces p.counting.condition).truth (a.atom p.table.toList none params (row, none)) == some true

theorem selection_kept : p.selection.kept a params =
    ((a.rows p.table.toList).filter (p.holds a params)).map fun row => (row, p.hit a params row.1) := by
  unfold Selection.kept
  rw [p.sources_once a params, List.filter_map]
  refine congrArg _ (List.filter_congr fun row _ => ?_)
  exact congrArg (· == some true) (p.selection_value a params row)

theorem counting_kept : p.counting.kept a params =
    ((a.rows p.table.toList).filter (p.holds a params)).map fun row => (row, none) := by
  unfold Selection.kept
  exact List.filter_map

theorem selection_ordered : (p.selection.ordered a params).Perm (p.selection.kept a params) := by
  unfold Selection.ordered
  split
  · exact List.mergeSort_perm _ _
  · exact List.Perm.refl _

theorem records_found (named : p.Named) : ∃ rows, p.select.records? a = some rows ∧
    (rows.map Prod.fst).Perm ((a.rows p.table.toList).filter (p.holds a p.params)) := by
  have kept : ((p.selection.kept a p.params).map Prod.fst) = (a.rows p.table.toList).filter (p.holds a p.params) := by
    rw [p.selection_kept a p.params, List.map_map]
    exact List.map_id _
  have found := (p.selection_ordered a p.params).map Prod.fst
  rw [kept] at found
  rw [Query.records?, p.selection_read named, Option.bind_some]
  cases ranks : p.ranked with
  | true =>
      refine ⟨p.selection.ordered a p.params, ?_, found⟩
      simp only [selection, ranks, if_true]
      rfl
  | false =>
      refine ⟨(p.selection.ordered a p.params).map fun here => (here.1, none), ?_, ?_⟩
      · simp only [selection, ranks, Bool.false_eq_true, if_false]
        rfl
      · rw [List.map_map]
        exact found

theorem number_found (named : p.Named) :
    p.count.number? a = some ((a.rows p.table.toList).filter (p.holds a p.params)).length := by
  have kept := congrArg List.length (p.counting_kept a p.params)
  rw [List.length_map] at kept
  rw [Query.number?, p.counting_read named, Option.bind_some, ← kept]
  rfl

end Parts

end

-- The query for a filter's records finds each row once on which its condition is true, and no other, and the query for
-- their number counts these. All three bind the same values.
theorem compiled_queries_agree (today : Date) (f : Filter) (select : Query)
    (compiled : f.compile today = .ok select) :
    ∃ count condition formula, f.compileCount today = .ok count ∧ f.compileCondition today = .ok condition ∧
      select.params = condition.params ∧ count.params = condition.params ∧
      Formula.ofText? condition.text = some formula ∧
      ∀ (Record Score : Type) (a : Holdings Record Score), ∃ rows, select.records? a = some rows ∧
        (rows.map Prod.fst).Perm ((a.rows f.contentType.table.toList).filter fun row =>
          formula.truth (a.atom f.contentType.table.toList none condition.params (row, none)) == some true) ∧
        (rows.map fun row => row.1.1).Nodup ∧ count.number? a = some rows.length := by
  obtain ⟨p, parts, rfl⟩ := (map_ok_iff _ _ _).1 compiled
  have named := f.parts_named today p parts
  refine ⟨p.count, p.condition, Formula.ofPieces p.counting.condition, (map_ok_iff _ _ _).2 ⟨p, parts, rfl⟩,
    (map_ok_iff _ _ _).2 ⟨p, parts, rfl⟩, rfl, rfl, ?_, ?_⟩
  · exact p.condition_formula named
  · intro Record Score a
    rw [← f.parts_category today p parts]
    obtain ⟨rows, records, found⟩ := p.records_found a named
    refine ⟨rows, records, found, ?_, ?_⟩
    · have once := (found.map Prod.fst).nodup_iff.2 ((List.filter_sublist.map Prod.fst).nodup (a.rows_once _))
      rwa [List.map_map] at once
    · rw [← List.length_map Prod.fst, found.length_eq]
      exact p.number_found a named

def remembered : Filter :=
  (((Filter.empty .faculty).withConnective .or).withText "lastName" "Doe" .contains).withBoolean "retired" true

def fourPeople : Holdings (Option Bool) Nat where
  rows _ := [(1, none), (2, some true), (3, none), (4, some false)]
  hits _ _ := [(4, 7), (1, 3)]
  test _ _ row := row.2
  precedes score other := score ≤ other
  rows_once _ := by decide
  hits_once _ _ := by decide

theorem remembered_found : ∃ select count rows, remembered.compile Date.epoch = .ok select ∧
    remembered.compileCount Date.epoch = .ok count ∧ select.records? fourPeople = some rows ∧
    (rows.map Prod.fst).Perm [(1, none), (2, some true), (4, some false)] ∧ count.number? fourPeople = some 3 := by
  obtain ⟨count, condition, formula, counts, conditions, -, -, reads, found⟩ :=
    compiled_queries_agree Date.epoch remembered _ rfl
  obtain ⟨rows, records, perm, -, number⟩ := found _ _ fourPeople
  cases conditions
  cases reads
  have kept : (rows.map Prod.fst).Perm [(1, none), (2, some true), (4, some false)] := by
    refine perm.trans (List.Perm.of_eq ?_)
    decide +kernel
  refine ⟨_, count, rows, rfl, counts, records, kept, ?_⟩
  rw [number, ← List.length_map Prod.fst, kept.length_eq]
  rfl

end ArchiveSearch

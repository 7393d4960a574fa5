import ArchiveSearch.Proofs.Filter.Windows
import ArchiveSearch.Proofs.Number.Signed

/- Ranges of numbers. A number is bound as the integer it is, if it is one that fits, and otherwise as it stands, so that
   what is bound denotes just that number. The bounds of a range keep their order, and the engine keeps the numbers between
   them, whichever of the two is an integer. -/
namespace ArchiveSearch

set_option autoImplicit false

namespace Cell

structure ComparesAs (a b : Cell) (q r : Rat) : Prop where
  lt : a.compare? b = some .lt ↔ q < r
  eq : a.compare? b = some .eq ↔ q = r
  gt : a.compare? b = some .gt ↔ r < q

theorem numbers_compared (a b : Cell) (q r : Rat) (first : a.number? = some q) (second : b.number? = some r) :
    a.compare? b = some (orderOf q r) := by
  cases a <;> cases first <;> cases b <;> cases second <;> rfl

theorem compares_as_of_numbers (a b : Cell) (q r : Rat) (first : a.number? = some q) (second : b.number? = some r) :
    a.ComparesAs b q r := by
  have compared := numbers_compared a b q r first second
  rw [orderOf] at compared
  rcases lt_trichotomy q r with less | same | more
  · rw [if_neg less.ne, if_pos less] at compared
    constructor <;> simp [compared, less, less.ne, less.le]
  · rw [if_pos same] at compared
    constructor <;> simp [compared, same]
  · rw [if_neg more.ne', if_neg more.not_gt] at compared
    constructor <;> simp [compared, more, more.ne', more.le]

end Cell

structure Value.Denotes (v : Value) (x : Binary64) : Prop where
  number : (Cell.ofValue v).number? = some x.value
  integer : (∃ n, v = .integer n) ↔ ∃ z : Int, x.value = z ∧ |z| < 2 ^ 63
  compares : ∀ (cell : Cell) (q : Rat), cell.number? = some q → cell.ComparesAs (Cell.ofValue v) q x.value

namespace Value

theorem is_whole_iff (x : Binary64) (finite : x.isFinite = true) :
    isWhole x = true ↔ ∃ z : Int, x.value = z ∧ |z| < 2 ^ 63 := by
  rw [isWhole, Bool.and_eq_true, decide_eq_true_eq]
  constructor
  · rintro ⟨integral, small⟩
    exact ⟨x.toInt, (x.to_int_value integral).symm, by rw [Int.abs_eq_natAbs]; exact_mod_cast small⟩
  · rintro ⟨z, same, small⟩
    have integral := (x.is_integral_iff finite).2 ⟨z, same⟩
    have own : x.toInt = z := Int.cast_inj.1 ((x.to_int_value integral).trans same)
    rw [Int.abs_eq_natAbs] at small
    exact ⟨integral, own ▸ by exact_mod_cast small⟩

theorem of_number_number (x : Binary64) : (Cell.ofValue (ofNumber x)).number? = some x.value := by
  rw [ofNumber]
  split
  · next whole =>
    rw [isWhole, Bool.and_eq_true, decide_eq_true_eq] at whole
    have small : x.toInt.natAbs < 9223372036854775808 := whole.2
    have kept : (Int64.ofInt x.toInt).toInt = x.toInt := Int64.toInt_ofInt_of_le (by omega) (by omega)
    rw [Cell.ofValue, Cell.number?, kept, x.to_int_value whole.1]
  · rfl

theorem of_number_integer_iff (x : Binary64) : (∃ n, ofNumber x = .integer n) ↔ isWhole x = true := by
  rw [ofNumber]
  split
  · next whole => exact iff_of_true ⟨_, rfl⟩ whole
  · next fractional => exact iff_of_false (fun ⟨_, same⟩ => by cases same) fractional

theorem of_number_denotes (x : Binary64) (finite : x.isFinite = true) : (ofNumber x).Denotes x where
  number := of_number_number x
  integer := (of_number_integer_iff x).trans (is_whole_iff x finite)
  compares cell q denoted := Cell.compares_as_of_numbers cell _ q x.value denoted (of_number_number x)

end Value

namespace Database

theorem compare_numbers (a b : Cell) (q r : Rat) (first : a.number? = some q) (second : b.number? = some r) :
    (compare ['>', '='] a b = some true ↔ r ≤ q) ∧ (compare ['<', '='] a b = some true ↔ q ≤ r) := by
  have compared := Cell.compares_as_of_numbers a b q r first second
  have ordered := Cell.numbers_compared a b q r first second
  have atLeast : compare ['>', '='] a b = some (Cell.orderOf q r != .lt) := by
    rw [compare, ordered]
    rfl
  have atMost : compare ['<', '='] a b = some (Cell.orderOf q r != .gt) := by
    rw [compare, ordered]
    rfl
  have less := compared.lt
  have more := compared.gt
  rw [ordered, Option.some.injEq] at less more
  rw [atLeast, atMost, Option.some.injEq, Option.some.injEq, bne_iff_ne, bne_iff_ne, Ne, Ne, less, more, not_lt, not_lt]
  exact ⟨Iff.rfl, Iff.rfl⟩

theorem between_truth (s : Scope) (name : String) (number : Nat) (named : isNumeral name.toList = false) :
    atomTruth s [Piece.word name, Piece.word "BETWEEN", Piece.mark number, Piece.word "AND", Piece.mark (number + 1)] =
      Formula.conjunction
        [compare ['>', '='] (s.column name) ((s.params[number]?.map Cell.ofValue).getD .null),
          compare ['<', '='] (s.column name) ((s.params[number + 1]?.map Cell.ofValue).getD .null)] := by
  have first : ∀ rest, operand s (Piece.word name :: Piece.word "BETWEEN" :: rest) =
      some (s.column name, Piece.word "BETWEEN" :: rest) := by
    intro rest
    show Option.map _ (operand.single s (.word name.toList)) = _
    rw [operand.single, named, String.ofList_toList]
    rfl
  have keyword : (Piece.token (.word "BETWEEN".toList)).isKeyword "between" = true := by decide
  rw [atomTruth, first]
  simp only [Option.bind_eq_bind, Option.bind_some, Piece.word, keyword, if_true]
  rfl

end Database

structure Clause.AskedOf (c : Clause) (table : String) (number : Nat) (cell : Cell) (s : Database.Scope) : Prop where
  bound : c.params <+: s.params.drop number
  shown : s.column (table ++ "." ++ c.column) = cell

theorem Clause.range_truth (column : String) (least most : Binary64) (table : String) (number : Nat) (cell : Cell)
    (q : Rat) (denoted : cell.number? = some q) (s : Database.Scope)
    (asked : Clause.AskedOf ⟨column, .between least most⟩ table number cell s) :
    Clause.truth (Database.atomTruth s) table number ⟨column, .between least most⟩ = some true ↔
      least.value ≤ q ∧ q ≤ most.value := by
  obtain ⟨⟨after, bound⟩, shown⟩ := asked
  have named := Database.qualified_named table column
  have opening : s.params[number]? = some (.ofNumber least) := by
    have here := congrArg (·[0]?) bound
    simpa [Clause.params] using here.symm
  have closing : s.params[number + 1]? = some (.ofNumber most) := by
    have here := congrArg (·[1]?) bound
    simpa [Clause.params] using here.symm
  simp only [Clause.truth, Clause.comparisons, List.map_cons, List.map_nil]
  rw [Database.between_truth s _ _ named, shown, opening, closing]
  have above := (Database.compare_numbers cell _ q _ denoted (Value.of_number_number least)).1
  have below := (Database.compare_numbers cell _ q _ denoted (Value.of_number_number most)).2
  rw [Formula.conjunction_cons, Formula.conjunction, Formula.both_true]
  exact (both_held _ _).trans (and_congr above below)

def Clause.isRange (c : Clause) : Bool :=
  match c.test with
  | .between _ _ => true
  | _ => false

-- What a range comes to on a table: its bounds are bound as they are, in the order in which the program finds them, and
-- of the numbers in the column those from one to the other are kept.
structure RangeFilter.Becomes (table : String) (r : RangeFilter) (c : Clause) : Prop where
  column : Column.ofField? r.field = some c.column
  text : c.text table = table ++ "." ++ c.column ++ " BETWEEN ? AND ?"
  params : ∃ least most, c.params = [least, most] ∧ least.Denotes r.min ∧ most.Denotes r.max ∧
    (Cell.ofValue least).ComparesAs (Cell.ofValue most) r.min.value r.max.value
  order : (r.min.lt r.max = true ↔ r.min.value < r.max.value) ∧ (r.max.lt r.min = true ↔ r.max.value < r.min.value)
  kept : ∀ number cell q s, cell.number? = some q → c.AskedOf table number cell s →
    (c.truth (Database.atomTruth s) table number = some true ↔ r.min.value ≤ q ∧ q ≤ r.max.value)

namespace Filter

theorem range_clause_becomes (table : String) (r : RangeFilter) (finite : r.min.isFinite = true ∧ r.max.isFinite = true)
    (c : Clause) (made : rangeClause r = .ok c) : r.Becomes table c := by
  obtain ⟨column, found, ⟨⟩⟩ := (bind_ok_iff _ _ _).1 made
  have least := Value.of_number_denotes r.min finite.1
  have most := Value.of_number_denotes r.max finite.2
  exact
    { column := column_of_ok r.field column found
      text := rfl
      params := ⟨_, _, rfl, least, most, most.compares _ _ least.number⟩
      order := ⟨Binary64.lt_iff r.min r.max finite.1 finite.2, Binary64.lt_iff r.max r.min finite.2 finite.1⟩
      kept := fun number cell q s denoted asked =>
        Clause.range_truth column r.min r.max table number cell q denoted s asked }

theorem text_part_rangeless (f : TextFilter) (term : Option String) (c : Clause)
    (made : textPart f = .ok (term, some c)) : c.isRange = false := by
  obtain ⟨column, -, rest⟩ := (bind_ok_iff _ _ _).1 made
  split at rest
  · cases rest
    rfl
  · simp [pure, Except.pure] at rest

theorem date_clause_rangeless (today : Date) (f : DateFilter) (c : Clause) (made : dateClause today f = .ok (some c)) :
    c.isRange = false := by
  obtain ⟨column, -, rest⟩ := (bind_ok_iff _ _ _).1 made
  obtain ⟨bounds, -, last⟩ := (bind_ok_iff _ _ _).1 rest
  split at last <;> cases last <;> rfl

theorem ranges_together (today : Date) (f : Filter) (p : Parts) (made : f.parts today = .ok p) :
    ∃ front ranges back, p.clauses = front ++ ranges ++ back ∧ p.clauses.filter Clause.isRange = ranges ∧
      f.ranges.mapM rangeClause = .ok ranges := by
  obtain ⟨texts, dates, ranges, booleans, customs, madeTexts, madeDates, madeRanges, madeBooleans, madeCustoms, rfl⟩ :=
    (parts_made_iff today f p).1 made
  have none_of : ∀ cs : List Clause, (∀ c ∈ cs, c.isRange = false) → cs.filter Clause.isRange = [] :=
    fun cs other => List.filter_eq_nil_iff.2 fun c mem => Bool.eq_false_iff.1 (other c mem)
  have ofTexts := none_of (texts.filterMap (·.2)) fun c mem => by
    obtain ⟨⟨term, clause⟩, inside, ⟨⟩⟩ := List.mem_filterMap.1 mem
    obtain ⟨f, -, found⟩ := map_each_ok_mem _ _ _ madeTexts _ inside
    exact text_part_rangeless f term c found
  have ofDates := none_of (dates.filterMap id) fun c mem => by
    obtain ⟨clause, inside, ⟨⟩⟩ := List.mem_filterMap.1 mem
    obtain ⟨f, -, found⟩ := map_each_ok_mem _ _ _ madeDates _ inside
    exact date_clause_rangeless today f c found
  have ofBooleans := none_of booleans fun c mem => by
    obtain ⟨f, -, found⟩ := map_each_ok_mem _ _ _ madeBooleans c mem
    obtain ⟨column, -, ⟨⟩⟩ := (bind_ok_iff _ _ _).1 found
    rfl
  have ofCustoms := none_of customs fun c mem => by
    obtain ⟨f, -, found⟩ := map_each_ok_mem _ _ _ madeCustoms c mem
    obtain ⟨column, -, ⟨⟩⟩ := (bind_ok_iff _ _ _).1 found
    rfl
  have all : ranges.filter Clause.isRange = ranges := List.filter_eq_self.2 fun c mem => by
    obtain ⟨r, -, found⟩ := map_each_ok_mem _ _ _ madeRanges c mem
    obtain ⟨column, -, ⟨⟩⟩ := (bind_ok_iff _ _ _).1 found
    rfl
  refine ⟨texts.filterMap (·.2) ++ dates.filterMap id, ranges, booleans ++ customs, ?_, ?_, madeRanges⟩
  · simp only [List.append_assoc]
  · simp only [List.filter_append, ofTexts, ofDates, all, ofBooleans, ofCustoms, List.nil_append, List.append_nil]

theorem ranges_bound_exactly :
    (∀ x : Binary64, x.isFinite = true → (Value.ofNumber x).Denotes x) ∧
      ∀ (today : Date) (f : Filter) (p : Parts), (∀ r ∈ f.ranges, r.min.isFinite = true ∧ r.max.isFinite = true) →
        f.parts today = .ok p →
        List.Forall₂ (RangeFilter.Becomes p.table) f.ranges (p.clauses.filter Clause.isRange) ∧
          ∃ before after, p.params = before ++ (p.clauses.filter Clause.isRange).flatMap Clause.params ++ after := by
  refine ⟨Value.of_number_denotes, fun today f p finite made => ?_⟩
  obtain ⟨front, clauses, back, together, kept, madeRanges⟩ := ranges_together today f p made
  rw [kept]
  constructor
  · have related := (map_each_ok_iff _ _ _).1 madeRanges
    generalize f.ranges = ranges at finite related
    clear kept together madeRanges
    induction related with
    | nil => exact .nil
    | @cons r c ranges clauses first _ ih =>
        refine .cons (range_clause_becomes p.table r (finite r List.mem_cons_self) c first) (ih fun r' mem => ?_)
        exact finite r' (List.mem_cons_of_mem _ mem)
  · refine ⟨(p.matchExpression.map Value.text).toList ++ front.flatMap Clause.params, back.flatMap Clause.params, ?_⟩
    rw [Parts.params, together, List.flatMap_append, List.flatMap_append]
    simp only [List.append_assoc]

def gradYears (least most : Binary64) : Filter :=
  (Filter.empty .alumni).withRange "gradYear" least most

def gradYearsParts (least most : Binary64) : Parts :=
  { contentType := .alumni, connective := .and, terms := [], clauses := [⟨"grad_year", .between least most⟩] }

theorem grad_years_made (today : Date) (least most : Binary64) :
    (gradYears least most).parts today = .ok (gradYearsParts least most) := by
  have named : Column.ofField? "gradYear" = some "grad_year" := by decide
  have clause : rangeClause ⟨"gradYear", least, most, none⟩ = .ok ⟨"grad_year", .between least most⟩ := by
    rw [rangeClause, columnOf, named]
    rfl
  exact (parts_made_iff today _ _).2 ⟨[], [], [⟨"grad_year", .between least most⟩], [], [], rfl, rfl,
    (map_each_ok_iff _ _ _).2 (.cons clause .nil), rfl, rfl, rfl⟩

theorem grad_years_finite (least most : Binary64) (finite : least.isFinite = true) (finite' : most.isFinite = true) :
    ∀ r ∈ (gradYears least most).ranges, r.min.isFinite = true ∧ r.max.isFinite = true := by
  intro r mem
  obtain rfl := List.mem_singleton.1 mem
  exact ⟨finite, finite'⟩

def leastNumber : Binary64 :=
  Binary64.ofInt (-9223372036854775808)

def signedZero : Binary64 :=
  Binary64.withSign true 0

theorem mixed_range_bound_exactly :
    leastNumber.isFinite = true ∧ signedZero.isFinite = true ∧
      (gradYears leastNumber signedZero).parts leapDay = .ok (gradYearsParts leastNumber signedZero) ∧
      Value.ofNumber leastNumber = .number leastNumber ∧ Value.ofNumber signedZero = .integer 0 ∧
      (Value.ofNumber signedZero).Denotes signedZero ∧
      List.Forall₂ (RangeFilter.Becomes (gradYearsParts leastNumber signedZero).table)
        (gradYears leastNumber signedZero).ranges
        ((gradYearsParts leastNumber signedZero).clauses.filter Clause.isRange) := by
  have finite : leastNumber.isFinite = true := by decide
  have finite' : signedZero.isFinite = true := by decide
  have made := grad_years_made leapDay leastNumber signedZero
  obtain ⟨denoted, bound⟩ := ranges_bound_exactly
  exact ⟨finite, finite', made, by decide +kernel, by decide +kernel, denoted signedZero finite',
    (bound leapDay _ _ (grad_years_finite leastNumber signedZero finite finite') made).1⟩

end Filter

end ArchiveSearch

import ArchiveSearch.Proofs.Calendar.TextOrder
import ArchiveSearch.Proofs.Filter.Compilation
import ArchiveSearch.Proofs.Query.Meaning
import ArchiveSearch.Search.Database

namespace ArchiveSearch

set_option autoImplicit false

inductive DateFilter.Window (today : Date) (f : DateFilter) : Date → Date → Prop
  | preset (days : Nat) (first : Date) (opens : f.preset.offsetDays = some days)
      (reached : today.daysBefore? days = some first) : Window today f first today
  | own (first last : Date) (custom : f.preset = .custom) (start : f.start = some first) (end_ : f.end_ = some last) :
      Window today f first last

def DateFilter.IsBounded (f : DateFilter) : Prop :=
  f.preset ≠ .custom ∨ f.start.isSome = true ∧ f.end_.isSome = true

namespace Database

theorem order_of_texts (s t : String) :
    (Cell.orderOf s t ≠ .lt ↔ t ≤ s) ∧ (Cell.orderOf s t ≠ .gt ↔ s ≤ t) := by
  unfold Cell.orderOf
  by_cases same : s = t
  · subst same
    simp
  · rw [if_neg same]
    by_cases less : s < t
    · have behind : ¬ t ≤ s := String.not_le.2 less
      have ahead : s ≤ t := String.not_lt.1 (String.lt_asymm less)
      simp [less, behind, ahead]
    · have ahead : t ≤ s := String.not_lt.1 less
      have behind : ¬ s ≤ t := fun least => same (String.le_antisymm least ahead)
      simp [less, behind, ahead]

theorem compare_texts (s t : String) :
    (compare ['>', '='] (.text s) (.text t) = some true ↔ t ≤ s) ∧
      (compare ['<', '='] (.text s) (.text t) = some true ↔ s ≤ t) := by
  have atLeast : compare ['>', '='] (.text s) (.text t) = some (Cell.orderOf s t != .lt) := rfl
  have atMost : compare ['<', '='] (.text s) (.text t) = some (Cell.orderOf s t != .gt) := rfl
  rw [atLeast, atMost, Option.some.injEq, Option.some.injEq, bne_iff_ne, bne_iff_ne]
  exact order_of_texts s t

theorem comparison_truth (s : Scope) (name symbol : String) (number : Nat) (named : isNumeral name.toList = false) :
    atomTruth s [Piece.word name, Piece.symbol symbol, Piece.mark number] =
      compare symbol.toList (s.column name) ((s.params[number]?.map Cell.ofValue).getD .null) := by
  have first : operand s [Piece.word name, Piece.symbol symbol, Piece.mark number] =
      some (s.column name, [Piece.symbol symbol, Piece.mark number]) := by
    show Option.map _ (operand.single s (.word name.toList)) = _
    rw [operand.single, named, String.ofList_toList]
    rfl
  have second : operand s [Piece.mark number] = some ((s.params[number]?.map Cell.ofValue).getD .null, []) := rfl
  rw [atomTruth, first]
  simp only [Option.bind_eq_bind, Option.bind_some, Piece.symbol, second]

theorem qualified_named (table column : String) : isNumeral (table ++ "." ++ column).toList = false := by
  simp [isNumeral, String.toList_append]

end Database

theorem both_held (s t : Option Bool) : Formula.both s t = some true ↔ s = some true ∧ t = some true := by
  rcases s with _ | _ | _ <;> rcases t with _ | _ | _ <;> decide

-- A row whose column for a clause holds this text, and to which the values of the clause are bound from a number on.
structure Clause.Asked (c : Clause) (table : String) (number : Nat) (text : String) (s : Database.Scope) : Prop where
  bound : c.params <+: s.params.drop number
  shown : s.column (table ++ "." ++ c.column) = .text text

theorem Clause.window_truth (column : String) (first last : Date) (table : String) (number : Nat) (text : String)
    (s : Database.Scope) (asked : Clause.Asked ⟨column, .within first last⟩ table number text s) :
    Clause.truth (Database.atomTruth s) table number ⟨column, .within first last⟩ = some true ↔
      first.text ≤ text ∧ text ≤ last.text := by
  obtain ⟨⟨after, bound⟩, shown⟩ := asked
  have named := Database.qualified_named table column
  have opening : s.params[number]? = some (.text first.text) := by
    have here := congrArg (·[0]?) bound
    simpa [Clause.params] using here.symm
  have closing : s.params[number + 1]? = some (.text last.text) := by
    have here := congrArg (·[1]?) bound
    simpa [Clause.params] using here.symm
  simp only [Clause.truth, Clause.comparisons, List.map_cons, List.map_nil]
  rw [Database.comparison_truth s _ _ _ named, Database.comparison_truth s _ _ _ named, shown, opening, closing,
    Formula.conjunction_cons, Formula.conjunction_cons, Formula.conjunction, Formula.both_true, both_held]
  exact and_congr (Database.compare_texts text first.text).1 (Database.compare_texts text last.text).2

theorem Date.yesterday_before (d e : Date) (back : d.yesterday? = some e) : e.before d = true := by
  rw [before_iff]
  unfold yesterday? at back
  split at back
  · obtain ⟨-, year, month, day⟩ := (of_ok_iff _ _ _ _).1 back
    omega
  · split at back
    · obtain ⟨-, year, month, day⟩ := (of_ok_iff _ _ _ _).1 back
      omega
    · obtain ⟨-, year, month, day⟩ := (of_ok_iff _ _ _ _).1 back
      omega

theorem Date.days_before_not_after (d : Date) (count : Nat) (first : Date)
    (reached : d.daysBefore? count = some first) : d.before first = false := by
  rw [← Bool.not_eq_true, before_iff]
  induction count generalizing first with
  | zero =>
      cases reached
      omega
  | succ count ih =>
      obtain ⟨next, before, back⟩ := Option.bind_eq_some_iff.1 reached
      have behind := ih next before
      have earlier := (before_iff _ _).1 (yesterday_before next first back)
      omega

namespace Filter

theorem field_issues_nil (path field : String) (silent : fieldIssues path field = []) :
    ∃ column, Column.ofField? field = some column := by
  unfold fieldIssues at silent
  by_cases blank : Text.isAllBlank field = true
  · rw [if_pos blank] at silent
    cases silent
  · rw [if_neg blank] at silent
    cases named : Column.ofField? field with
    | none =>
        rw [named] at silent
        cases silent
    | some column => exact ⟨column, rfl⟩

theorem valid_dates (f : Filter) (valid : f.errors = []) (date : DateFilter) (mem : date ∈ f.dates) :
    (∃ column, Column.ofField? date.field = some column) ∧
      ∀ first last, date.start = some first → date.end_ = some last → last.before first = false := by
  simp only [errors, List.append_eq_nil_iff] at valid
  obtain ⟨i, here⟩ := List.mem_iff_getElem?.1 mem
  have silent := (issues_in_nil_iff "dateFilters" dateIssues f.dates).1 valid.1.1.1.2 i date here
  rw [dateIssues, List.append_eq_nil_iff] at silent
  refine ⟨field_issues_nil _ _ silent.1, fun first last start end_ => ?_⟩
  have ordered := silent.2
  rw [start, end_] at ordered
  by_cases reversed : last.before first = true
  · simp [reversed] at ordered
  · exact Bool.eq_false_iff.2 reversed

theorem window_bounds (today : Date) (date : DateFilter) (first last : Date) (window : date.Window today first last) :
    dateBounds today date = .ok (some first, some last) := by
  cases window with
  | preset days first opens reached => simp only [dateBounds, opens, reached]
  | own first last custom start end_ =>
      simp only [dateBounds, (offset_days_custom date.preset).2 custom, start, end_]

theorem window_exists (today : Date) (date : DateFilter) (bounded : date.IsBounded)
    (opens : ∀ days, date.preset.offsetDays = some days → today.daysBefore? days ≠ none) :
    ∃ first last, date.Window today first last := by
  cases offset : date.preset.offsetDays with
  | none =>
      have custom := (offset_days_custom date.preset).1 offset
      obtain ⟨start, end_⟩ := bounded.resolve_left fun other => other custom
      obtain ⟨first, start⟩ := Option.isSome_iff_exists.1 start
      obtain ⟨last, end_⟩ := Option.isSome_iff_exists.1 end_
      exact ⟨first, last, .own first last custom start end_⟩
  | some days =>
      obtain ⟨first, reached⟩ := Option.ne_none_iff_exists'.1 (opens days offset)
      exact ⟨first, today, .preset days first offset reached⟩

theorem window_ordered (today : Date) (f : Filter) (valid : f.errors = []) (date : DateFilter) (mem : date ∈ f.dates)
    (first last : Date) (window : date.Window today first last) : last.before first = false := by
  cases window with
  | preset days first opens reached => exact today.days_before_not_after days first reached
  | own first last custom start end_ => exact (valid_dates f valid date mem).2 first last start end_

theorem date_compiled (today : Date) (f : Filter) (date : DateFilter) (mem : date ∈ f.dates) (clause : Clause)
    (made : dateClause today date = .ok (some clause)) (p : Parts) (compiled : f.parts today = .ok p) :
    clause ∈ p.clauses := by
  obtain ⟨texts, dates, ranges, booleans, customs, -, madeDates, -, -, -, rfl⟩ := (parts_made_iff today f p).1 compiled
  obtain ⟨found, inside, same⟩ := map_each_ok_of_mem _ _ _ madeDates date mem
  obtain rfl : some clause = found := Except.ok.inj (made.symm.trans same)
  have listed : clause ∈ dates.filterMap id := List.mem_filterMap.2 ⟨some clause, inside, rfl⟩
  simp only [List.mem_append, listed, true_or, or_true]

-- A window of a valid filter becomes one clause, which keeps the texts from that of its first date to that of its last.
-- Among dates these are the texts of the window if the years of its bounds keep their order as texts; otherwise some are
-- missing, or there are others.
theorem windows_in_text (today : Date) (f : Filter) (date : DateFilter) (valid : f.validate.errors = [])
    (mem : date ∈ f.dates) (bounded : date.IsBounded)
    (opens : ∀ days, date.preset.offsetDays = some days → today.daysBefore? days ≠ none) :
    ∃ column first last, date.Window today first last ∧ last.before first = false ∧
      dateClause today date = .ok (some ⟨column, .within first last⟩) ∧
      (∀ p, f.parts today = .ok p → ⟨column, .within first last⟩ ∈ p.clauses) ∧
      (∀ table number text s, Clause.Asked ⟨column, .within first last⟩ table number text s →
        (Clause.truth (Database.atomTruth s) table number ⟨column, .within first last⟩ = some true ↔
          first.text ≤ text ∧ text ≤ last.text)) ∧
      ((∀ d : Date, first.text ≤ d.text ∧ d.text ≤ last.text ↔ Date.Within first last d) ↔
        KeepsOrder first.year last.year) := by
  obtain ⟨first, last, window⟩ := window_exists today date bounded opens
  obtain ⟨column, named⟩ := (valid_dates f valid date mem).1
  have ordered := window_ordered today f valid date mem first last window
  have made : dateClause today date = .ok (some ⟨column, .within first last⟩) := by
    simp only [dateClause, columnOf, named, window_bounds today date first last window]
    rfl
  exact ⟨column, first, last, window, ordered, made, fun p => date_compiled today f date mem _ made p,
    Clause.window_truth column first last, Date.window_kept_iff first last ordered⟩

def hirings : Table :=
  { name := "faculty", columns := ["id", "hired_on"], rows := [] }

def hiring (text opening closing : String) : Database.Scope :=
  { table := hirings, number := 1, cells := [.integer 1, .text text], params := [.text opening, .text closing] }

theorem hiring_column (text opening closing : String) :
    (hiring text opening closing).column ("faculty" ++ "." ++ "hired_on") = .text text := by
  have place : hirings.place? "faculty.hired_on" = some (.column 1) := rfl
  have name : "faculty" ++ "." ++ "hired_on" = "faculty.hired_on" := by decide
  rw [name, Database.Scope.column, hiring, place]
  rfl

def summer98 : Date :=
  ⟨1998, 7, 1, rfl⟩

def summer03 : Date :=
  ⟨2003, 6, 30, rfl⟩

def tenure : DateFilter :=
  { field := "hiredOn", start := some summer98, end_ := some summer03 }

def tenured : Filter :=
  { contentType := .faculty, dates := [tenure] }

theorem tenured_in_text :
    tenured.validate.errors = [] ∧ tenure ∈ tenured.dates ∧ tenure.IsBounded ∧ tenure.preset.offsetDays = none ∧
      ∀ d : Date, Clause.truth (Database.atomTruth (hiring d.text "1998-07-01" "2003-06-30")) "faculty" 0
        ⟨"hired_on", .within summer98 summer03⟩ = some true ↔ Date.Within summer98 summer03 d := by
  have valid : tenured.validate.errors = [] := by decide +kernel
  have bounded : tenure.IsBounded := .inr ⟨rfl, rfl⟩
  obtain ⟨column, first, last, -, -, made, -, told, kept⟩ :=
    windows_in_text leapDay tenured tenure valid List.mem_cons_self bounded fun days opens => by cases opens
  have shown : dateClause leapDay tenure = .ok (some ⟨"hired_on", .within summer98 summer03⟩) := by decide +kernel
  cases made.symm.trans shown
  refine ⟨valid, List.mem_cons_self, bounded, rfl, fun d => ?_⟩
  have texts : Clause.params ⟨"hired_on", .within summer98 summer03⟩ <+: [.text "1998-07-01", .text "2003-06-30"] := by
    decide +kernel
  have asked : Clause.Asked ⟨"hired_on", .within summer98 summer03⟩ "faculty" 0 d.text
      (hiring d.text "1998-07-01" "2003-06-30") := ⟨texts, hiring_column _ _ _⟩
  rw [told "faculty" 0 d.text _ asked]
  exact kept.2 (.inr (.inl ⟨by decide, by decide⟩)) d

def endOf9999 : Date :=
  ⟨9999, 12, 31, rfl⟩

def endOf10000 : Date :=
  ⟨10000, 12, 31, rfl⟩

theorem late_tenure_lost :
    Filter.errors { contentType := .faculty
                    dates := [{ field := "hiredOn", start := some endOf9999, end_ := some endOf10000 }] } = [] ∧
      dateClause leapDay { field := "hiredOn", start := some endOf9999, end_ := some endOf10000 } =
        .ok (some ⟨"hired_on", .within endOf9999 endOf10000⟩) ∧
      Date.Within endOf9999 endOf10000 endOf9999 ∧ ¬ endOf9999.text ≤ endOf10000.text ∧
      Clause.truth (Database.atomTruth (hiring endOf9999.text endOf9999.text endOf10000.text)) "faculty" 0
        ⟨"hired_on", .within endOf9999 endOf10000⟩ = some false := by
  refine ⟨by decide +kernel, by decide +kernel, ⟨by decide, by decide⟩, by decide +kernel, by decide +kernel⟩

end Filter

end ArchiveSearch

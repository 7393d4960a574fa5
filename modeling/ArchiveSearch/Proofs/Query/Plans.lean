import Mathlib.Order.Bounds.Basic
import ArchiveSearch.Proofs.Text.Distances
import ArchiveSearch.Query.Plan

/- Plans against the lines they are read from. A plan is the best that any line tells of, so that the order of the lines
   does not matter, and further lines only improve it. -/
namespace ArchiveSearch

set_option autoImplicit false

def ScanType.rank : ScanType → Nat
  | .fullScan => 0
  | .index => 1
  | .fullText => 2

theorem ScanType.rank_injective (a b : ScanType) (same : a.rank = b.rank) : a = b := by
  cases a <;> cases b <;> first | rfl | cases same

theorem ScanType.rank_le_index (a : ScanType) : a.rank ≤ ScanType.index.rank ↔ a ≠ .fullText := by
  cases a <;> decide

theorem ScanType.rank_le_full_scan (a : ScanType) : a.rank ≤ ScanType.fullScan.rank ↔ a = .fullScan := by
  cases a <;> decide

namespace Plan

def Carries (marks : List String) (line : String) : Prop :=
  ∃ mark ∈ marks, mark.toList <:+: marked line

instance (marks : List String) (line : String) : Decidable (Carries marks line) :=
  inferInstanceAs (Decidable (∃ mark ∈ marks, mark.toList <:+: marked line))

theorem has_mark_iff (marks : List String) (line : String) :
    hasMark marks (marked line) = true ↔ Carries marks line := by
  simp only [hasMark, List.any_eq_true, Text.occurs_in_iff, Carries]

theorem scan_type_of_eq (line : String) :
    scanTypeOf line =
      if Carries fullTextMarks line then .fullText else if Carries indexMarks line then .index else .fullScan := by
  simp only [scanTypeOf, has_mark_iff]

theorem scan_type_of_full_text_iff (line : String) : scanTypeOf line = .fullText ↔ Carries fullTextMarks line := by
  rw [scan_type_of_eq]
  split
  · next fullText => exact iff_of_true rfl fullText
  · next plain =>
    refine iff_of_false ?_ plain
    split <;> decide

theorem scan_type_of_full_scan_iff (line : String) :
    scanTypeOf line = .fullScan ↔ ¬ Carries fullTextMarks line ∧ ¬ Carries indexMarks line := by
  rw [scan_type_of_eq]
  split
  · next fullText => exact iff_of_false (by decide) fun none_ => none_.1 fullText
  · next plain =>
    split
    · next index => exact iff_of_false (by decide) fun none_ => none_.2 index
    · next unmarked => exact iff_of_true rfl ⟨plain, unmarked⟩

theorem better_rank (a b : ScanType) : (better a b).rank = max a.rank b.rank := by
  cases a <;> cases b <;> rfl

theorem better_le (a b c : ScanType) : (better a b).rank ≤ c.rank ↔ a.rank ≤ c.rank ∧ b.rank ≤ c.rank := by
  rw [better_rank, Nat.max_le]

theorem larger_eq_max (a b : Option Nat) : larger a b = max a b := by
  cases a <;> cases b <;> rfl

theorem larger_le (a b c : Option Nat) : larger a b ≤ c ↔ a ≤ c ∧ b ≤ c := by
  rw [larger_eq_max, Option.max_le fun _ _ _ => Nat.max_le]

theorem folded_le_iff {α β : Type} (le : β → β → Prop) (join : β → β → β)
    (joined : ∀ a b c, le (join a b) c ↔ le a c ∧ le b c) (told : α → β) (start : β) (lines : List α) (c : β) :
    le (lines.foldl (fun found line => join found (told line)) start) c ↔
      le start c ∧ ∀ line ∈ lines, le (told line) c := by
  induction lines generalizing start with
  | nil => simp
  | cons line rest ih => rw [List.foldl_cons, ih, joined, and_assoc, List.forall_mem_cons]

theorem scan_type_le_iff (details : List String) (c : ScanType) :
    (ofDetails details).scanType.rank ≤ c.rank ↔ ∀ line ∈ details, (scanTypeOf line).rank ≤ c.rank := by
  have folded := folded_le_iff (fun a b : ScanType => a.rank ≤ b.rank) better better_le scanTypeOf .fullScan details c
  exact folded.trans (and_iff_right (Nat.zero_le c.rank))

theorem estimated_rows_le_iff (details : List String) (c : Option Nat) :
    (ofDetails details).estimatedRows ≤ c ↔ ∀ line ∈ details, rowsOf line ≤ c :=
  (folded_le_iff (· ≤ ·) larger larger_le rowsOf none details c).trans (and_iff_right Option.none_le)

theorem estimate_le_refl (rows : Option Nat) : rows ≤ rows := by
  cases rows with
  | none => exact Option.none_le
  | some n => exact Option.some_le_some.2 (Nat.le_refl n)

theorem estimate_le_antisymm (a b : Option Nat) (below : a ≤ b) (above : b ≤ a) : a = b := by
  cases a with
  | none => exact (Option.le_none.1 above).symm
  | some n =>
      cases b with
      | none => exact absurd below Option.not_some_le_none
      | some m => exact congrArg some (Nat.le_antisymm (Option.some_le_some.1 below) (Option.some_le_some.1 above))

structure Improves (p q : Plan) : Prop where
  scanType : p.scanType.rank ≤ q.scanType.rank
  usesIndex : p.usesIndex = true → q.usesIndex = true
  cost : q.cost ≤ p.cost
  rows : p.estimatedRows ≤ q.estimatedRows

theorem uses_index_iff (p : Plan) : p.usesIndex = true ↔ 1 ≤ p.scanType.rank := by
  unfold usesIndex
  cases p.scanType <;> decide

theorem cost_anti (a b : ScanType) (below : a.rank ≤ b.rank) : b.cost ≤ a.cost := by
  cases a <;> cases b <;> first | decide | exact absurd below (by decide)

theorem improves_of_subset (details more : List String) (within : details ⊆ more) :
    Improves (ofDetails details) (ofDetails more) := by
  have scanType : (ofDetails details).scanType.rank ≤ (ofDetails more).scanType.rank :=
    (scan_type_le_iff _ _).2 fun line mem => (scan_type_le_iff _ _).1 (Nat.le_refl _) line (within mem)
  refine ⟨scanType, fun uses => ?_, cost_anti _ _ scanType, ?_⟩
  · rw [uses_index_iff] at uses ⊢
    exact uses.trans scanType
  · exact (estimated_rows_le_iff _ _).2 fun line mem => (estimated_rows_le_iff _ _).1 (estimate_le_refl _) line (within mem)

theorem Improves.antisymm {p q : Plan} (better : Improves p q) (worse : Improves q p) :
    p.scanType = q.scanType ∧ p.usesIndex = q.usesIndex ∧ p.cost = q.cost ∧ p.estimatedRows = q.estimatedRows := by
  have scanType := ScanType.rank_injective _ _ (Nat.le_antisymm better.scanType worse.scanType)
  refine ⟨scanType, ?_, Nat.le_antisymm worse.cost better.cost, estimate_le_antisymm _ _ better.rows worse.rows⟩
  exact congrArg (· != .fullScan) scanType

theorem full_text_iff (details : List String) :
    (ofDetails details).scanType = .fullText ↔ ∃ line ∈ details, Carries fullTextMarks line := by
  have plain := scan_type_le_iff details .index
  simp only [ScanType.rank_le_index, Ne, scan_type_of_full_text_iff] at plain
  rw [← not_iff_not, plain]
  simp only [not_exists, not_and]

theorem full_scan_iff (details : List String) :
    (ofDetails details).scanType = .fullScan ↔
      ∀ line ∈ details, ¬ Carries fullTextMarks line ∧ ¬ Carries indexMarks line := by
  have lowest := scan_type_le_iff details .fullScan
  simp only [ScanType.rank_le_full_scan, scan_type_of_full_scan_iff] at lowest
  exact lowest

theorem scan_type_eq (details : List String) :
    (ofDetails details).scanType =
      if ∃ line ∈ details, Carries fullTextMarks line then .fullText
      else if ∃ line ∈ details, Carries indexMarks line then .index
      else .fullScan := by
  split
  · next fullText => exact (full_text_iff details).2 fullText
  · next plain =>
    have other := mt (full_text_iff details).1 plain
    split
    · next index =>
      obtain ⟨line, mem, carries⟩ := index
      have above := mt (full_scan_iff details).1 fun none_ => (none_ line mem).2 carries
      cases kind : (ofDetails details).scanType with
      | fullScan => exact absurd kind above
      | index => rfl
      | fullText => exact absurd kind other
    · next unmarked =>
      exact (full_scan_iff details).2 fun line mem =>
        ⟨fun carries => plain ⟨line, mem, carries⟩, fun carries => unmarked ⟨line, mem, carries⟩⟩

theorem estimate_told (start : Option Nat) (lines : List String) (n : Nat)
    (found : lines.foldl (fun found line => larger found (rowsOf line)) start = some n) :
    start = some n ∨ ∃ line ∈ lines, rowsOf line = some n := by
  induction lines generalizing start with
  | nil => exact .inl found
  | cons line rest ih =>
      rw [List.foldl_cons] at found
      rcases ih _ found with here | ⟨later, mem, told⟩
      · rw [larger_eq_max] at here
        have one : ∀ x y : Nat, max x y = x ∨ max x y = y := fun x y => by omega
        rcases Option.max_eq_or one (a := start) (b := rowsOf line) with first | second
        · exact .inl (first.symm.trans here)
        · exact .inr ⟨line, List.mem_cons_self, second.symm.trans here⟩
      · exact .inr ⟨later, List.mem_cons_of_mem _ mem, told⟩

theorem estimated_rows_iff (details : List String) (n : Nat) :
    (ofDetails details).estimatedRows = some n ↔ IsGreatest {m | ∃ line ∈ details, rowsOf line = some m} n := by
  have greatest : ∀ m, (ofDetails details).estimatedRows = some m →
      IsGreatest {m | ∃ line ∈ details, rowsOf line = some m} m := by
    intro m found
    refine ⟨(estimate_told none details m found).resolve_left (by simp), ?_⟩
    rintro k ⟨line, mem, told⟩
    have below := (estimated_rows_le_iff details (some m)).1 (found ▸ estimate_le_refl _) line mem
    exact Option.some_le_some.1 (told ▸ below)
  refine ⟨greatest n, fun largest => ?_⟩
  obtain ⟨line, mem, told⟩ := largest.1
  have above := (estimated_rows_le_iff details _).1 (estimate_le_refl _) line mem
  cases found : (ofDetails details).estimatedRows with
  | none => exact absurd (found ▸ told ▸ above) Option.not_some_le_none
  | some m => rw [(greatest m found).unique largest]

theorem best_of_all_lines (details : List String) :
    (∀ others, others.Perm details →
      (ofDetails others).scanType = (ofDetails details).scanType ∧
        (ofDetails others).usesIndex = (ofDetails details).usesIndex ∧
        (ofDetails others).cost = (ofDetails details).cost ∧
        (ofDetails others).estimatedRows = (ofDetails details).estimatedRows) ∧
    ((ofDetails details).scanType =
      if ∃ line ∈ details, Carries fullTextMarks line then .fullText
      else if ∃ line ∈ details, Carries indexMarks line then .index
      else .fullScan) ∧
    (∀ n, (ofDetails details).estimatedRows = some n ↔ IsGreatest {m | ∃ line ∈ details, rowsOf line = some m} n) ∧
    ∀ more, details.Sublist more → Improves (ofDetails details) (ofDetails more) := by
  refine ⟨fun others shuffled => ?_, scan_type_eq details, estimated_rows_iff details, fun more added => ?_⟩
  · exact (improves_of_subset others details shuffled.subset).antisymm
      (improves_of_subset details others shuffled.symm.subset)
  · exact improves_of_subset details more added.subset

def scanLine : String :=
  "SCAN alumni (~0120 rows)"

def indexLine : String :=
  "search alumni using index by_city (~७ rows)"

def fullTextLine : String :=
  "SCAN ALUMNI_FTS USING INDEX (~90 rows)"

theorem three_lines_in_any_order :
    [indexLine, scanLine].Perm [scanLine, indexLine] ∧ [scanLine, indexLine].Sublist [fullTextLine, scanLine, indexLine] ∧
      (ofDetails [indexLine, scanLine]).scanType = .index ∧ (ofDetails [indexLine, scanLine]).estimatedRows = some 120 ∧
      Improves (ofDetails [scanLine, indexLine]) (ofDetails [fullTextLine, scanLine, indexLine]) := by
  have shuffled : [indexLine, scanLine].Perm [scanLine, indexLine] := List.Perm.swap _ _ _
  have added : [scanLine, indexLine].Sublist [fullTextLine, scanLine, indexLine] := List.sublist_cons_self _ _
  obtain ⟨same, -, -, improves⟩ := best_of_all_lines [scanLine, indexLine]
  refine ⟨shuffled, added, (same _ shuffled).1.trans (by decide +kernel), ?_, improves _ added⟩
  exact (same _ shuffled).2.2.2.trans (by decide +kernel)

end Plan

end ArchiveSearch

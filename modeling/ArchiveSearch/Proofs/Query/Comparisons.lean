import ArchiveSearch.Proofs.Formula.Scanning
import ArchiveSearch.Proofs.Formula.Truth
import ArchiveSearch.Proofs.Query.Naming

/- Comparisons: what a clause and a match condition say, piece by piece, and that their texts read as just these
   pieces, wherever in a query they stand. -/
namespace ArchiveSearch

set_option autoImplicit false

def Comparison.pieces : Comparison → List Piece
  | .like => [.word "LIKE"]
  | .notLike => [.word "NOT", .word "LIKE"]
  | comparison => [.symbol comparison.name]

namespace Clause

def comparisons (table : String) (number : Nat) (c : Clause) : List (List Piece) :=
  let name := Piece.word (table ++ "." ++ c.column)
  match c.test with
  | .sameText _ => [[.word "LOWER", .group [name], .symbol "=", .word "LOWER", .group [.mark number]]]
  | .within _ _ => [[name, .symbol ">=", .mark number], [name, .symbol "<=", .mark (number + 1)]]
  | .since _ => [[name, .symbol ">=", .mark number]]
  | .upTo _ => [[name, .symbol "<=", .mark number]]
  | .between _ _ => [[name, .word "BETWEEN", .mark number, .word "AND", .mark (number + 1)]]
  | .flag _ => [[name, .symbol "=", .mark number]]
  | .compare comparison _ => [name :: comparison.pieces ++ [.mark number]]

def pieces (table : String) (number : Nat) (c : Clause) : List Piece :=
  match c.comparisons table number with
  | [comparison] => comparison
  | several => [.group ([Piece.word "AND"].intercalate several)]

end Clause

def Parts.membership (number : Nat) (p : Parts) : List Piece :=
  let fullText := Piece.word p.contentType.fullTextTable
  [.word (p.table ++ ".rowid"), .word "IN",
    .group [.word "SELECT", .word "rowid", .word "FROM", fullText, .word "WHERE", fullText, .word "MATCH",
      .mark number]]

theorem of_column_char (holds : Char → Prop)
    (each : ∀ n : Fin 128, Column.isColumnChar (Char.ofNat n) = true → holds (Char.ofNat n)) (c : Char)
    (plain : Column.isColumnChar c = true) : holds c := by
  have small : c.toNat < 128 := by
    simp only [Column.isColumnChar, Column.isLowerOrDigit, Bool.or_eq_true, Bool.and_eq_true,
      decide_eq_true_eq, beq_iff_eq] at plain
    rcases plain with (⟨_, high⟩ | ⟨_, high⟩) | rfl
    · exact Nat.lt_of_le_of_lt (show c.toNat ≤ 122 from high) (by decide)
    · exact Nat.lt_of_le_of_lt (show c.toNat ≤ 57 from high) (by decide)
    · decide
  simpa using each ⟨c.toNat, small⟩ (by simpa using plain)

theorem column_char_letter (c : Char) (plain : Column.isColumnChar c = true) : Token.Letter c :=
  of_column_char Token.Letter (by decide) c plain

theorem word_scans (w : String) (number : Nat) (letters : Token.Letters w.toList)
    (some_ : w.toList ≠ []) :
    ∃ last before, Token.flush .word (last :: before) = [.word w.toList] ∧
      Token.Scans number (.word []) w.toList [] number (.word (last :: before)) := by
  have scanned := Token.scans_letters number [] _ letters
  have flushed := Token.flush_reverse Token.word _ some_
  rw [List.append_nil] at scanned
  obtain ⟨last, before, reversed⟩ := List.exists_cons_of_ne_nil (List.reverse_ne_nil_iff.mpr some_)
  rw [reversed] at scanned flushed
  exact ⟨last, before, flushed, scanned⟩

theorem word_reads (w tail : String) (number next : Nat) (ps : List Piece)
    (letters : Token.Letters w.toList) (some_ : w.toList ≠ [])
    (scans : ∀ last before, Token.Scans number (.word (last :: before)) tail.toList
      (Token.flush .word (last :: before) ++ Piece.tokensAll ps) next (.word [])) :
    Token.Reads number (w ++ tail) (Piece.word w :: ps) next := by
  obtain ⟨last, before, flushed, scanned⟩ := word_scans w number letters some_
  have all := Token.scans_append _ _ _ _ _ _ _ _ _ _ scanned (scans last before)
  rw [flushed] at all
  rw [Token.Reads, String.toList_append]
  exact all

theorem spaced_reads (w : String) (number : Nat) (letters : Token.Letters w.toList) (some_ : w.toList ≠ []) :
    Token.Reads number (w ++ " ") [.word w] number :=
  word_reads w " " number number [] letters some_ fun _ _ _ => rfl

def spaced : List String → String
  | [] => ""
  | w :: rest => w ++ " " ++ spaced rest

theorem words_read (number : Nat) (ws : List String) (words : ∀ w ∈ ws, Token.Letters w.toList ∧ w.toList ≠ []) :
    Token.Reads number (spaced ws) (ws.map .word) number := by
  induction ws with
  | nil => exact fun _ => rfl
  | cons w rest ih =>
      obtain ⟨⟨letters, some_⟩, others⟩ := List.forall_mem_cons.1 words
      exact Token.reads_append _ _ _ _ _ _ _ (spaced_reads w number letters some_) (ih others)

variable (contentType : ContentType)

theorem table_letters : Token.Letters contentType.table.toList := by
  cases contentType <;> decide

theorem full_text_table_letters : Token.Letters contentType.fullTextTable.toList := by
  cases contentType <;> decide

theorem table_append_ne_nil (rest : String) : (contentType.table ++ rest).toList ≠ [] := by
  have some_ : contentType.table.toList ≠ [] := by cases contentType <;> decide
  rw [String.toList_append]
  exact List.append_ne_nil_of_left_ne_nil some_ _

theorem row_letters : Token.Letters (contentType.table ++ ".rowid").toList := by
  cases contentType <;> decide

variable (column : String) (named : ∃ field, Column.ofField? field = some column)
include named

theorem name_letters : Token.Letters (contentType.table ++ "." ++ column).toList := by
  obtain ⟨field, found⟩ := named
  intro c member
  rw [String.toList_append, String.toList_append, List.mem_append, List.mem_append] at member
  rcases member with (inTable | point) | inColumn
  · exact table_letters contentType c inTable
  · have here : c = '.' := List.mem_singleton.mp point
    exact here ▸ by decide
  · exact column_char_letter c (Column.of_field_chars field column found c inColumn)

theorem name_reads (number next : Nat) (tail : String) (ps : List Piece)
    (scans : ∀ last before, Token.Scans number (.word (last :: before)) tail.toList
      (Token.flush .word (last :: before) ++ Piece.tokensAll ps) next (.word [])) :
    Token.Reads number (contentType.table ++ "." ++ column ++ tail)
      (Piece.word (contentType.table ++ "." ++ column) :: ps) next := by
  refine word_reads _ tail number next ps (name_letters contentType column named) ?_ scans
  rw [String.append_assoc]
  exact table_append_ne_nil contentType _

theorem lowered_reads (number : Nat) :
    Token.Reads number ("LOWER(" ++ (contentType.table ++ "." ++ column) ++ ") = LOWER(?)")
      [.word "LOWER", .group [.word (contentType.table ++ "." ++ column)], .symbol "=", .word "LOWER",
        .group [.mark number]] (number + 1) := by
  obtain ⟨last, before, flushed, scanned⟩ := word_scans (contentType.table ++ "." ++ column) number
    (name_letters contentType column named) (by
      rw [String.append_assoc]
      exact table_append_ne_nil contentType _)
  have first : Token.Scans number (.word []) "LOWER(".toList [.word "LOWER".toList, .opening] number
      (.word []) := fun _ => rfl
  have joint : Token.Scans number (.word (last :: before)) ") = ".toList
      (Token.flush .word (last :: before) ++ [Token.closing, .symbol "=".toList]) number (.word []) := fun _ => rfl
  have other := word_reads "LOWER" "(?)" number (number + 1) [.group [.mark number]] (by decide) (by decide)
    fun _ _ _ => rfl
  have all := Token.scans_append _ _ _ _ _ _ _ _ _ _ (Token.scans_append _ _ _ _ _ _ _ _ _ _
    (Token.scans_append _ _ _ _ _ _ _ _ _ _ first scanned) joint) other
  rw [flushed] at all
  have split : ") = LOWER(?)" = ") = " ++ ("LOWER" ++ "(?)") := by decide
  rw [Token.Reads, split, ← String.append_assoc, String.toList_append, String.toList_append, String.toList_append]
  exact all

theorem compare_reads (number : Nat) (comparison : Comparison) :
    Token.Reads number (contentType.table ++ "." ++ column ++ (" " ++ comparison.name ++ " ?"))
      (Piece.word (contentType.table ++ "." ++ column) :: comparison.pieces ++ [Piece.mark number])
      (number + 1) := by
  apply name_reads contentType column named number (number + 1)
  intro last before rest
  cases comparison <;> rfl

theorem window_reads (number : Nat) :
    Token.Reads number ("(" ++ (contentType.table ++ "." ++ column) ++ " >= ? AND " ++
        (contentType.table ++ "." ++ column) ++ " <= ?)")
      [.group [.word (contentType.table ++ "." ++ column), .symbol ">=", .mark number, .word "AND",
        .word (contentType.table ++ "." ++ column), .symbol "<=", .mark (number + 1)]] (number + 2) := by
  have first := name_reads contentType column named number (number + 1) " >= ? AND "
    [.symbol ">=", .mark number, .word "AND"] fun _ _ _ => rfl
  have last := name_reads contentType column named (number + 1) (number + 2) " <= ?"
    [.symbol "<=", .mark (number + 1)] fun _ _ _ => rfl
  have all := Token.reads_group _ _ _ _ (Token.reads_append _ _ _ _ _ _ _ first last)
  have parenthesis : " <= ?)" = " <= ?" ++ ")" := by decide
  simpa only [parenthesis, String.append_assoc, List.cons_append, List.nil_append] using all

theorem between_reads (number : Nat) :
    Token.Reads number (contentType.table ++ "." ++ column ++ " BETWEEN ? AND ?")
      [.word (contentType.table ++ "." ++ column), .word "BETWEEN", .mark number, .word "AND", .mark (number + 1)]
      (number + 2) := by
  have first := name_reads contentType column named number number " " [] fun _ _ _ => rfl
  have last := word_reads "BETWEEN" " ? AND ?" number (number + 2) [.mark number, .word "AND", .mark (number + 1)]
    (by decide) (by decide) fun _ _ _ => rfl
  have all := Token.reads_append _ _ _ _ _ _ _ first last
  have split : " BETWEEN ? AND ?" = " " ++ ("BETWEEN" ++ " ? AND ?") := by decide
  rw [split, ← String.append_assoc]
  exact all

omit named in
theorem clause_reads (clause : Clause) (number : Nat)
    (named : ∃ field, Column.ofField? field = some clause.column) :
    Token.Reads number (clause.text contentType.table) (clause.pieces contentType.table number)
      (number + clause.params.length) := by
  obtain ⟨column, test⟩ := clause
  cases test with
  | sameText value => exact lowered_reads contentType column named number
  | within first last => exact window_reads contentType column named number
  | since first => exact name_reads contentType column named number _ " >= ?" _ fun _ _ _ => rfl
  | upTo last => exact name_reads contentType column named number _ " <= ?" _ fun _ _ _ => rfl
  | between least most => exact between_reads contentType column named number
  | flag value => exact name_reads contentType column named number _ " = ?" _ fun _ _ _ => rfl
  | compare comparison value =>
      have all := compare_reads contentType column named number comparison
      rw [← String.append_assoc, ← String.append_assoc] at all
      exact all

omit column named in
theorem membership_reads (p : Parts) (number : Nat) :
    Token.Reads number (p.table ++ ".rowid IN (SELECT rowid FROM " ++ p.contentType.fullTextTable ++
      " WHERE " ++ p.contentType.fullTextTable ++ " MATCH ?)") (p.membership number) (number + 1) := by
  have full : p.contentType.fullTextTable.toList ≠ [] := table_append_ne_nil p.contentType "_fts"
  have row := word_reads (p.table ++ ".rowid") " IN " number number [.word "IN"]
    (row_letters p.contentType) (table_append_ne_nil p.contentType _) fun _ _ _ => rfl
  have select := words_read number ["SELECT", "rowid", "FROM"] (by decide)
  have searched := word_reads p.contentType.fullTextTable " WHERE " number number [.word "WHERE"]
    (full_text_table_letters p.contentType) full fun _ _ _ => rfl
  have asked := word_reads p.contentType.fullTextTable " MATCH ?" number (number + 1)
    [.word "MATCH", .mark number] (full_text_table_letters p.contentType) full fun _ _ _ => rfl
  have found := Token.reads_group _ _ _ _ (Token.reads_append _ _ _ _ _ _ _
    (Token.reads_append _ _ _ _ _ _ _ select searched) asked)
  have all := Token.reads_append _ _ _ _ _ _ _ row found
  have open_ : ".rowid IN (SELECT rowid FROM " = ".rowid" ++ " IN " ++ "(" ++ spaced ["SELECT", "rowid", "FROM"] := by
    decide
  have close : " MATCH ?)" = " MATCH ?" ++ ")" := by decide
  simpa only [open_, close, String.append_assoc, List.map_cons, List.map_nil, List.cons_append, List.nil_append,
    Parts.membership] using all

end ArchiveSearch

import ArchiveSearch.Proofs.Formula.Pieces

namespace ArchiveSearch.Token

set_option autoImplicit false

def Scans (number : Nat) (mode : Mode) (cs : List Char) (ts : List Token) (next : Nat) (final : Mode) : Prop :=
  ∀ rest, scan number mode (cs ++ rest) = ts ++ scan next final rest

theorem scans_append (number middle next : Nat) (mode between final : Mode) (a b : List Char)
    (ts us : List Token) (first : Scans number mode a ts middle between)
    (second : Scans middle between b us next final) : Scans number mode (a ++ b) (ts ++ us) next final := by
  intro rest
  rw [List.append_assoc, first, second, List.append_assoc]

def Letter (c : Char) : Prop :=
  isWordChar c = true ∧ Text.isBlank c = false

instance (c : Char) : Decidable (Letter c) :=
  inferInstanceAs (Decidable (isWordChar c = true ∧ Text.isBlank c = false))

def Letters (w : List Char) : Prop :=
  ∀ c ∈ w, Letter c

instance (w : List Char) : Decidable (Letters w) :=
  List.decidableBAll Letter w

theorem letter_unmarked (c : Char) (letter : Letter c) :
    c ≠ '?' ∧ c ≠ '(' ∧ c ≠ ')' ∧ c ≠ ',' ∧ c ≠ '\'' ∧ c ≠ '"' := by
  have word := letter.1
  refine ⟨?_, ?_, ?_, ?_, ?_, ?_⟩ <;> (rintro rfl; revert word; decide)

theorem step_letter (number : Nat) (before : List Char) (c : Char) (letter : Letter c) :
    step number (.word before) c = ([], number, .word (c :: before)) := by
  obtain ⟨mark, opening, closing, comma, single, double⟩ := letter_unmarked c letter
  simp [step, Mode.isQuoted, letter.2, ofMark, mark, opening, closing, comma, single, double, Mode.extend,
    letter.1]

theorem scans_letters (number : Nat) (before w : List Char) (letters : Letters w) :
    Scans number (.word before) w [] number (.word (w.reverse ++ before)) := by
  intro rest
  induction w generalizing before with
  | nil => rfl
  | cons c w ih =>
      have later := ih (c :: before) fun d member => letters d (List.mem_cons_of_mem _ member)
      rw [List.cons_append, scan, step_letter number before c (letters c List.mem_cons_self)]
      simpa using later

theorem flush_some (make : List Char → Token) (chars : List Char) (some_ : chars ≠ []) :
    flush make chars = [make chars.reverse] := by
  cases chars with
  | nil => exact absurd rfl some_
  | cons c chars => rfl

theorem flush_reverse (make : List Char → Token) (chars : List Char) (some_ : chars ≠ []) :
    flush make chars.reverse = [make chars] := by
  rw [flush_some make _ (List.reverse_ne_nil_iff.mpr some_), List.reverse_reverse]

def Reads (number : Nat) (text : String) (pieces : List Piece) (next : Nat) : Prop :=
  Scans number (.word []) text.toList (Piece.tokensAll pieces) next (.word [])

theorem reads_append (number middle next : Nat) (a b : String) (ps qs : List Piece)
    (first : Reads number a ps middle) (second : Reads middle b qs next) :
    Reads number (a ++ b) (ps ++ qs) next := by
  rw [Reads, String.toList_append, Piece.tokens_all_append]
  exact scans_append _ _ _ _ _ _ _ _ _ _ first second

theorem reads_group (number next : Nat) (text : String) (ps : List Piece) (reads : Reads number text ps next) :
    Reads number ("(" ++ text ++ ")") [.group ps] next := by
  have opened : Scans number (.word []) ['('] [.opening] number (.word []) := fun _ => rfl
  have closed : Scans next (.word []) [')'] [.closing] next (.word []) := fun _ => rfl
  have all := scans_append _ _ _ _ _ _ _ _ _ _ (scans_append _ _ _ _ _ _ _ _ _ _ opened reads) closed
  have first : "(".toList = ['('] := rfl
  have last : ")".toList = [')'] := rfl
  rw [Reads, String.toList_append, String.toList_append, first, last, Piece.tokens_all_one, Piece.tokens]
  exact all

def ReadsToEnd (number : Nat) (text : String) (pieces : List Piece) : Prop :=
  scan number (.word []) text.toList = Piece.tokensAll pieces

theorem reads_to_end (number next : Nat) (text : String) (ps : List Piece) (reads : Reads number text ps next) :
    ReadsToEnd number text ps := by
  have all := reads []
  have last : scan next (.word []) [] = [] := rfl
  rwa [last, List.append_nil, List.append_nil] at all

theorem to_end_append (number middle : Nat) (a b : String) (ps qs : List Piece) (first : Reads number a ps middle)
    (last : ReadsToEnd middle b qs) : ReadsToEnd number (a ++ b) (ps ++ qs) := by
  rw [ReadsToEnd] at last ⊢
  rw [String.toList_append, Piece.tokens_all_append, first, last]

theorem to_end_pieces (text : String) (ps : List Piece) (plain : Piece.PlainAll ps) (ends : ReadsToEnd 0 text ps) :
    Piece.ofText? text = some ps := by
  rw [Piece.ofText?, ofText, ends]
  exact Piece.nest_all ps plain

theorem reads_pieces (text : String) (pieces : List Piece) (next : Nat) (plain : Piece.PlainAll pieces)
    (reads : Reads 0 text pieces next) : Piece.ofText? text = some pieces :=
  to_end_pieces text pieces plain (reads_to_end 0 next text pieces reads)

end ArchiveSearch.Token

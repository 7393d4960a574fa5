import ArchiveSearch.Proofs.Query.Meaning
import ArchiveSearch.Proofs.Simplify.Fixpoint
import ArchiveSearch.Proofs.Simplify.Neutral
import ArchiveSearch.Proofs.Simplify.Peeling
import ArchiveSearch.Proofs.Simplify.Squeezing

/- The simplest text of a condition is the text of a condition with the same truth, whatever its atoms say. What
   clauses and match conditions compare are such atoms. -/
namespace ArchiveSearch

set_option autoImplicit false

open Formula (Atom Valuation)
open Piece (tokensAll SnugAll)

def Token.equatesOne : List Token → Bool
  | .symbol s :: .word w :: rest => (s == ['='] && w.head? == some '1') || equatesOne (.word w :: rest)
  | _ :: rest => equatesOne rest
  | [] => false

theorem Token.equates_behind (t : Token) (rest : List Token) (equates : equatesOne rest = true) :
    equatesOne (t :: rest) = true := by
  cases t with
  | symbol s =>
      cases rest with
      | nil => cases equates
      | cons t rest =>
          cases t with
          | word w => rw [equatesOne, equates, Bool.or_true]
          | _ => exact equates
  | _ => exact equates

theorem Token.equates_apart (ts : List Token) (none_ : equatesOne ts = false) (before : List Token)
    (u v : List Char) (behind : List Token)
    (split : ts = before ++ (.word u :: .symbol ['='] :: .word v :: behind)) : ¬ Formula.Equation u v := by
  rintro ⟨_, first⟩
  have here : equatesOne (.word u :: .symbol ['='] :: .word v :: behind) = true := by
    simp [equatesOne, first]
  have all : equatesOne ts = true := by
    rw [split]
    clear split
    induction before with
    | nil => exact here
    | cons t before ih => exact equates_behind t _ ih
  rw [none_] at all
  cases all

theorem comparison_atom (table : String) (number : Nat) (c : Clause) :
    ∀ o ∈ c.comparisons table number, Atom o := by
  intro o member
  obtain ⟨closed, plain, lone⟩ := comparison_shaped table number c o member
  suffices rest : o ≠ [] ∧ SnugAll o ∧ (∀ cs, .quoted cs ∉ tokensAll o) ∧ Token.equatesOne (tokensAll o) = false by
    obtain ⟨some_, snug, unquoted, apart⟩ := rest
    exact ⟨some_, plain, closed, lone, snug, unquoted, fun before u v behind split =>
      Token.equates_apart _ apart before u v behind split⟩
  obtain ⟨column, test⟩ := c
  have compared : ∀ (symbol : String) (number : Nat) (o : List Piece),
      o = [.word (table ++ "." ++ column), .symbol symbol, .mark number] →
      o ≠ [] ∧ SnugAll o ∧ (∀ cs, .quoted cs ∉ tokensAll o) ∧ Token.equatesOne (tokensAll o) = false := by
    rintro symbol number _ rfl
    refine ⟨by simp, ⟨trivial, trivial, trivial, trivial⟩, ?_, rfl⟩
    simp [tokensAll, Piece.tokens, Piece.word, Piece.symbol, Piece.mark]
  cases test with
  | sameText value =>
      rw [List.mem_singleton.mp member]
      refine ⟨by simp, ?_, ?_, rfl⟩
      · simp [SnugAll, Piece.Snug, Piece.word, Piece.symbol, Piece.mark]
      · simp [tokensAll, Piece.tokens, Piece.word, Piece.symbol, Piece.mark]
  | within first last =>
      rcases List.mem_cons.mp member with rfl | member
      · exact compared ">=" number _ rfl
      · exact compared "<=" (number + 1) _ (List.mem_singleton.mp member)
  | since first => exact compared ">=" number _ (List.mem_singleton.mp member)
  | upTo last => exact compared "<=" number _ (List.mem_singleton.mp member)
  | between least most =>
      rw [List.mem_singleton.mp member]
      refine ⟨by simp, ⟨trivial, trivial, trivial, trivial, trivial, trivial⟩, ?_, rfl⟩
      simp [tokensAll, Piece.tokens, Piece.word, Piece.mark]
  | flag value => exact compared "=" number _ (List.mem_singleton.mp member)
  | compare comparison value =>
      rw [List.mem_singleton.mp member]
      cases comparison with
      | like | notLike =>
          refine ⟨by simp, ?_, ?_, rfl⟩
          · simp [SnugAll, Piece.Snug, Piece.word, Piece.mark, Comparison.pieces]
          · simp [tokensAll, Piece.tokens, Piece.word, Piece.mark, Comparison.pieces]
      | _ => exact compared _ number _ rfl

theorem membership_atom (p : Parts) (number : Nat) : Atom (p.membership number) := by
  obtain ⟨closed, plain, lone⟩ := membership_shaped p number
  refine ⟨by simp [Parts.membership], plain, closed, lone, ?_, ?_, ?_⟩
  · simp [Parts.membership, SnugAll, Piece.Snug, Piece.word, Piece.mark]
  · simp [Parts.membership, tokensAll, Piece.tokens, Piece.word, Piece.mark]
  · exact fun before u v behind split => Token.equates_apart _ rfl before u v behind split

theorem clause_condition (table : String) (number : Nat) (c : Clause) : Formula.Condition (c.pieces table number) := by
  have atoms := comparison_atom table number c
  have single : ∀ o, c.comparisons table number = [o] → Formula.Condition (c.pieces table number) := by
    intro o one
    rw [Clause.pieces, one]
    exact .atom o (atoms o (one ▸ List.mem_cons_self))
  obtain ⟨column, test⟩ := c
  cases test with
  | within first last =>
      have connects : Token.Connects (.word "AND".toList) := by
        left
        decide
      refine .group _ (.joined _ _ _ connects (.atom _ (atoms _ List.mem_cons_self)) (.atom _ (atoms _ ?_)))
      exact List.mem_cons_of_mem _ List.mem_cons_self
  | _ => exact single _ rfl

namespace Simplify

theorem round_same (cs : List Char) : Same cs (round cs) :=
  same_trans _ _ _ (drop_neutral_same cs) (same_trans _ _ _ (drop_doubled_same _) (squeeze_same _))

theorem rounds_same (cs : Squeezed) : Same cs.1 (rounds cs) := by
  fun_induction rounds cs with
  | case1 cs => exact same_refl cs.1
  | case2 cs next _ ih => exact same_trans _ _ _ (round_same cs.1) ih

end Simplify

open Simplify

theorem Piece.of_text_of_list (cs : List Char) :
    Piece.ofText? (String.ofList cs) = nest [] [] (Token.scan 0 (.word []) cs) := by
  rw [ofText?, Token.ofText, String.toList_ofList]

theorem Piece.of_text_append (cs ds : List Char) :
    Piece.ofText? (String.ofList cs ++ String.ofList ds) = nest [] [] (Token.scan 0 (.word []) (cs ++ ds)) := by
  rw [← String.ofList_append, of_text_of_list]

theorem simplify_keeps_truth (text : String) (pieces : List Piece) (reads : Piece.ofText? text = some pieces)
    (condition : Formula.Condition pieces) :
    ∃ simpler, Piece.ofText? (simplify text) = some simpler ∧ Formula.Condition simpler ∧
      ∀ v : Valuation, (Formula.ofPieces simpler).truth v.atoms = (Formula.ofPieces pieces).truth v.atoms := by
  have same := same_trans _ _ _ (squeeze_same text.toList) (rounds_same ⟨_, squeeze_idempotent text.toList⟩)
  obtain ⟨simpler, tells, condition', values⟩ := same pieces reads condition
  refine ⟨simpler, ?_, condition', values⟩
  rw [simplify, Piece.of_text_of_list]
  exact tells

def laidOut : String :=
  "((alumni.year  BETWEEN ?\n AND ? )) Or 0=1 oR (0=1 AND LOWER( alumni.city)=LOWER(?) AND " ++
    "alumni.rowid IN (SELECT rowid FROM alumni_fts WHERE alumni_fts MATCH ? )) aNd 1=1"

def yearWindow : List Piece :=
  Clause.pieces "alumni" 0 ⟨"year", .between ⟨0⟩ ⟨0⟩⟩

def loweredCity : List Piece :=
  Clause.pieces "alumni" 2 ⟨"city", .sameText ""⟩

def matchedAlumni : List Piece :=
  Parts.membership 3 ⟨.alumni, .and, [], []⟩

def laidOutPieces : List Piece :=
  .group [.group yearWindow] :: .word "Or" :: (Formula.constant false ++ .word "oR" ::
    .group (Formula.constant false ++ .word "AND" :: (loweredCity ++ .word "AND" :: matchedAlumni)) ::
      .word "aNd" :: Formula.constant true)

theorem laid_out_condition : Formula.Condition laidOutPieces := by
  have window := clause_condition "alumni" 0 ⟨"year", .between ⟨0⟩ ⟨0⟩⟩
  have lowered := clause_condition "alumni" 2 ⟨"city", .sameText ""⟩
  have matched := Formula.Condition.atom _ (membership_atom ⟨.alumni, .and, [], []⟩ 3)
  have within : Token.Connects (.word "AND".toList) := .inl (by decide)
  have last : Token.Connects (.word "aNd".toList) := .inl (by decide)
  have second : Token.Connects (.word "oR".toList) := .inr (by decide)
  have first : Token.Connects (.word "Or".toList) := .inr (by decide)
  have compared := Formula.Condition.joined _ _ _ within lowered matched
  have inner := Formula.Condition.joined _ _ _ within (.constant false) compared
  have conjoined := Formula.Condition.joined _ _ _ last (.group _ inner) (.constant true)
  have behind := Formula.Condition.joined _ _ _ second (.constant false) conjoined
  exact .joined _ _ _ first (.group _ (.group _ window)) behind

theorem laid_out_keeps_truth :
    Piece.ofText? laidOut = some laidOutPieces ∧ Formula.Condition laidOutPieces ∧
      ∃ simpler, Piece.ofText? (simplify laidOut) = some simpler ∧ Formula.Condition simpler ∧
        ∀ v : Valuation, (Formula.ofPieces simpler).truth v.atoms = v.atoms yearWindow := by
  have closes : Piece.nest [] [] (tokensAll laidOutPieces) = some laidOutPieces := rfl
  have laid : Piece.ofText? laidOut = some laidOutPieces :=
    (Piece.of_text_append _ _).trans ((congrArg _ (by decide +kernel)).trans closes)
  obtain ⟨simpler, reads, condition, same⟩ := simplify_keeps_truth laidOut laidOutPieces laid laid_out_condition
  refine ⟨laid, laid_out_condition, simpler, reads, condition, fun v => (same v).trans ?_⟩
  have formula : Formula.ofPieces laidOutPieces = .or [.atom yearWindow, .atom (Formula.constant false),
      .and [.and [.atom (Formula.constant false), .atom loweredCity, .atom matchedAlumni],
        .atom (Formula.constant true)]] := rfl
  rw [formula]
  simp only [Formula.truth, Formula.truths, v.constants, Formula.conjunction]
  cases v.atoms yearWindow with
  | none => rfl
  | some t => cases t <;> rfl

end ArchiveSearch

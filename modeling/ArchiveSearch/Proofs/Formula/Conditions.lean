import ArchiveSearch.Proofs.Formula.Truth
import ArchiveSearch.Proofs.Text.Folding

/- Conditions: atoms and constants, joined by connectives and put into parentheses. What a condition comes to
   beside others does not depend on how it was built. -/
namespace ArchiveSearch

set_option autoImplicit false

open Text (Keyword Spells)

namespace Token

def Connects (t : Token) : Prop :=
  t.isKeyword "and" = true ∨ t.isKeyword "or" = true

theorem and_spells (w : List Char) : Token.isKeyword "and" (.word w) = true ↔ Spells .and w := by
  have folded : "and".toList.map Text.foldChar = Keyword.and.letters.map Text.foldChar := by decide
  rw [Text.spells_iff, Token.isKeyword, beq_iff_eq, folded]

theorem or_spells (w : List Char) : Token.isKeyword "or" (.word w) = true ↔ Spells .or w := by
  have folded : "or".toList.map Text.foldChar = Keyword.or.letters.map Text.foldChar := by decide
  rw [Text.spells_iff, Token.isKeyword, beq_iff_eq, folded]

theorem keyword_word (name : String) (t : Token) (known : t.isKeyword name = true) : ∃ w, t = .word w := by
  cases t with
  | word w => exact ⟨w, rfl⟩
  | placeholder | symbol | quoted | comma | opening | closing => cases known

theorem connects_spells (t : Token) (connects : Connects t) :
    ∃ w, t = .word w ∧ (Spells .and w ∨ Spells .or w) := by
  rcases connects with conjoins | disjoins
  · obtain ⟨w, rfl⟩ := keyword_word "and" t conjoins
    exact ⟨w, rfl, .inl ((and_spells w).mp conjoins)⟩
  · obtain ⟨w, rfl⟩ := keyword_word "or" t disjoins
    exact ⟨w, rfl, .inr ((or_spells w).mp disjoins)⟩

theorem spells_head_apart (w : List Char) (both : Spells .and w ∧ Spells .or w) : False := by
  have first := both.1.length_eq
  rw [both.2.length_eq] at first
  exact absurd first (by decide)

theorem and_not_or (t : Token) (conjoins : t.isKeyword "and" = true) : t.isKeyword "or" = false := by
  obtain ⟨w, rfl⟩ := keyword_word "and" t conjoins
  rw [Bool.eq_false_iff]
  intro disjoins
  exact spells_head_apart w ⟨(and_spells w).mp conjoins, (or_spells w).mp disjoins⟩

end Token

namespace Piece

mutual
def Snug : Piece → Prop
  | .token _ => True
  | .group pieces => (∀ inner, pieces ≠ [.group inner]) ∧ SnugAll pieces
def SnugAll : List Piece → Prop
  | [] => True
  | p :: rest => p.Snug ∧ SnugAll rest
end

end Piece

namespace Formula

open Piece (tokensAll PlainAll SnugAll)
open Token (Connects)

def Equation (u v : List Char) : Prop :=
  (u.getLast? = some '0' ∨ u.getLast? = some '1') ∧ v.head? = some '1'

structure Atom (o : List Piece) : Prop where
  some_ : o ≠ []
  plain : PlainAll o
  closed : Closed o
  lone : ∀ pieces, o ≠ [.group pieces]
  snug : SnugAll o
  unquoted : ∀ cs, .quoted cs ∉ tokensAll o
  apart : ∀ before u v behind,
    tokensAll o = before ++ (.word u :: .symbol ['='] :: .word v :: behind) → ¬ Equation u v

inductive Condition : List Piece → Prop
  | atom (o : List Piece) (atom : Atom o) : Condition o
  | constant (b : Bool) : Condition (constant b)
  | group (pieces : List Piece) (inner : Condition pieces) : Condition [.group pieces]
  | joined (left right : List Piece) (t : Token) (connects : Connects t) (first : Condition left)
      (second : Condition right) : Condition (left ++ .token t :: right)

theorem condition_plain (ps : List Piece) (condition : Condition ps) : PlainAll ps := by
  induction condition with
  | atom o atom => exact atom.plain
  | constant b => cases b <;> simp [constant, PlainAll, Piece.Plain, Piece.word, Piece.symbol]
  | group pieces _ ih => exact ⟨ih, trivial⟩
  | joined left right t connects _ _ first second =>
      obtain ⟨w, rfl, _⟩ := Token.connects_spells t connects
      rw [Piece.plain_all_append]
      exact ⟨first, ⟨by simp, by simp⟩, second⟩

theorem condition_unquoted (ps : List Piece) (condition : Condition ps) (cs : List Char) :
    .quoted cs ∉ tokensAll ps := by
  induction condition with
  | atom o atom => exact atom.unquoted cs
  | constant b => cases b <;> simp [constant, tokensAll, Piece.tokens, Piece.word, Piece.symbol]
  | group pieces _ ih => simpa [tokensAll, Piece.tokens] using ih
  | joined left right t connects _ _ first second =>
      obtain ⟨w, rfl, _⟩ := Token.connects_spells t connects
      simpa [tokensAll, Piece.tokens] using ⟨first, second⟩

structure Sums (atoms : List Piece → Option Bool) (ps : List Piece) (before held done now : Option Bool) :
    Prop where
  last : valueFrom atoms before held ps = either done now
  beforeAnd : ∀ t rest, t.isKeyword "and" = true →
    valueFrom atoms before held (ps ++ .token t :: rest) = valueFrom atoms done now rest
  beforeOr : ∀ t rest, t.isKeyword "or" = true →
    valueFrom atoms before held (ps ++ .token t :: rest) = valueFrom atoms (either done now) (some true) rest

variable (atoms : List Piece → Option Bool)

theorem closed_sums (o : List Piece) (closed : Closed o) (before held : Option Bool) :
    Sums atoms o before held before (both held (value atoms o)) where
  last := value_last atoms before held o closed
  beforeAnd t rest conjoins := value_before_and atoms before held o rest (.token t) closed conjoins
    (Token.and_not_or t conjoins)
  beforeOr t rest disjoins := value_before_or atoms before held o rest (.token t) closed disjoins

theorem sums_behind (left : List Piece) (t : Token) (connects : Connects t) (before held done now : Option Bool)
    (sums : Sums atoms left before held done now) :
    ∃ before' held', ∀ rest, valueFrom atoms before held (left ++ .token t :: rest) =
      valueFrom atoms before' held' rest := by
  rcases connects with conjoins | disjoins
  · exact ⟨done, now, fun rest => sums.beforeAnd t rest conjoins⟩
  · exact ⟨either done now, some true, fun rest => sums.beforeOr t rest disjoins⟩

theorem sums_joined (left right : List Piece) (t : Token) (before held before' held' done now : Option Bool)
    (behind : ∀ rest, valueFrom atoms before held (left ++ .token t :: rest) =
      valueFrom atoms before' held' rest)
    (sums : Sums atoms right before' held' done now) :
    Sums atoms (left ++ .token t :: right) before held done now := by
  have moved : ∀ rest, valueFrom atoms before held (left ++ .token t :: right ++ rest) =
      valueFrom atoms before' held' (right ++ rest) := by
    intro rest
    rw [List.append_assoc, List.cons_append, behind]
  exact {
    last := by rw [behind, sums.last]
    beforeAnd := fun t' rest conjoins => by rw [moved, sums.beforeAnd t' rest conjoins]
    beforeOr := fun t' rest disjoins => by rw [moved, sums.beforeOr t' rest disjoins] }

theorem constant_closed (b : Bool) : Closed (constant b) := by
  cases b <;> decide

theorem group_closed (pieces : List Piece) : Closed [.group pieces] :=
  inert_closed _ (by simp [Inert, Piece.isKeyword])

theorem condition_sums (ps : List Piece) (condition : Condition ps) (before held : Option Bool) :
    ∃ done now, Sums atoms ps before held done now := by
  induction condition generalizing before held with
  | atom o atom => exact ⟨_, _, closed_sums atoms o atom.closed before held⟩
  | constant b => exact ⟨_, _, closed_sums atoms _ (constant_closed b) before held⟩
  | group pieces => exact ⟨_, _, closed_sums atoms _ (group_closed pieces) before held⟩
  | joined left right t connects _ _ first second =>
      obtain ⟨done, now, sums⟩ := first before held
      obtain ⟨before', held', behind⟩ := sums_behind atoms left t connects before held done now sums
      obtain ⟨done', now', others⟩ := second before' held'
      exact ⟨done', now', sums_joined atoms left right t _ _ _ _ _ _ behind others⟩

def Lefts (left : List Piece) : Prop :=
  left = [] ∨ ∃ l t, left = l ++ [.token t] ∧ Condition l ∧ Connects t

def Rights (right : List Piece) : Prop :=
  right = [] ∨ ∃ t r, right = .token t :: r ∧ Connects t ∧ Condition r

theorem lefts_condition (left ps : List Piece) (lefts : Lefts left) (condition : Condition ps) :
    Condition (left ++ ps) := by
  rcases lefts with rfl | ⟨l, t, rfl, first, connects⟩
  · exact condition
  · rw [List.append_assoc]
    exact .joined l ps t connects first condition

theorem rights_condition (ps right : List Piece) (rights : Rights right) (condition : Condition ps) :
    Condition (ps ++ right) := by
  rcases rights with rfl | ⟨t, r, rfl, connects, second⟩
  · rwa [List.append_nil]
  · exact .joined ps r t connects condition second

theorem lefts_value (left : List Piece) (lefts : Lefts left) :
    ∃ before held, ∀ rest, value atoms (left ++ rest) = valueFrom atoms before held rest := by
  rcases lefts with rfl | ⟨l, t, rfl, condition, connects⟩
  · exact ⟨_, _, fun rest => value_eq atoms rest⟩
  · obtain ⟨done, now, sums⟩ := condition_sums atoms l condition (some false) (some true)
    obtain ⟨before, held, behind⟩ := sums_behind atoms l t connects _ _ done now sums
    refine ⟨before, held, fun rest => ?_⟩
    rw [List.append_assoc, List.singleton_append, value_eq, behind]

theorem sums_rights (ps qs right : List Piece) (before held done now : Option Bool) (rights : Rights right)
    (first : Sums atoms ps before held done now) (second : Sums atoms qs before held done now) :
    valueFrom atoms before held (ps ++ right) = valueFrom atoms before held (qs ++ right) := by
  rcases rights with rfl | ⟨t, r, rfl, conjoins | disjoins, _⟩
  · rw [List.append_nil, List.append_nil, first.last, second.last]
  · rw [first.beforeAnd t r conjoins, second.beforeAnd t r conjoins]
  · rw [first.beforeOr t r disjoins, second.beforeOr t r disjoins]

theorem value_replaced (left right o o' : List Piece) (lefts : Lefts left) (rights : Rights right)
    (closed : Closed o) (closed' : Closed o') (same : value atoms o = value atoms o') :
    value atoms (left ++ (o ++ right)) = value atoms (left ++ (o' ++ right)) := by
  obtain ⟨before, held, behind⟩ := lefts_value atoms left lefts
  have second := closed_sums atoms o' closed' before held
  rw [← same] at second
  rw [behind, behind]
  exact sums_rights atoms o o' right before held _ _ rights (closed_sums atoms o closed before held) second

end Formula

end ArchiveSearch

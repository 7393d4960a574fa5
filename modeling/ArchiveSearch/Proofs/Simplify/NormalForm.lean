import ArchiveSearch.Proofs.Simplify.Doubled
import ArchiveSearch.Proofs.Simplify.Fixpoint

/- The simplest text of a query: the rounds that make it end, another simplification leaves it as it is, and
   nothing is left in it that a pass looks for. -/
namespace ArchiveSearch

set_option autoImplicit false

namespace Simplify

structure NormalForm (cs : List Char) : Prop where
  noTrueOperand : ∀ u x v, cs = u ++ (x ++ v) → ¬ TrueOperand u.getLast? x v.head?
  falseBeforeAnd : ∀ u x v, cs = u ++ (x ++ v) → Appended .or .zeroIsOne x v.head? → AndAhead v
  falseBehindAnd : ∀ u x v, cs = u ++ (x ++ v) → Prepended .or .zeroIsOne u.getLast? x → AndBehind u
  noDoubledPair : ∀ outer ∈ pairs cs, ∀ inner ∈ pairs cs, ¬ Wraps cs outer inner

theorem normal_of_fixed (cs : List Char) (fixed : round cs = cs) (squeezed : squeeze cs = cs) : NormalForm cs := by
  obtain ⟨neutral, doubled⟩ := round_idle cs (Nat.le_of_eq (congrArg List.length fixed).symm)
  obtain ⟨trueOperands, falseAhead, falseBehind⟩ := neutral_of_fixed cs neutral
  exact {
    noTrueOperand := fun u x v => no_true_operand cs u x v trueOperands
    falseBeforeAnd := fun u x v => false_before_and cs u x v falseAhead
    falseBehindAnd := fun u x v => false_behind_and cs u x v falseBehind
    noDoubledPair := fun outer member inner within => no_doubled_pair cs doubled squeezed outer inner member within }

end Simplify

open Simplify

theorem simplify_fixed (text : String) :
    round (simplify text).toList = (simplify text).toList ∧ squeeze (simplify text).toList = (simplify text).toList := by
  obtain ⟨_, _, fixed, squeezed, _⟩ := rounds_iterate ⟨squeeze text.toList, squeeze_idempotent text.toList⟩
  rw [simplify, String.toList_ofList]
  exact ⟨fixed, squeezed⟩

theorem simplify_again (text : String) : simplify (simplify text) = simplify text := by
  obtain ⟨fixed, squeezed⟩ := simplify_fixed text
  rw [simplify, rounds_of_fixed _ fixed squeezed, String.ofList_toList]

end ArchiveSearch

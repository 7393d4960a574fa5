import Mathlib.Algebra.Order.Archimedean.Basic
import Mathlib.Tactic.Linarith
import Mathlib.Tactic.Ring
import ArchiveSearch.Proofs.Text.Distances
import ArchiveSearch.Suggest.Score

/- Scores of candidates that start from one base. The better a text contains what was typed, the higher it scores. What
   does not contain it is scored by its likeness, which does not fall with the base: it stays behind just as long as the
   base makes up for that. -/
namespace ArchiveSearch.Score

set_option autoImplicit false

open Arithmetic (exact)

section Tiers

variable {R : Type} (a : Arithmetic R) (base : R) (text needle : List Char)

theorem adjusted_equal : adjusted a base needle needle = a.mul base (a.number equalBoost) :=
  if_pos rfl

theorem adjusted_start (starts : needle <+: text) (longer : text ≠ needle) :
    adjusted a base text needle = a.mul base (a.number startBoost) := by
  rw [adjusted, if_neg longer, if_pos (List.isPrefixOf_iff_prefix.2 starts)]

theorem adjusted_inside (occurs : needle <:+: text) (later : ¬ needle <+: text) :
    adjusted a base text needle = a.mul base (a.number insideBoost) := by
  have other : text ≠ needle := by
    rintro rfl
    exact later (List.prefix_refl text)
  rw [adjusted, if_neg other, if_neg (mt List.isPrefixOf_iff_prefix.1 later), if_pos ((Text.occurs_in_iff _ _).2 occurs)]

theorem adjusted_outside (absent : ¬ needle <:+: text) :
    adjusted a base text needle =
      a.add (a.mul (a.number (1 / 2)) base) (a.mul (a.number (1 / 2)) (similarity a text needle)) := by
  have other : text ≠ needle := by
    rintro rfl
    exact absent (List.infix_refl text)
  have start : ¬ needle <+: text := fun starts => absent starts.isInfix
  rw [adjusted, if_neg other, if_neg (mt List.isPrefixOf_iff_prefix.1 start),
    if_neg (mt (Text.occurs_in_iff _ _).1 absent)]

end Tiers

theorem similarity_le_one (s t : List Char) : similarity exact s t ≤ 1 := by
  unfold similarity
  simp only [exact]
  split
  · exact le_refl _
  · exact sub_le_self 1 (div_nonneg (Nat.cast_nonneg _) (Nat.cast_nonneg _))

theorem similarity_replaced (x y : Char) (cs : List Char) :
    1 - 1 / ((cs.length + 1 : Nat) : Rat) ≤ similarity exact (x :: cs) (y :: cs) := by
  unfold similarity
  simp only [exact, List.length_cons, Nat.max_self]
  rw [if_neg (Nat.succ_ne_zero _)]
  have changed : ((Text.editDistance (x :: cs) (y :: cs) : Nat) : Rat) ≤ 1 := by
    exact_mod_cast Text.edit_distance_replaced x y cs
  exact sub_le_sub_left (div_le_div_of_nonneg_right changed (Nat.cast_nonneg _)) 1

section Exact

variable (base : Rat) (needle : List Char)

theorem exact_equal : adjusted exact base needle needle = 3 / 2 * base := by
  rw [adjusted_equal]
  simp only [exact, equalBoost]
  ring

theorem exact_start (text : List Char) (starts : needle <+: text) (longer : text ≠ needle) :
    adjusted exact base text needle = 13 / 10 * base := by
  rw [adjusted_start exact base text needle starts longer]
  simp only [exact, startBoost]
  ring

theorem exact_inside (text : List Char) (occurs : needle <:+: text) (later : ¬ needle <+: text) :
    adjusted exact base text needle = 11 / 10 * base := by
  rw [adjusted_inside exact base text needle occurs later]
  simp only [exact, insideBoost]
  ring

theorem exact_outside (text : List Char) (absent : ¬ needle <:+: text) :
    adjusted exact base text needle = (base + similarity exact text needle) / 2 := by
  rw [adjusted_outside exact base text needle absent]
  simp only [exact]
  ring

variable (nonneg : 0 ≤ base)

include nonneg

theorem start_le_equal (text : List Char) (starts : needle <+: text) :
    adjusted exact base text needle ≤ adjusted exact base needle needle := by
  by_cases longer : text = needle
  · rw [longer]
  · rw [exact_equal, exact_start base needle text starts longer]
    linarith

theorem inside_le_start (text starting : List Char) (occurs : needle <:+: text) (later : ¬ needle <+: text)
    (starts : needle <+: starting) : adjusted exact base text needle ≤ adjusted exact base starting needle := by
  rw [exact_inside base needle text occurs later]
  by_cases longer : starting = needle
  · rw [longer, exact_equal]
    linarith
  · rw [exact_start base needle starting starts longer]
    linarith

theorem inside_least (text : List Char) (occurs : needle <:+: text) :
    11 / 10 * base ≤ adjusted exact base text needle := by
  by_cases starts : needle <+: text
  · by_cases longer : text = needle
    · rw [longer, exact_equal]
      linarith
    · rw [exact_start base needle text starts longer]
      linarith
  · rw [exact_inside base needle text occurs starts]

end Exact

def Settles (base : Rat) : Prop :=
  ∀ needle text other : List Char, needle <:+: text → ¬ needle <:+: other →
    adjusted exact base other needle ≤ adjusted exact base text needle

theorem settles_of_high (base : Rat) (high : 5 / 6 ≤ base) : Settles base := by
  intro needle text other occurs absent
  refine le_trans ?_ (inside_least base needle (by linarith) text occurs)
  rw [exact_outside base needle other absent]
  linarith [similarity_le_one other needle]

theorem high_of_settles (base : Rat) (settles : Settles base) : 5 / 6 ≤ base := by
  by_contra low
  have gap : 0 < 1 - 6 / 5 * base := by linarith [not_le.1 low]
  obtain ⟨count, long⟩ := exists_nat_gt (1 / (1 - 6 / 5 * base))
  have share : 1 / ((count + 1 : Nat) : Rat) < 1 - 6 / 5 * base := by
    rw [one_div_lt (by exact_mod_cast Nat.succ_pos count) gap]
    exact long.trans (by exact_mod_cast Nat.lt_succ_self count)
  let rest := List.replicate count 'a'
  have absent : ¬ 'a' :: rest <:+: 'b' :: rest := fun occurs => by
    have same := occurs.eq_of_length rfl
    simp at same
  have later : ¬ 'a' :: rest <+: 'b' :: 'a' :: rest := fun starts => by
    simp [List.cons_prefix_cons] at starts
  have ordered := settles ('a' :: rest) ('b' :: 'a' :: rest) ('b' :: rest) (List.suffix_cons 'b' _).isInfix absent
  rw [exact_outside base _ _ absent, exact_inside base _ _ (List.suffix_cons 'b' _).isInfix later] at ordered
  have alike := similarity_replaced 'b' 'a' rest
  rw [List.length_replicate] at alike
  linarith

theorem contained_scores_higher (base : Rat) (nonneg : 0 ≤ base) :
    (∀ needle starting : List Char, needle <+: starting →
      adjusted exact base starting needle ≤ adjusted exact base needle needle) ∧
    (∀ needle starting text : List Char, needle <+: starting → needle <:+: text → ¬ needle <+: text →
      adjusted exact base text needle ≤ adjusted exact base starting needle) ∧
    (∀ needle other : List Char, ¬ needle <:+: other →
      (adjusted exact base other needle ≤ adjusted exact base needle needle ↔
        1 / 2 * similarity exact other needle ≤ base) ∧
      (∀ starting, needle <+: starting → starting ≠ needle →
        (adjusted exact base other needle ≤ adjusted exact base starting needle ↔
          5 / 8 * similarity exact other needle ≤ base)) ∧
      ∀ text, needle <:+: text → ¬ needle <+: text →
        (adjusted exact base other needle ≤ adjusted exact base text needle ↔
          5 / 6 * similarity exact other needle ≤ base)) ∧
    (Settles base ↔ 5 / 6 ≤ base) := by
  refine ⟨fun needle starting starts => start_le_equal base needle nonneg starting starts,
    fun needle starting text starts occurs later => inside_le_start base needle nonneg text starting occurs later starts,
    fun needle other absent => ?_, high_of_settles base, settles_of_high base⟩
  rw [exact_outside base needle other absent]
  refine ⟨?equal, fun starting starts longer => ?start, fun text occurs later => ?inside⟩
  case equal =>
    rw [exact_equal]
    constructor <;> intro <;> linarith
  case start =>
    rw [exact_start base needle starting starts longer]
    constructor <;> intro <;> linarith
  case inside =>
    rw [exact_inside base needle text occurs later]
    constructor <;> intro <;> linarith

theorem fourth_search_scored :
    let base := decayed exact recentBase 3
    let score := fun text : String => adjusted exact base text.toList "association".toList
    0 ≤ base ∧ score "associations" ≤ score "association" ∧ score "alumni association" ≤ score "associations" ∧
      (score "associatio" ≤ score "association" ↔
        1 / 2 * similarity exact "associatio".toList "association".toList ≤ base) ∧ ¬ Settles base := by
  intro base score
  have nonneg : 0 ≤ base := by decide +kernel
  obtain ⟨start, inside, outside, settles⟩ := contained_scores_higher base nonneg
  exact ⟨nonneg, start _ _ (by decide), inside _ _ _ (by decide) (by decide) (by decide),
    (outside _ _ (by decide)).1, mt settles.1 (by decide +kernel)⟩

theorem near_text_scores_higher :
    decayed exact recentBase 3 = decayed exact vocabularyBase 0 ∧
      "association".toList <:+: "alumni association".toList ∧ ¬ "association".toList <:+: "associatio".toList ∧
      adjusted exact (decayed exact vocabularyBase 0) "alumni association".toList "association".toList <
        adjusted exact (decayed exact recentBase 3) "associatio".toList "association".toList := by
  decide +kernel

end ArchiveSearch.Score

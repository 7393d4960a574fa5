import ArchiveSearch.Proofs.Simplify.Fixpoint
import ArchiveSearch.Proofs.Simplify.Layouts

/- What simplifying takes away: constants that decide nothing, with the connectives that join them, parentheses and blanks.
   A text without a constant goes through the sweeps as it is, and characters of no other kind are ever taken away. -/
namespace ArchiveSearch.Simplify

set_option autoImplicit false

open Text (Cursor Keyword Spells isBlank keywordChars)

def Excess (before : Option Char) (x : List Char) (after : Option Char) : Prop :=
  ∃ joint constant, (constant = .oneIsOne ∨ constant = .zeroIsOne) ∧
    (Appended joint constant x after ∨ Prepended joint constant before x)

def Cuts (find : Cursor → Option Verdict) : Prop :=
  ∀ before x rest, find ⟨before, x ++ rest⟩ = some (.delete x.length) → Excess before x rest.head?

theorem same_stretch (x y rest past : List Char) (split : x ++ rest = y ++ past) (length : x.length = y.length) :
    x = y ∧ rest = past :=
  List.append_inj split length

theorem and_true_cuts : Cuts andTrue := by
  intro before x rest found
  obtain ⟨y, past, split, verdict, operand⟩ := and_true_found _ _ found
  obtain ⟨rfl, rfl⟩ := same_stretch x y rest past split (Verdict.delete.inj verdict)
  exact ⟨.and, .oneIsOne, .inl rfl, operand⟩

theorem or_false_after_cuts : Cuts orFalseAfter := by
  intro before x rest found
  obtain ⟨y, past, split, appended, ⟨verdict, -⟩ | ⟨_, _, _, keep, _⟩⟩ := or_false_after_found _ _ found
  · obtain ⟨rfl, rfl⟩ := same_stretch x y rest past split (Verdict.delete.inj verdict)
    exact ⟨.or, .zeroIsOne, .inr rfl, .inl appended⟩
  · cases keep

theorem or_false_before_cuts : Cuts orFalseBefore := by
  intro before x rest found
  rcases or_false_before_found _ _ found with ⟨_, _, _, _, _, _, keep⟩ | ⟨y, past, split, prepended, verdict⟩
  · cases keep
  · obtain ⟨rfl, rfl⟩ := same_stretch x y rest past split (Verdict.delete.inj verdict)
    exact ⟨.or, .zeroIsOne, .inr rfl, .inr prepended⟩

theorem excess_signed (before : Option Char) (x : List Char) (after : Option Char) (excess : Excess before x after) :
    ['=', '1'] <:+: x := by
  obtain ⟨joint, constant, known, shape⟩ := excess
  have signed : ∀ t, Spells constant t → ['=', '1'] <:+: t := by
    intro t spelled
    rcases known with rfl | rfl
    · rw [Text.spells_one t spelled]
      exact ⟨['1'], [], rfl⟩
    · rw [Text.spells_zero t spelled]
      exact ⟨['0'], [], rfl⟩
  rcases shape with ⟨b, w, b', t, rfl, -, -, -, spelled, -⟩ | ⟨t, b, w, b', rfl, -, spelled, -⟩
  · exact (((signed t spelled).trans (List.suffix_append b' t).isInfix).trans (List.suffix_append w _).isInfix).trans
      (List.suffix_append b _).isInfix
  · exact (signed t spelled).trans (List.prefix_append t _).isInfix

theorem sweep_signless (find : Cursor → Option Verdict) (fits : Fits find) (cuts : Cuts find) (cs : List Char)
    (signless : ¬ ['=', '1'] <:+: cs) : sweep find cs = cs := by
  rcases swept_first_cut find none cs _ (sweep_swept find fits none cs) with
    ⟨same, -⟩ | ⟨s, x, rest, _, split, -, -, -, found, -⟩
  · exact same
  · have within : x <:+: cs := ⟨s, rest, by rw [split, List.append_assoc]⟩
    exact absurd ((excess_signed _ x _ (cuts _ x rest found)).trans within) signless

theorem drop_neutral_signless (cs : List Char) (signless : ¬ ['=', '1'] <:+: cs) : dropNeutral cs = cs := by
  rw [dropNeutral, sweep_signless andTrue and_true_fits and_true_cuts cs signless,
    sweep_signless orFalseAfter or_false_after_fits or_false_after_cuts cs signless,
    sweep_signless orFalseBefore or_false_before_fits or_false_before_cuts cs signless]

structure Spared (p : Char → Bool) : Prop where
  solid : ∀ c, isBlank c = true → p c = false
  wordless : (keywordChars.all fun d => !p d && !p d.toLower) = true
  opening : p '(' = false
  closing : p ')' = false

def Spares (p : Char → Bool) (pass : List Char → List Char) : Prop :=
  ∀ cs, (pass cs).filter p = cs.filter p

section Spared

variable (p : Char → Bool) (spared : Spared p)

theorem Spares.then (first second : List Char → List Char) (spares : Spares p first) (spares' : Spares p second) :
    Spares p (second ∘ first) :=
  fun cs => (spares' (first cs)).trans (spares cs)

theorem Spares.iterate (pass : List Char → List Char) (spares : Spares p pass) (n : Nat) : Spares p pass^[n] := by
  induction n with
  | zero => exact fun _ => rfl
  | succ n ih =>
      rw [Function.iterate_succ]
      exact spares.then p pass _ ih

include spared

theorem excess_unspared (before : Option Char) (x : List Char) (after : Option Char) (excess : Excess before x after) :
    ∀ c ∈ x, p c = false := by
  have gap : ∀ b, Blanks b → ∀ c ∈ b, p c = false := fun b blanks c member => spared.solid c (blanks.2 c member)
  have word : ∀ (word : Keyword) (w : List Char), Spells word w → ∀ c ∈ w, p c = false := by
    intro word w spelled c member
    simpa using Text.spells_all (fun c => !p c) spared.wordless word w spelled c member
  obtain ⟨joint, constant, -, ⟨b, w, b', t, rfl, blanks, spelled, blanks', constant_, -⟩ |
    ⟨t, b, w, b', rfl, -, constant_, blanks, spelled, blanks'⟩⟩ := excess
  · simp only [List.forall_mem_append]
    exact ⟨gap b blanks, word joint w spelled, gap b' blanks', word constant t constant_⟩
  · simp only [List.forall_mem_append]
    exact ⟨word constant t constant_, gap b blanks, word joint w spelled, gap b' blanks'⟩

theorem swept_spares (find : Cursor → Option Verdict) (cuts : Cuts find) (before : Option Char) (cs out : List Char)
    (swept : Swept find before cs out) : out.filter p = cs.filter p := by
  induction swept with
  | done => rfl
  | pass before c rest out _ _ ih => rw [List.filter_cons, List.filter_cons, ih]
  | cut before x rest out _ found _ ih =>
      have gone : x.filter p = [] := List.filter_eq_nil_iff.mpr fun c member => by
        simp [excess_unspared p spared _ x _ (cuts before x rest found) c member]
      rw [List.filter_append, gone, List.nil_append, ih]
  | kept before x rest out _ _ _ ih => rw [List.filter_append, List.filter_append, ih]

theorem sweep_spares (find : Cursor → Option Verdict) (fits : Fits find) (cuts : Cuts find) : Spares p (sweep find) :=
  fun cs => swept_spares p spared find cuts none cs _ (sweep_swept find fits none cs)

theorem drop_neutral_spares : Spares p dropNeutral :=
  ((sweep_spares p spared andTrue and_true_fits and_true_cuts).then p _ _
    (sweep_spares p spared orFalseAfter or_false_after_fits or_false_after_cuts)).then p _ _
    (sweep_spares p spared orFalseBefore or_false_before_fits or_false_before_cuts)

omit spared in
theorem drop_from_spares (indices : List Nat) (i : Nat) (cs : List Char)
    (unspared : ∀ k c, i + k ∈ indices → cs[k]? = some c → p c = false) :
    (dropFrom indices i cs).filter p = cs.filter p := by
  induction cs generalizing i with
  | nil => rfl
  | cons c cs ih =>
      have later := ih (i + 1) fun k d member here => unspared (k + 1) d (by rwa [Nat.add_comm k 1, ← Nat.add_assoc]) here
      rw [drop_from_cons]
      by_cases dropped : i ∈ indices
      · rw [if_pos dropped, later, List.filter_cons_of_neg (by simp [unspared 0 c dropped rfl])]
      · rw [if_neg dropped, List.filter_cons, List.filter_cons, later]

theorem drop_doubled_spares : Spares p dropDoubled := by
  intro cs
  rw [drop_doubled_from]
  refine drop_from_spares p (outerAt cs) 0 cs fun k c member here => ?_
  rw [Nat.zero_add, outer_at_iff] at member
  obtain ⟨pair, inside, -, ends⟩ := member
  obtain ⟨opening, closing⟩ := pairs_outside cs pair inside
  rcases ends with rfl | rfl
  · obtain rfl : '(' = c := Option.some.inj (opening.1.symm.trans here)
    exact spared.opening
  · obtain rfl : ')' = c := Option.some.inj (closing.1.symm.trans here)
    exact spared.closing

theorem squeeze_from_spares (open_ : Option Char) (gap : Bool) (before : Option Char) (cs : List Char) :
    (squeezeFrom open_ gap before cs).filter p = cs.filter p := by
  fun_induction squeezeFrom open_ gap before cs with
  | case1 => rfl
  | case2 gap before q c rest ih => rw [List.filter_cons, List.filter_cons, ih]
  | case3 gap before c rest blank ih => rw [ih, List.filter_cons_of_neg (by simp [spared.solid c blank])]
  | case4 gap before c rest _ copied _ ih =>
      have space : p ' ' = false := spared.solid ' ' (by decide)
      rw [List.filter_cons_of_neg (by simp [space]), List.filter_cons, List.filter_cons, ih]
  | case5 gap before c rest _ copied _ ih => rw [List.filter_cons, List.filter_cons, ih]

theorem simplify_spares (text : String) : (simplify text).toList.filter p = text.toList.filter p := by
  have squeezing : Spares p squeeze := squeeze_from_spares p spared none false none
  have round_ : Spares p round :=
    ((drop_neutral_spares p spared).then p _ _ (drop_doubled_spares p spared)).then p _ _ squeezing
  obtain ⟨n, iterated, -⟩ := rounds_iterate ⟨squeeze text.toList, squeeze_idempotent text.toList⟩
  rw [simplify, String.toList_ofList, iterated, round_.iterate p round n, squeezing]

end Spared

end ArchiveSearch.Simplify

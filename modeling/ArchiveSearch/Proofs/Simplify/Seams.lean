import ArchiveSearch.Proofs.Simplify.Neutral
import ArchiveSearch.Proofs.Simplify.Walls

/- Seams: the places behind operands, where a blank, a closing parenthesis or the end follows. A pattern that begins in an
   operand ends in it, since no pattern goes over the operand's last character, or none goes on behind it. -/
namespace ArchiveSearch.Simplify

set_option autoImplicit false

open Text (Cursor Keyword Spells isBlank isWordSide keywordChars)

def Strange (c : Char) : Prop :=
  isBlank c = false ∧ ∀ d ∈ keywordChars, c ≠ d ∧ c ≠ d.toLower

theorem strange_of_all (c : Char) (solid : isBlank c = false)
    (apart : (keywordChars.all fun d => c != d && c != d.toLower) = true) : Strange c := by
  refine ⟨solid, fun d member => ?_⟩
  have here := List.all_eq_true.mp apart d member
  rwa [Bool.and_eq_true, bne_iff_ne, bne_iff_ne] at here

def Ender (c : Char) : Prop :=
  Strange c ∨ c = '1'

def Follows (w : List Char) : Prop :=
  ∀ c, w.head? = some c → isBlank c = true ∨ c = ')'

theorem ender_solid (c : Char) (ender : Ender c) : isBlank c = false := by
  rcases ender with strange | rfl
  · exact strange.1
  · decide

theorem strange_unspelled (c : Char) (strange : Strange c) (word : Keyword) (x : List Char) (spelled : Spells word x) :
    c ∉ x := by
  intro member
  obtain ⟨d, inside, same⟩ := Text.spelled_letters word.letters x spelled c member
  obtain ⟨upper, lower⟩ := strange.2 d (word.known d inside)
  exact same.elim upper lower

theorem ender_unspelled (c : Char) (ender : Ender c) (joint : Keyword) (joins : joint = .and ∨ joint = .or)
    (x : List Char) (spelled : Spells joint x) : c ∉ x := by
  rcases ender with strange | rfl
  · exact strange_unspelled c strange joint x spelled
  · have letters : ∀ word : Keyword, (word.letters.all fun d => d != '1' && d.toLower != '1') = true →
        ∀ d ∈ word.letters, '1' ≠ d ∧ '1' ≠ d.toLower := by
      intro word all d inside
      have here := List.all_eq_true.mp all d inside
      rw [Bool.and_eq_true, bne_iff_ne, bne_iff_ne] at here
      exact ⟨here.1.symm, here.2.symm⟩
    intro member
    obtain ⟨d, inside, same⟩ := Text.spelled_letters joint.letters x spelled '1' member
    have apart := letters joint (by rcases joins with rfl | rfl <;> decide) d inside
    exact same.elim apart.1 apart.2

theorem follows_still (w : List Char) (follows : Follows w) : Still w := by
  intro c first
  rcases follows c first with blank | rfl
  · refine ⟨blank_wordless c blank, ?_⟩
    rintro rfl
    revert blank
    decide
  · exact ⟨by decide, by decide⟩

theorem follows_wordless (w : List Char) (follows : Follows w) : isWordSide w.head? = false := by
  cases w with
  | nil => rfl
  | cons c w => exact (follows_still _ follows c rfl).1

theorem follows_unsigned (w : List Char) (follows : Follows w) : w.head? ≠ some '=' :=
  fun sign => (follows_still w follows '=' sign).2 rfl

def Ahead (c : Char) (at_ : Cursor) : Prop :=
  at_.rest.getLast? = some c

theorem ahead_behind (c : Char) (before before' : Option Char) (x rest : List Char) (apart : c ∉ x)
    (ahead : Ahead c ⟨before, x ++ rest⟩) : Ahead c ⟨before', rest⟩ := by
  cases rest with
  | nil =>
      rw [Ahead, List.append_nil] at ahead
      exact absurd (List.mem_of_getLast? ahead) apart
  | cons d rest => rwa [Ahead, List.getLast?_append_of_ne_nil _ (List.cons_ne_nil d rest)] at ahead

section Ahead

variable (c : Char) (w : List Char)

theorem blanks_ahead (solid : isBlank c = false) : Stops w (Ahead c) (Ahead c) Cursor.blanks := by
  have apart : ∀ b : List Char, (∀ d ∈ b, isBlank d = true) → c ∉ b := by
    intro b blank member
    rw [blank c member] at solid
    cases solid
  constructor
  · rintro ⟨before, rest⟩ ahead
    obtain ⟨b, past, rfl, blank, next⟩ := blanks_split rest
    have some_ : past ≠ [] := by
      rintro rfl
      exact nomatch ahead_behind c before none b [] (apart b blank) ahead
    obtain ⟨d, past, rfl⟩ := List.exists_cons_of_ne_nil some_
    by_cases none_ : b = []
    · subst none_
      have stops : isBlank d = false := by simpa [Solid] using next
      simp [onward, Cursor.blanks, Cursor.some', Cursor.one, stops]
    · rw [blanks_step before b _ ⟨none_, blank⟩ next, onward, List.append_assoc,
        blanks_step before b (d :: past ++ w) ⟨none_, blank⟩ next]
      rfl
  · rintro ⟨before, rest⟩ last ahead found
    obtain ⟨b, rfl, blanks, -, -⟩ := blanks_found before rest last found
    exact ahead_behind c before last.before b last.rest (apart b blanks.2) ahead

variable (follows : Follows w)

include follows

theorem word_ahead (word : Keyword) (unspelled : ∀ x, Spells word x → c ∉ x) :
    Stops w (Ahead c) (Ahead c) (Cursor.word word.letters) := by
  refine ⟨fun at_ _ => (word_stops w (follows_still w follows) _ word.known).same at_ trivial, ?_⟩
  rintro ⟨before, rest⟩ last ahead found
  obtain ⟨x, rfl, spelled, -⟩ := spelled_found word before rest last found
  exact ahead_behind c before last.before x last.rest (unspelled x spelled) ahead

theorem over_appended_ahead (ender : Ender c) (joint constant : Keyword) (joins : joint = .and ∨ joint = .or) :
    Stops w (Ahead c) anywhere (overAppended joint constant) := by
  have still := follows_still w follows
  have blanks := blanks_ahead c w (ender_solid c ender)
  have joint_ := word_ahead c w follows joint (ender_unspelled c ender joint joins)
  have constant_ := (word_stops w still _ constant.known).narrow w _ _ (Ahead c) _ fun _ _ => trivial
  exact (((blanks.then w _ _ _ _ _ joint_).then w _ _ _ _ _ blanks).then w _ _ _ _ _ constant_).then w _ _ _ _ _
    (boundary_stops w still anywhere)

theorem over_prepended_ahead (strange : Strange c) (joint constant : Keyword) :
    Stops w (Ahead c) (Ahead c) (overPrepended joint constant) := by
  have blanks := blanks_ahead c w strange.1
  have word := fun word => word_ahead c w follows word (strange_unspelled c strange word)
  have boundary := boundary_stops w (follows_still w follows) (Ahead c)
  exact (((boundary.then w _ _ _ _ _ (word constant)).then w _ _ _ _ _ blanks).then w _ _ _ _ _ (word joint)).then
    w _ _ _ _ _ blanks

end Ahead

theorem suffix_ahead (c : Char) (u s : List Char) (ends : u.getLast? = some c) (some_ : s ≠ []) (suffix : s <:+ u)
    (before : Option Char) : Ahead c ⟨before, s⟩ := by
  obtain ⟨front, rfl⟩ := suffix
  rwa [List.getLast?_append_of_ne_nil _ some_] at ends

theorem and_true_apart (u w : List Char) (c : Char) (ends : u.getLast? = some c) (strange : Strange c)
    (follows : Follows w) : Apart andTrue u w := by
  intro s some_ suffix before
  have ahead := suffix_ahead c u s ends some_ suffix before
  exact and_true_onward w _ ((over_appended_ahead c w follows (.inl strange) .and .oneIsOne (.inl rfl)).same _ ahead)
    ((over_prepended_ahead c w follows strange .and .oneIsOne).same _ ahead)

theorem over_and_none (before : Option Char) (w : List Char) (apart : ¬ AndAhead w) : overAnd ⟨before, w⟩ = none := by
  cases found : overAnd ⟨before, w⟩ with
  | none => rfl
  | some last =>
      obtain ⟨y, split, next⟩ := and_next_found _ last found
      exact absurd ⟨y, last.rest, split, next⟩ apart

theorem or_false_after_apart (u w : List Char) (c : Char) (ends : u.getLast? = some c) (ender : Ender c)
    (follows : Follows w) (unjoined : ¬ AndAhead w) : Apart orFalseAfter u w := by
  intro s some_ suffix before
  have ahead := suffix_ahead c u s ends some_ suffix before
  have crossed := over_appended_ahead c w follows ender .or .zeroIsOne (.inr rfl)
  refine or_false_after_onward w _ (crossed.same _ ahead) fun last found => ?_
  obtain ⟨x, split, -⟩ := over_appended_found _ _ _ _ found
  by_cases none_ : last.rest = []
  · -- The constant ends at the seam, and no `AND` comes behind it.
    obtain ⟨behind, rest⟩ := last
    obtain rfl : rest = [] := none_
    exact over_and_none behind w unjoined
  · have blanks := blanks_ahead c w (ender_solid c ender)
    have and_ := word_ahead c w follows .and (ender_unspelled c ender .and (.inl rfl))
    have boundary := boundary_stops w (follows_still w follows) (Ahead c)
    refine ((blanks.then w _ _ _ _ _ and_).then w _ _ _ _ _ boundary).same last ?_
    obtain rfl : s = x ++ last.rest := split
    rwa [Ahead, List.getLast?_append_of_ne_nil _ none_] at ahead

theorem true_operand_strangeless (c : Char) (strange : Strange c) (before after : Option Char) (x : List Char)
    (operand : TrueOperand before x after) : c ∉ x := by
  have blanks : ∀ b, Blanks b → c ∉ b := by
    intro b blanks member
    have solid := strange.1
    rw [blanks.2 c member] at solid
    cases solid
  have word := strange_unspelled c strange
  rcases operand with ⟨b, w, b', t, rfl, blank, spelled, blank', constant, -⟩ |
    ⟨t, b, w, b', rfl, -, constant, blank, spelled, blank'⟩
  · simp only [List.mem_append, not_or]
    exact ⟨blanks b blank, word _ w spelled, blanks b' blank', word _ t constant⟩
  · simp only [List.mem_append, not_or]
    exact ⟨word _ t constant, blanks b blank, word _ w spelled, blanks b' blank'⟩

theorem swept_strange_last (c : Char) (strange : Strange c) (before : Option Char) (cs out : List Char)
    (swept : Swept andTrue before cs out) (ends : cs.getLast? = some c) : out.getLast? = some c := by
  induction swept with
  | done => cases ends
  | pass before d rest out _ later ih =>
      cases rest with
      | nil =>
          have none_ : out = [] := List.length_eq_zero_iff.mp (Nat.le_zero.mp (swept_length andTrue _ _ _ later))
          rw [none_]
          exact ends
      | cons e rest =>
          rw [List.getLast?_cons_cons] at ends
          rw [List.getLast?_cons, ih ends]
          rfl
  | cut before x rest out _ found _ ih =>
      obtain ⟨y, past, split, verdict, operand⟩ := and_true_found _ _ found
      obtain ⟨rfl, rfl⟩ := List.append_inj split (Verdict.delete.inj verdict)
      exact ih (ahead_behind c before before x rest (true_operand_strangeless c strange _ _ x operand) ends)
  | kept before x rest out _ found _ _ =>
      obtain ⟨_, _, _, verdict, _⟩ := and_true_found _ _ found
      cases verdict

theorem sweep_strange_last (c : Char) (strange : Strange c) (cs : List Char) (ends : cs.getLast? = some c) :
    (sweep andTrue cs).getLast? = some c :=
  swept_strange_last c strange none cs _ (sweep_swept andTrue and_true_fits none cs) ends

end ArchiveSearch.Simplify

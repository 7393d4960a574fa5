import Mathlib.Logic.Function.Iterate
import ArchiveSearch.Proofs.Simplify.Patterns
import ArchiveSearch.Proofs.Simplify.Sweeping

/- Where the rounds end: a text that no pass changes. No true operand of an `AND` is left in it, and a false
   operand of an `OR` only next to an `AND`. -/
namespace ArchiveSearch.Simplify

set_option autoImplicit false

open Text (Cursor Keyword Spells isBlank isBoundary)

theorem rounds_iterate (cs : Squeezed) :
    ∃ n, rounds cs = round^[n] cs.1 ∧ round (rounds cs) = rounds cs ∧ squeeze (rounds cs) = rounds cs ∧
      ∀ m < n, (round^[m + 1] cs.1).length < (round^[m] cs.1).length := by
  fun_induction rounds cs with
  | case1 cs next same =>
      exact ⟨0, rfl, same, cs.2, by simp⟩
  | case2 cs next changed ih =>
      obtain ⟨n, iterated, fixed, squeezed, shorter⟩ := ih
      refine ⟨n + 1, iterated, fixed, squeezed, ?_⟩
      intro m below
      cases m with
      | zero => exact round_shorter cs.1 cs.2 changed
      | succ m => exact shorter m (Nat.lt_of_succ_lt_succ below)

theorem rounds_of_fixed (cs : List Char) (fixed : round cs = cs) (squeezed : squeeze cs = cs) :
    rounds ⟨squeeze cs, squeeze_idempotent cs⟩ = cs := by
  have same : (⟨squeeze cs, squeeze_idempotent cs⟩ : Squeezed) = ⟨cs, squeezed⟩ := Subtype.ext squeezed
  rw [same, rounds]
  exact if_pos fixed

def Neutral (cs : List Char) : Prop :=
  sweep andTrue cs = cs ∧ sweep orFalseAfter cs = cs ∧ sweep orFalseBefore cs = cs

theorem neutral_of_fixed (cs : List Char) (fixed : dropNeutral cs = cs) : Neutral cs := by
  have lengths := congrArg List.length fixed
  have first := (sweep_sublist andTrue cs).length_le
  have second := (sweep_sublist orFalseAfter (sweep andTrue cs)).length_le
  have third := (sweep_sublist orFalseBefore (sweep orFalseAfter (sweep andTrue cs))).length_le
  rw [dropNeutral] at lengths fixed
  have sameFirst : sweep andTrue cs = cs := (sweep_sublist _ cs).eq_of_length (by omega)
  rw [sameFirst] at second third lengths fixed
  have sameSecond : sweep orFalseAfter cs = cs := (sweep_sublist _ cs).eq_of_length (by omega)
  rw [sameSecond] at fixed
  exact ⟨sameFirst, sameSecond, fixed⟩

theorem appended_ne_nil (joint constant : Keyword) (x : List Char) (after : Option Char)
    (appended : Appended joint constant x after) : x ≠ [] := by
  obtain ⟨b, w, b', t, rfl, blanks, _⟩ := appended
  exact List.append_ne_nil_of_left_ne_nil blanks.1 _

theorem prepended_ne_nil (joint constant : Keyword) (before : Option Char) (x : List Char)
    (prepended : Prepended joint constant before x) : x ≠ [] := by
  obtain ⟨t, b, w, b', rfl, _, spelled, _⟩ := prepended
  exact List.append_ne_nil_of_left_ne_nil (Text.spells_ne_nil constant t spelled) _

theorem and_true_fits : Fits andTrue := by
  intro at_ v found
  obtain ⟨x, rest, split, verdict, operand⟩ := and_true_found at_ v found
  refine ⟨x, rest, split, ?_, .inl verdict⟩
  rcases operand with appended | prepended
  · exact appended_ne_nil _ _ x _ appended
  · exact prepended_ne_nil _ _ _ x prepended

theorem or_false_after_fits : Fits orFalseAfter := by
  intro at_ v found
  obtain ⟨x, rest, split, appended, verdict⟩ := or_false_after_found at_ v found
  have some_ := appended_ne_nil _ _ x _ appended
  rcases verdict with ⟨delete, _⟩ | ⟨y, past, rfl, keep, _⟩
  · exact ⟨x, rest, split, some_, .inl delete⟩
  · exact ⟨x ++ y, past, by rw [split, List.append_assoc], List.append_ne_nil_of_left_ne_nil some_ y, .inr keep⟩

theorem or_false_before_fits : Fits orFalseBefore := by
  intro at_ v found
  rcases or_false_before_found at_ v found with ⟨y, x, rest, split, _, prepended, keep⟩ | ⟨x, rest, split, prepended, delete⟩
  · have some_ := prepended_ne_nil _ _ _ x prepended
    exact ⟨y ++ x, rest, by rw [split, List.append_assoc], List.append_ne_nil_of_right_ne_nil y some_, .inr keep⟩
  · exact ⟨x, rest, split, prepended_ne_nil _ _ _ x prepended, .inl delete⟩

theorem last_or_none (u : List Char) : lastOr none u = u.getLast? :=
  Option.or_none

theorem fixed_places (find : Cursor → Option Verdict) (fits : Fits find) (cs u v : List Char)
    (fixed : sweep find cs = cs) (split : cs = u ++ v) (some_ : v ≠ []) :
    find ⟨u.getLast?, v⟩ = none ∨ (∃ n, find ⟨u.getLast?, v⟩ = some (.keep n)) ∨
      ∃ u' x x' past, u = u' ++ x ∧ v = x' ++ past ∧ x' ≠ [] ∧
        find ⟨u'.getLast?, x ++ (x' ++ past)⟩ = some (.keep (x ++ x').length) := by
  have swept := sweep_swept find fits none cs
  rw [← sweep, fixed] at swept
  have place := passed_places find none cs [] (swept_fixed find none cs swept) u v split some_
  cases place with
  | nothing _ _ nothing =>
      rw [List.append_nil, last_or_none] at nothing
      exact .inl nothing
  | kept _ x past _ found =>
      rw [List.append_nil, last_or_none] at found
      exact .inr (.inl ⟨_, found⟩)
  | inside u x x' past _ someX' found =>
      rw [List.append_nil, last_or_none] at found
      exact .inr (.inr ⟨u, x, x', past, rfl, rfl, someX', found⟩)

theorem no_true_operand (cs u x v : List Char) (fixed : sweep andTrue cs = cs) (split : cs = u ++ (x ++ v)) :
    ¬ TrueOperand u.getLast? x v.head? := by
  intro operand
  have finds := and_true_finds u.getLast? x v operand
  have some_ : x ++ v ≠ [] := by
    rcases operand with appended | prepended
    · exact List.append_ne_nil_of_left_ne_nil (appended_ne_nil _ _ x _ appended) v
    · exact List.append_ne_nil_of_left_ne_nil (prepended_ne_nil _ _ _ x prepended) v
  have keeps : ∀ at_ n, andTrue at_ ≠ some (.keep n) := by
    intro at_ n found
    obtain ⟨_, _, _, verdict, _⟩ := and_true_found at_ _ found
    cases verdict
  rcases fixed_places andTrue and_true_fits cs u _ fixed split some_ with
    nothing | ⟨n, found⟩ | ⟨_, _, _, _, _, _, _, found⟩
  · exact finds nothing
  · exact keeps _ n found
  · exact keeps _ _ found

theorem appended_unique (joint constant : Keyword) (x y v rest : List Char) (same : x ++ v = y ++ rest)
    (first : Appended joint constant x v.head?) (second : Appended joint constant y rest.head?) :
    x = y ∧ v = rest := by
  obtain ⟨_, overFirst⟩ := over_appended joint constant none x v first
  obtain ⟨_, overSecond⟩ := over_appended joint constant none y rest second
  rw [same, overSecond] at overFirst
  cases overFirst
  exact ⟨List.append_cancel_right same, rfl⟩

theorem passes_over (x ahead stretch rest : List Char) (h : Char) (same : x ++ ahead = stretch ++ rest)
    (first : ahead.head? = some h) (apart : ∀ c ∈ stretch, c ≠ h) :
    ∃ x', x = stretch ++ x' ∧ rest = x' ++ ahead := by
  rcases List.append_eq_append_iff.mp same with ⟨more, rfl, right⟩ | ⟨x', left, right⟩
  · cases more with
    | nil => exact ⟨[], by simp, by simpa using right.symm⟩
    | cons c more =>
        rw [right, List.cons_append, List.head?_cons, Option.some.injEq] at first
        exact absurd first (apart c (List.mem_append_right _ List.mem_cons_self))
  · exact ⟨x', left, right⟩

theorem spells_head (word : Keyword) (x : List Char) (d : Char) (letters : List Char)
    (made : word.letters = d :: letters) (spelled : Spells word x) :
    ∃ c rest, x = c :: rest ∧ (c = d ∨ c = d.toLower) := by
  rw [Spells, made] at spelled
  cases spelled with
  | cons first _ => exact ⟨_, _, rfl, first⟩

theorem blanks_ne_solid (b : List Char) (h : Char) (blank : ∀ c ∈ b, isBlank c = true)
    (solid : isBlank h = false) : ∀ c ∈ b, c ≠ h := by
  rintro c member rfl
  rw [blank c member] at solid
  cases solid

theorem solid_ne_blank (word : Keyword) (x : List Char) (h : Char) (spelled : Spells word x)
    (blank : isBlank h = true) : ∀ c ∈ x, c ≠ h := by
  rintro c member rfl
  have solid := Text.spells_all (fun c => !isBlank c) (by decide) word x spelled c member
  rw [blank] at solid
  cases solid

theorem heads_apart (word other : Keyword) (x y rest past : List Char) (d e : Char) (letters others : List Char)
    (first : word.letters = d :: letters) (second : other.letters = e :: others) (spelled : Spells word x)
    (spelledOther : Spells other y) (apart : d ≠ e ∧ d ≠ e.toLower ∧ d.toLower ≠ e ∧ d.toLower ≠ e.toLower) :
    x ++ rest ≠ y ++ past := by
  obtain ⟨c, x, rfl, lettersC⟩ := spells_head word x d letters first spelled
  obtain ⟨c', y, rfl, lettersC'⟩ := spells_head other y e others second spelledOther
  intro same
  rw [List.cons_append, List.cons_append, List.cons.injEq] at same
  obtain ⟨rfl, _⟩ := same
  rcases lettersC with rfl | rfl <;> rcases lettersC' with same | same
  · exact apart.1 same
  · exact apart.2.1 same
  · exact apart.2.2.1 same
  · exact apart.2.2.2 same

theorem same_gap (x b b' ahead rest : List Char) (same : x ++ (b ++ ahead) = b' ++ rest) (blanks : Blanks b)
    (blanks' : Blanks b') (solid : Solid ahead.head?) (solidRest : Solid rest.head?) :
    (∃ x', x = b' ++ x' ∧ rest = x' ++ (b ++ ahead)) ∨ ahead = rest := by
  rcases List.append_eq_append_iff.mp same with ⟨more, rfl, right⟩ | ⟨x', left, right⟩
  · by_cases none_ : more = []
    · subst none_
      exact .inl ⟨[], by simp, by simpa using right.symm⟩
    · have first := blanks_step none b ahead blanks solid
      have second := blanks_step none more rest
        ⟨none_, fun c member => blanks'.2 c (List.mem_append_right _ member)⟩ solidRest
      rw [right, second, Option.some.injEq, Cursor.mk.injEq] at first
      exact .inr first.2.symm
  · exact .inl ⟨x', left, right⟩

-- A place inside a false operand that is kept, with blanks and an `OR` at it, lies in the blanks before its `OR`.
theorem false_operand_inside (x x' past y z rest b w ahead : List Char)
    (split : x ++ (x' ++ past) = y ++ (z ++ rest)) (someX' : x' ≠ [])
    (lengths : (x ++ x').length = (y ++ z).length) (appended : Appended .or .zeroIsOne y (z ++ rest).head?)
    (next : AndNext z rest.head?) (at_ : x' ++ past = b ++ (w ++ ahead)) (blanks : Blanks b)
    (spelled : Spells .or w) :
    ∃ y', x' ++ past = y' ++ (z ++ rest) ∧ Appended .or .zeroIsOne y' (z ++ rest).head? := by
  obtain ⟨b₁, or_, b₂, t, rfl, blanks₁, spelledOr, blanks₂, constant, edge⟩ := appended
  obtain ⟨b₃, and_, rfl, blanks₃, spelledAnd, _⟩ := next
  obtain ⟨h, tail, rfl⟩ := List.exists_cons_of_ne_nil blanks.1
  have blank := blanks.2 h List.mem_cons_self
  have first : (h :: tail ++ (w ++ ahead)).head? = some h := rfl
  have solid := spells_solid .or w ahead spelled
  have solidAnd := spells_solid .and and_ rest spelledAnd
  simp only [at_, List.append_assoc] at split ⊢
  rcases same_gap x _ b₁ _ _ split blanks blanks₁ solid (spells_solid .or or_ _ spelledOr) with
    ⟨x₁, rfl, behind₁⟩ | same
  · -- Behind the blanks: then behind the `OR` too, as a blank comes next.
    obtain ⟨x₂, rfl, behind₂⟩ := passes_over x₁ _ or_ _ h behind₁.symm first
      (solid_ne_blank .or or_ h spelledOr blank)
    rcases same_gap x₂ _ b₂ _ _ behind₂.symm blanks blanks₂ solid (spells_solid .zeroIsOne t _ constant) with
      ⟨x₃, rfl, behind₃⟩ | same
    · obtain ⟨x₄, rfl, behind₄⟩ := passes_over x₃ _ t _ h behind₃.symm first
        (solid_ne_blank .zeroIsOne t h constant blank)
      rcases same_gap x₄ _ b₃ _ _ behind₄.symm blanks blanks₃ solid solidAnd with ⟨x₅, rfl, behind₅⟩ | same
      · obtain ⟨x₆, rfl, _⟩ := passes_over x₅ _ and_ _ h behind₅.symm first
          (solid_ne_blank .and and_ h spelledAnd blank)
        have positive := List.length_pos_iff.mpr someX'
        simp only [List.length_append] at lengths
        omega
      · exact absurd same (heads_apart .or .and w and_ ahead rest 'O' 'A' _ _ rfl rfl spelled spelledAnd
          (by decide))
    · exact absurd same (heads_apart .or .zeroIsOne w t ahead _ 'O' '0' _ _ rfl rfl spelled constant (by decide))
  · rw [same]
    refine ⟨h :: tail ++ (or_ ++ (b₂ ++ t)), by simp, h :: tail, or_, b₂, t, rfl, blanks, spelledOr, blanks₂,
      constant, ?_⟩
    simpa using edge

theorem false_before_and (cs u x v : List Char) (fixed : sweep orFalseAfter cs = cs)
    (split : cs = u ++ (x ++ v)) (appended : Appended .or .zeroIsOne x v.head?) : AndAhead v := by
  have some_ : x ++ v ≠ [] := List.append_ne_nil_of_left_ne_nil (appended_ne_nil _ _ x _ appended) v
  have finds := or_false_after_finds u.getLast? x v appended
  -- What is found at a place is the stretch itself.
  have here : ∀ at_ n, at_.rest = x ++ v → orFalseAfter at_ = some (.keep n) → AndAhead v := by
    intro at_ n same found
    obtain ⟨y, rest, splitY, other, verdict⟩ := or_false_after_found at_ _ found
    obtain ⟨rfl, rfl⟩ := appended_unique _ _ x y v rest (same.symm.trans splitY) appended other
    rcases verdict with ⟨delete, _⟩ | ⟨z, past, rfl, _, next⟩
    · cases delete
    · exact ⟨z, past, rfl, next⟩
  rcases fixed_places orFalseAfter or_false_after_fits cs u _ fixed split some_ with
    nothing | ⟨n, found⟩ | ⟨u', y, y', past, _, ahead, someY', found⟩
  · exact absurd nothing finds
  · exact here _ n rfl found
  · obtain ⟨stretch, rest, splitY, other, verdict⟩ := or_false_after_found _ _ found
    rcases verdict with ⟨delete, _⟩ | ⟨z, past', rfl, keep, next⟩
    · cases delete
    · obtain ⟨b, w, b', t, rfl, blanks, spelled, blanks', constant, edge⟩ := appended
      obtain ⟨stretch', splitX, otherX⟩ := false_operand_inside y y' past stretch z past' b w (b' ++ (t ++ v))
        splitY someY' (Verdict.keep.inj keep) other next (by rw [← ahead]; simp) blanks spelled
      obtain ⟨_, rfl⟩ := appended_unique _ _ _ stretch' v _ (ahead.trans splitX)
        ⟨b, w, b', t, rfl, blanks, spelled, blanks', constant, edge⟩ otherX
      exact ⟨z, past', rfl, next⟩

theorem false_constant_inside (x x' past y z rest ahead : List Char) (before : Option Char)
    (split : x ++ (x' ++ past) = y ++ (z ++ rest)) (someX' : x' ≠ [])
    (lengths : (x ++ x').length = (y ++ z).length) (last : AndLast before y)
    (prepended : Prepended .or .zeroIsOne y.getLast? z) (at_ : x' ++ past = '0' :: ahead) : x = y := by
  obtain ⟨w, b, rfl, _, spelledAnd, blanks⟩ := last
  obtain ⟨t, b₁, or_, b₂, rfl, _, constant, blanks₁, spelledOr, blanks₂⟩ := prepended
  rw [Text.spells_zero t constant] at split lengths
  have first : ('0' :: ahead).head? = some '0' := rfl
  have apart : ∀ (word : Keyword) (v : List Char), '0' ∉ word.letters → (∀ d ∈ word.letters, d.toLower ≠ '0') →
      Spells word v → ∀ c ∈ v, c ≠ '0' := by
    rintro word v upper lower spelled c member rfl
    obtain ⟨d, inside, same⟩ := Text.spelled_letters word.letters v spelled '0' member
    rcases same with rfl | same
    · exact upper inside
    · exact lower d inside same.symm
  have apartAnd := apart .and w (by simp [Keyword.and]) (by simp [Keyword.and]) spelledAnd
  have apartOr := apart .or or_ (by simp [Keyword.or]) (by simp [Keyword.or]) spelledOr
  have gap : ∀ v, Blanks v → ∀ c ∈ v, c ≠ '0' := fun v all => blanks_ne_solid v '0' all.2 (by decide)
  simp only [at_, List.append_assoc] at split
  obtain ⟨x₁, rfl, behind₁⟩ := passes_over x _ w _ '0' split first apartAnd
  obtain ⟨x₂, rfl, behind₂⟩ := passes_over x₁ _ b _ '0' behind₁.symm first (gap b blanks)
  cases x₂ with
  | nil => simp
  | cons c x₂ =>
      have sign : '=' :: (['1'] ++ (b₁ ++ (or_ ++ (b₂ ++ rest)))) = x₂ ++ '0' :: ahead :=
        (List.cons.inj behind₂).2
      obtain ⟨x₃, rfl, behind₃⟩ := passes_over x₂ _ ['=', '1'] _ '0' sign.symm first (by simp)
      obtain ⟨x₄, rfl, behind₄⟩ := passes_over x₃ _ b₁ _ '0' behind₃.symm first (gap b₁ blanks₁)
      obtain ⟨x₅, rfl, behind₅⟩ := passes_over x₄ _ or_ _ '0' behind₄.symm first apartOr
      obtain ⟨x₆, rfl, _⟩ := passes_over x₅ _ b₂ _ '0' behind₅.symm first (gap b₂ blanks₂)
      have positive := List.length_pos_iff.mpr someX'
      simp only [List.length_append, List.length_cons, List.length_nil] at lengths
      omega

theorem false_behind_and (cs u x v : List Char) (fixed : sweep orFalseBefore cs = cs)
    (split : cs = u ++ (x ++ v)) (prepended : Prepended .or .zeroIsOne u.getLast? x) : AndBehind u := by
  have some_ : x ++ v ≠ [] := List.append_ne_nil_of_left_ne_nil (prepended_ne_nil _ _ _ x prepended) v
  have finds := or_false_before_finds u.getLast? x v prepended
  obtain ⟨ahead, starts⟩ : ∃ ahead, x ++ v = '0' :: ahead := by
    obtain ⟨t, b, w, b', rfl, _, constant, _⟩ := prepended
    rw [Text.spells_zero t constant]
    exact ⟨_, rfl⟩
  rcases fixed_places orFalseBefore or_false_before_fits cs u _ fixed split some_ with
    nothing | ⟨n, found⟩ | ⟨u', y, y', past, rfl, same, someY', found⟩
  · exact absurd nothing finds
  · -- An `AND` does not begin like a constant.
    rcases or_false_before_found _ _ found with ⟨y, z, rest, splitY, ⟨w, b, rfl, _, spelled, _⟩, _⟩ | ⟨_, _, _, _, delete⟩
    · obtain ⟨c, w, rfl, letters⟩ := spells_head .and w 'A' _ rfl spelled
      rw [starts, List.append_assoc, List.cons_append, List.cons.injEq] at splitY
      obtain ⟨rfl, _⟩ := splitY
      exact absurd letters (by decide)
    · cases delete
  · rcases or_false_before_found _ _ found with ⟨z, z', rest, splitZ, last, other, keep⟩ | ⟨_, _, _, _, delete⟩
    · have constant := false_constant_inside y y' past z z' rest ahead _ splitZ someY' (Verdict.keep.inj keep) last
        other (same.symm.trans starts)
      subst constant
      exact ⟨u', y, rfl, last⟩
    · cases delete

end ArchiveSearch.Simplify

import ArchiveSearch.Filter.Basic
import ArchiveSearch.Proofs.Simplify.Seams

/- The sweeps over connectives and constants in a squeezed condition, as equations: what the sweep for true operands makes
   of a connective or a constant with a text behind it, and which of them it cuts out, and what the sweep behind it makes
   of a false operand at the end of a disjunct. -/
namespace ArchiveSearch.Simplify

set_option autoImplicit false

open Text (Cursor Keyword Spells isBlank isBoundary isWordSide)

def keyword : Connective → Keyword
  | .and => .and
  | .or => .or

def joint (connective : Connective) : List Char :=
  ' ' :: (connective.name.toList ++ [' '])

def spelledConstant (b : Bool) : List Char :=
  [digit b, '=', '1']

theorem name_spelled (connective : Connective) : Spells (keyword connective) connective.name.toList := by
  cases connective <;> exact List.forall₂_same.mpr fun _ _ => .inl rfl

theorem constant_spells (b : Bool) : Spells (constantWord b) (spelledConstant b) := by
  cases b <;> exact List.forall₂_same.mpr fun _ _ => .inl rfl

theorem space_blanks : Blanks [' '] :=
  ⟨List.cons_ne_nil _ _, List.forall_mem_singleton.mpr rfl⟩

theorem joint_follows (connective : Connective) (y : List Char) : Follows (joint connective ++ y) := by
  rintro c ⟨⟩
  exact .inl (by decide)

theorem blanks_apart (b rest : List Char) (c : Char) (v : List Char) (blanks : Blanks b) (solid : isBlank c = false) :
    c :: v ≠ b ++ rest := by
  intro split
  obtain ⟨d, b, rfl⟩ := List.exists_cons_of_ne_nil blanks.1
  obtain ⟨rfl, -⟩ := List.cons.inj split
  rw [blanks.2 c List.mem_cons_self] at solid
  cases solid

theorem and_true_none (before : Option Char) (cs : List Char)
    (appended : ∀ x rest, Appended .and .oneIsOne x rest.head? → cs ≠ x ++ rest)
    (prepended : ∀ b w rest, Blanks b → Spells .and w → cs ≠ '1' :: '=' :: '1' :: (b ++ (w ++ rest))) :
    andTrue ⟨before, cs⟩ = none := by
  cases found : andTrue ⟨before, cs⟩ with
  | none => rfl
  | some verdict =>
      obtain ⟨x, rest, split, -, operand | ⟨t, b, w, b', rfl, -, constant, blanks, spelled, -⟩⟩ :=
        and_true_found _ _ found
      · exact absurd split (appended x rest operand)
      · rw [Text.spells_one t constant] at split
        simp only [List.append_assoc] at split
        exact absurd split (prepended b w (b' ++ rest) blanks spelled)

theorem solid_passed (before : Option Char) (c : Char) (v : List Char) (solid : isBlank c = false)
    (other : c ≠ '1' ∨ v.head? ≠ some '=') : andTrue ⟨before, c :: v⟩ = none := by
  refine and_true_none before _ ?_ ?_
  · rintro _ rest ⟨b, w, b', t, rfl, blanks, -⟩
    rw [List.append_assoc]
    exact blanks_apart b _ c v blanks solid
  · intro b w rest _ _ split
    obtain ⟨rfl, rfl⟩ := List.cons.inj split
    exact absurd rfl (other.resolve_left (not_not_intro rfl))

theorem gap_apart (c : Char) (v b w rest : List Char) (solid : isBlank c = false) (other : c ≠ 'A' ∧ c ≠ 'a')
    (blanks : Blanks b) (spelled : Spells .and w) : ' ' :: c :: v ≠ b ++ (w ++ rest) := by
  intro split
  obtain ⟨d, b, rfl⟩ := List.exists_cons_of_ne_nil blanks.1
  obtain ⟨-, behind⟩ := List.cons.inj split
  cases b with
  | nil =>
      obtain ⟨e, w, rfl, letter⟩ := spells_head .and w 'A' _ rfl spelled
      obtain ⟨rfl, -⟩ := List.cons.inj behind
      exact absurd letter (not_or_intro other.1 other.2)
  | cons e b =>
      have more : Blanks (e :: b) := ⟨List.cons_ne_nil e b, fun d member => blanks.2 d (List.mem_cons_of_mem _ member)⟩
      exact blanks_apart _ _ c v more solid behind

theorem gap_passed (before : Option Char) (c : Char) (v : List Char) (solid : isBlank c = false)
    (other : c ≠ 'A' ∧ c ≠ 'a') : andTrue ⟨before, ' ' :: c :: v⟩ = none := by
  refine and_true_none before _ ?_ fun _ _ _ _ _ split => absurd (List.cons.inj split).1 (by decide)
  rintro _ rest ⟨b, w, b', t, rfl, blanks, spelled, -⟩
  simp only [List.append_assoc]
  exact gap_apart c v b w _ solid other blanks spelled

theorem over_joint (connective : Connective) (constant : Keyword) (before : Option Char) (y : List Char)
    (solid : Solid y.head?) :
    overAppended (keyword connective) constant ⟨before, joint connective ++ y⟩ =
      Cursor.word constant.letters ⟨some ' ', y⟩ >>= Cursor.boundary := by
  have spelled := name_spelled connective
  have solid' := spells_solid _ connective.name.toList ([' '] ++ y) spelled
  have gap := blanks_step before [' '] (connective.name.toList ++ ([' '] ++ y)) space_blanks solid'
  have word := spelled_step _ _ (some ' ') ([' '] ++ y) spelled
  have gap' := blanks_step connective.name.toList.getLast? [' '] y space_blanks solid
  have whole : joint connective ++ y = [' '] ++ (connective.name.toList ++ ([' '] ++ y)) := by simp [joint]
  rw [overAppended, whole, gap]
  simp only [Option.bind_eq_bind, Option.bind_some]
  rw [show [' '].getLast? = some ' ' from rfl, word, Option.bind_some, gap', Option.bind_some]
  rfl

theorem joined_passed (before : Option Char) (y : List Char) (solid : Solid y.head?)
    (unlike : ∀ rest, y ≠ '1' :: '=' :: '1' :: rest) : andTrue ⟨before, joint .and ++ y⟩ = none := by
  refine and_true_none before _ ?_ fun _ _ _ _ _ split => absurd (List.cons.inj split).1 (by decide)
  intro x rest appended split
  obtain ⟨behind, crossed⟩ := over_appended .and .oneIsOne before x rest appended
  rw [← split] at crossed
  obtain ⟨last, word, -⟩ := Option.bind_eq_some_iff.mp ((over_joint .and .oneIsOne before y solid).symm.trans crossed)
  obtain ⟨t, same, constant, -⟩ := spelled_found .oneIsOne _ _ _ word
  rw [Text.spells_one t constant] at same
  exact absurd same (unlike last.rest)

def Passes : List Char → List Char → Prop
  | [], _ => True
  | c :: u, w => (∀ before, andTrue ⟨before, c :: (u ++ w)⟩ = none) ∧ Passes u w

theorem sweep_passes (before : Option Char) (u w : List Char) (passes : Passes u w) :
    sweepFrom andTrue 0 false before (u ++ w) = u ++ sweepFrom andTrue 0 false (lastOr before u) w := by
  induction u generalizing before with
  | nil => rfl
  | cons c u ih =>
      rw [List.cons_append, sweep_from_pass andTrue before c _ (passes.1 before), ih (some c) passes.2, last_or_cons]
      rfl

theorem passes_solid (u v w : List Char) (solid : (u.all fun c => !isBlank c && c != '1') = true)
    (later : Passes v w) : Passes (u ++ v) w := by
  induction u with
  | nil => exact later
  | cons c u ih =>
      rw [List.all_cons, Bool.and_eq_true, Bool.and_eq_true, Bool.not_eq_true', bne_iff_ne] at solid
      obtain ⟨⟨here, other⟩, others⟩ := solid
      exact ⟨fun before => solid_passed before c _ here (.inl other), ih others⟩

theorem passes_constant (w : List Char) (follows : Follows w) : Passes ['1'] w :=
  ⟨fun before => solid_passed before '1' w (by decide) (.inr (follows_unsigned w follows)), trivial⟩

theorem name_solid (connective : Connective) :
    (connective.name.toList.all fun c => !isBlank c && c != '1') = true := by
  cases connective <;> decide

theorem sweep_follows (before : Option Char) (w : List Char) (follows : Follows w) :
    sweepFrom andTrue 0 false before w = sweep andTrue w := by
  cases w with
  | nil => rfl
  | cons c w =>
      have unlike : c ≠ '1' := by
        rintro rfl
        exact absurd (follows '1' rfl) (by decide)
      have prepended : ∀ before, andTrueBefore ⟨before, c :: w⟩ = none := by
        intro before
        cases found : overPrepended .and .oneIsOne ⟨before, c :: w⟩ with
        | none => exact found
        | some last =>
            obtain ⟨x, split, t, b, w', b', rfl, -, constant, -⟩ := over_prepended_found _ _ _ _ found
            rw [Text.spells_one t constant] at split
            exact absurd (List.cons.inj split).1 unlike
      have after : andTrueAfter ⟨before, c :: w⟩ = andTrueAfter ⟨none, c :: w⟩ := rfl
      refine sweep_from_behind andTrue before none (c :: w) ?_
      rw [andTrue, andTrue, after, prepended before, prepended none]
      rfl

theorem sweep_wordless (before : Option Char) (y : List Char) (wordless : isWordSide before = false) :
    sweepFrom andTrue 0 false before y = sweep andTrue y :=
  sweep_from_behind andTrue before none y (and_true_bounded.behind before none y wordless)

structure Begins (y : List Char) : Prop where
  solid : Solid y.head?
  lone : ∀ before, andTrue ⟨before, ' ' :: y⟩ = none

theorem begins_other (c : Char) (v : List Char) (solid : isBlank c = false) (other : c ≠ 'A' ∧ c ≠ 'a') :
    Begins (c :: v) :=
  ⟨by simp [Solid, solid], fun before => gap_passed before c v solid other⟩

theorem true_begins (w : List Char) : Begins (spelledConstant true ++ w) :=
  begins_other '1' _ (by decide) (by decide)

theorem sweep_joint (connective : Connective) (y : List Char) (begins : Begins y)
    (first : ∀ before, andTrue ⟨before, joint connective ++ y⟩ = none) :
    sweep andTrue (joint connective ++ y) = joint connective ++ sweep andTrue y := by
  have others : Passes (connective.name.toList ++ [' ']) y :=
    passes_solid _ _ y (name_solid connective) ⟨begins.lone, trivial⟩
  have last : isWordSide (lastOr none (joint connective)) = false := by
    cases connective <;> decide
  rw [sweep, sweep_passes none (joint connective) y ⟨first, others⟩, sweep_wordless _ y last]

theorem sweep_or (y : List Char) (begins : Begins y) : sweep andTrue (joint .or ++ y) = joint .or ++ sweep andTrue y :=
  sweep_joint .or y begins fun before => gap_passed before 'O' _ (by decide) (by decide)

theorem sweep_and (y : List Char) (begins : Begins y) (unlike : ∀ rest, y ≠ '1' :: '=' :: '1' :: rest) :
    sweep andTrue (joint .and ++ y) = joint .and ++ sweep andTrue y :=
  sweep_joint .and y begins fun before => joined_passed before y begins.solid unlike

theorem constant_ends (b : Bool) (w : List Char) (follows : Follows w) :
    isBoundary (spelledConstant b).getLast? w.head? = true := by
  have side : isWordSide (spelledConstant b).getLast? = true := by
    cases b <;> decide
  rw [isBoundary, side, follows_wordless w follows]
  rfl

theorem constant_appended (connective : Connective) (b : Bool) (w : List Char) (follows : Follows w) :
    Appended (keyword connective) (constantWord b) (joint connective ++ spelledConstant b) w.head? :=
  ⟨[' '], connective.name.toList, [' '], spelledConstant b, by simp [joint], space_blanks, name_spelled connective,
    space_blanks, constant_spells b, constant_ends b w follows⟩

theorem sweep_true_after (w : List Char) (follows : Follows w) :
    sweep andTrue (joint .and ++ spelledConstant true ++ w) = sweep andTrue w := by
  generalize stretch : joint .and ++ spelledConstant true = x
  have appended : Appended .and .oneIsOne x w.head? := stretch ▸ constant_appended .and true w follows
  obtain ⟨behind, crossed⟩ := over_appended .and .oneIsOne none x w appended
  have chain : andTrueAfter ⟨none, x ++ w⟩ = some ⟨behind, w⟩ := crossed
  have found : andTrue ⟨none, x ++ w⟩ = some (.delete x.length) := by
    rw [andTrue, chain]
    simp only [distance_append ⟨none, x ++ w⟩ ⟨behind, w⟩ x rfl]
  rw [sweep, sweep_from_cut andTrue none x w (appended_ne_nil _ _ x _ appended) found]
  exact sweep_follows _ w follows

theorem over_prepended_solid (joint constant : Keyword) (before : Option Char) (x rest : List Char)
    (prepended : Prepended joint constant before x) (solid : Solid rest.head?) :
    ∃ behind, overPrepended joint constant ⟨before, x ++ rest⟩ = some ⟨behind, rest⟩ := by
  obtain ⟨t, b, w, b', rfl, edge, constant_, blanks, spelled, blanks'⟩ := prepended
  have begins : isBoundary before (t ++ (b ++ (w ++ (b' ++ rest)))).head? = true := by
    rw [List.head?_append_of_ne_nil _ (Text.spells_ne_nil constant t constant_)]
    exact edge
  refine ⟨b'.getLast?, ?_⟩
  simp only [overPrepended, List.append_assoc, Option.bind_eq_bind,
    (boundary_found ⟨before, t ++ (b ++ (w ++ (b' ++ rest)))⟩ _).mpr ⟨begins, rfl⟩, Option.bind_some,
    spelled_step constant t _ _ constant_, blanks_step _ b _ blanks (spells_solid joint w _ spelled),
    spelled_step joint w _ _ spelled, blanks_step _ b' rest blanks' solid]

theorem true_prepended : Prepended .and .oneIsOne none (spelledConstant true ++ joint .and) :=
  ⟨spelledConstant true, [' '], Connective.and.name.toList, [' '], rfl, by decide, constant_spells true,
    space_blanks, name_spelled .and, space_blanks⟩

theorem sweep_true_before (y : List Char) (solid : Solid y.head?) :
    sweep andTrue (spelledConstant true ++ joint .and ++ y) = sweep andTrue y := by
  have unlike : andTrueAfter ⟨none, spelledConstant true ++ joint .and ++ y⟩ = none := rfl
  have prepended := true_prepended
  have wordless : isWordSide (lastOr none (spelledConstant true ++ joint .and)) = false := by decide
  generalize spelledConstant true ++ joint .and = x at *
  obtain ⟨behind, crossed⟩ := over_prepended_solid .and .oneIsOne none x y prepended solid
  have chain : andTrueBefore ⟨none, x ++ y⟩ = some ⟨behind, y⟩ := crossed
  have found : andTrue ⟨none, x ++ y⟩ = some (.delete x.length) := by
    rw [andTrue, unlike, chain]
    simp only [Option.map_some, distance_append ⟨none, x ++ y⟩ ⟨behind, y⟩ x rfl]
  rw [sweep, sweep_from_cut andTrue none x y (prepended_ne_nil _ _ _ x prepended) found]
  exact sweep_wordless _ y wordless

theorem sweep_false (w : List Char) (follows : Follows w) :
    sweep andTrue (spelledConstant false ++ w) = spelledConstant false ++ sweep andTrue w := by
  have passes : Passes (spelledConstant false) w :=
    passes_solid ['0', '='] ['1'] w (by decide) (passes_constant w follows)
  rw [sweep, sweep_passes none _ w passes, sweep_follows _ w follows]

inductive Disjoined : List Char → Prop
  | done : Disjoined []
  | closing (v : List Char) : Disjoined (')' :: v)
  | disjunct (v : List Char) : Disjoined (' ' :: 'O' :: 'R' :: v)

theorem disjoined_follows (w : List Char) (disjoined : Disjoined w) : Follows w := by
  cases disjoined with
  | done => nofun
  | closing v =>
      rintro c ⟨⟩
      exact .inr rfl
  | disjunct v =>
      rintro c ⟨⟩
      exact .inl (by decide)

theorem disjoined_apart (w b and_ rest : List Char) (disjoined : Disjoined w) (blanks : Blanks b)
    (spelled : Spells .and and_) : w ≠ b ++ (and_ ++ rest) := by
  cases disjoined with
  | done => exact fun same => blanks.1 (List.append_eq_nil_iff.mp same.symm).1
  | closing v => exact blanks_apart b _ ')' v blanks (by decide)
  | disjunct v => exact gap_apart 'O' _ b and_ rest (by decide) (by decide) blanks spelled

theorem disjoined_unjoined (w : List Char) (disjoined : Disjoined w) : ¬ AndAhead w := by
  rintro ⟨_, past, split, b, and_, rfl, blanks, spelled, -⟩
  rw [List.append_assoc] at split
  exact disjoined_apart w b and_ past disjoined blanks spelled split

theorem sweep_true_disjoined (w : List Char) (disjoined : Disjoined w) :
    sweep andTrue (spelledConstant true ++ w) = spelledConstant true ++ sweep andTrue w := by
  have follows := disjoined_follows w disjoined
  have first : ∀ before, andTrue ⟨before, spelledConstant true ++ w⟩ = none := by
    intro before
    refine and_true_none before _ ?_ fun b and_ rest blanks spelled split => ?_
    · rintro _ rest ⟨b, and_, b', t, rfl, blanks, -⟩
      rw [List.append_assoc]
      exact blanks_apart b _ '1' _ blanks (by decide)
    · have behind : w = b ++ (and_ ++ rest) := by
        simpa [spelledConstant, digit] using split
      exact disjoined_apart w b and_ rest disjoined blanks spelled behind
  have passes : Passes (spelledConstant true) w :=
    ⟨first, passes_solid ['='] ['1'] w (by decide) (passes_constant w follows)⟩
  rw [sweep, sweep_passes none _ w passes, sweep_follows _ w follows]

theorem sweep_disjoined (w : List Char) (disjoined : Disjoined w) : Disjoined (sweep andTrue w) := by
  cases disjoined with
  | done => exact .done
  | closing v =>
      have wall : Wall ')' := ⟨by decide, by decide, by decide⟩
      rw [← List.nil_append (')' :: v), sweep_wall andTrue and_true_bounded [] v ')' wall]
      exact .closing _
  | disjunct v =>
      have passes : Passes [' ', 'O', 'R'] v :=
        ⟨fun before => gap_passed before 'O' _ (by decide) (by decide),
          passes_solid ['O', 'R'] [] v (by decide) trivial⟩
      have swept : sweep andTrue (' ' :: 'O' :: 'R' :: v) = _ := sweep_passes none _ v passes
      rw [swept]
      exact .disjunct _

def Finished (u : List Char) : Prop :=
  ∃ c, u.getLast? = some c ∧ Ender c

theorem finished_append (u v : List Char) (ends : Finished v) : Finished (u ++ v) := by
  obtain ⟨c, last, ender⟩ := ends
  refine ⟨c, ?_, ender⟩
  rw [List.getLast?_append_of_ne_nil u, last]
  rintro rfl
  cases last

theorem sweep_false_after (p w : List Char) (ends : Finished p) (disjoined : Disjoined w) :
    sweep orFalseAfter (p ++ (joint .or ++ spelledConstant false ++ w)) = sweep orFalseAfter (p ++ w) := by
  obtain ⟨c, last, ender⟩ := ends
  have forgets : ∀ before before', orFalseAfter ⟨before, w⟩ = orFalseAfter ⟨before', w⟩ := by
    intro before before'
    cases w <;> rfl
  have appended := constant_appended .or false w (disjoined_follows w disjoined)
  have disjoined' : Disjoined (joint .or ++ spelledConstant false ++ w) := .disjunct _
  generalize joint .or ++ spelledConstant false = x at *
  obtain ⟨behind, crossed⟩ := over_appended .or .zeroIsOne p.getLast? x w appended
  have found : orFalseAfter ⟨p.getLast?, x ++ w⟩ = some (.delete x.length) := by
    change (overAppended .or .zeroIsOne ⟨p.getLast?, x ++ w⟩ >>= _) = _
    have next := over_and_none behind w (disjoined_unjoined w disjoined)
    rw [overAnd] at next
    simp only [crossed, Option.bind_eq_bind, Option.bind_some] at next ⊢
    rw [next, distance_append ⟨p.getLast?, x ++ w⟩ ⟨behind, w⟩ x rfl]
    rfl
  have apart := fun w disjoined =>
    or_false_after_apart p w c last ender (disjoined_follows w disjoined) (disjoined_unjoined w disjoined)
  rw [sweep_apart orFalseAfter or_false_after_fits p _ (apart _ disjoined'),
    sweep_apart orFalseAfter or_false_after_fits p w (apart w disjoined),
    sweep_from_cut orFalseAfter _ x w (appended_ne_nil _ _ x _ appended) found,
    sweep_from_behind orFalseAfter _ p.getLast? w (forgets _ _)]

end ArchiveSearch.Simplify

import ArchiveSearch.Proofs.Simplify.Fixpoint

/- Where a text can be cut in two so that a sweep works on the parts one after the other: no pattern that begins before the
   cut may reach over it. That is so before a wall, a character that is neither blank nor part of a word nor the sign of a
   constant, and behind the wall a sweep begins anew. -/
namespace ArchiveSearch.Simplify

set_option autoImplicit false

open Text (Cursor Keyword isBlank isBoundary isWord isWordSide foldChar keywordChars)

def onward (more : List Char) (at_ : Cursor) : Cursor :=
  ⟨at_.before, at_.rest ++ more⟩

theorem distance_onward (more : List Char) (first last : Cursor) :
    (onward more first).distance (onward more last) = first.distance last := by
  simp only [Cursor.distance, onward, List.length_append]
  omega

section Onward

variable (more : List Char)

-- From places of one kind a step goes no farther with more text behind the end, and it leads to places of another kind.
structure Stops (kind next : Cursor → Prop) (step : Cursor.Step) : Prop where
  same : ∀ at_, kind at_ → step (onward more at_) = (step at_).map (onward more)
  leads : ∀ at_ last, kind at_ → step at_ = some last → next last

def anywhere (_ : Cursor) : Prop :=
  True

theorem Stops.then (kind next last : Cursor → Prop) (first second : Cursor.Step) (stops : Stops more kind next first)
    (stops' : Stops more next last second) : Stops more kind last fun at_ => first at_ >>= second where
  same at_ here := by
    simp only [stops.same at_ here]
    cases found : first at_ with
    | none => rfl
    | some there => exact stops'.same there (stops.leads at_ there here found)
  leads at_ there here found := by
    obtain ⟨middle, found₁, found₂⟩ := Option.bind_eq_some_iff.mp found
    exact stops'.leads middle there (stops.leads at_ middle here found₁) found₂

theorem stops_anywhere (step : Cursor.Step) (same : ∀ at_, step (onward more at_) = (step at_).map (onward more)) :
    Stops more anywhere anywhere step :=
  ⟨fun at_ _ => same at_, fun _ _ _ _ => trivial⟩

theorem Stops.narrow (kind next kind' : Cursor → Prop) (step : Cursor.Step) (stops : Stops more kind next step)
    (within : ∀ at_, kind' at_ → kind at_) : Stops more kind' next step :=
  ⟨fun at_ here => stops.same at_ (within at_ here), fun at_ last here => stops.leads at_ last (within at_ here)⟩

def Still : Prop :=
  ∀ c, more.head? = some c → isWord c = false ∧ c ≠ '='

theorem one_stops (p : Char → Bool) (none_ : ∀ c, more.head? = some c → p c = false) :
    Stops more anywhere anywhere (Cursor.one p) := by
  refine stops_anywhere more _ ?_
  rintro ⟨before, v⟩
  cases v with
  | nil =>
      cases more with
      | nil => rfl
      | cons c more => simp [onward, Cursor.one, none_ c rfl]
  | cons d v => by_cases here : p d = true <;> simp [onward, Cursor.one, here]

theorem many_stops (p : Char → Bool) (none_ : ∀ c, more.head? = some c → p c = false) :
    Stops more anywhere anywhere (Cursor.many p) := by
  refine stops_anywhere more _ ?_
  rintro ⟨before, v⟩
  rw [Cursor.many, Cursor.many, Option.map_some, Option.some.injEq, onward]
  induction v generalizing before with
  | nil =>
      cases more with
      | nil => rfl
      | cons c more => simp [onward, Cursor.manyFrom, none_ c rfl]
  | cons d v ih =>
      rw [List.cons_append, Cursor.manyFrom, Cursor.manyFrom]
      by_cases here : p d = true
      · rw [if_pos here, if_pos here, ih]
      · rw [if_neg here, if_neg here]
        rfl

theorem blanks_stop (solid : Solid more.head?) : Stops more anywhere anywhere Cursor.blanks := by
  have none_ : ∀ c, more.head? = some c → isBlank c = false := by
    intro c first
    rw [first] at solid
    simpa [Solid] using solid
  exact (one_stops more isBlank none_).then more _ _ _ _ _ (many_stops more isBlank none_)

theorem still_unfolded (still : Still more) (c d : Char) (first : more.head? = some c) (known : d ∈ keywordChars) :
    foldChar c ≠ foldChar d := by
  -- All but the sign are word characters, in both cases.
  have words : (keywordChars.all fun d => d == '=' || (isWord d && isWord d.toLower)) = true := by decide
  obtain ⟨wordless, unsigned⟩ := still c first
  intro folded
  have here := List.all_eq_true.mp words d known
  rw [Bool.or_eq_true, beq_iff_eq, Bool.and_eq_true] at here
  rcases (Text.fold_keyword c d known).mp folded with rfl | rfl
  · rcases here with rfl | ⟨word, -⟩
    · exact unsigned rfl
    · rw [wordless] at word
      cases word
  · rcases here with rfl | ⟨-, word⟩
    · exact unsigned (by decide)
    · rw [wordless] at word
      cases word

theorem word_stops (still : Still more) (letters : List Char) (known : ∀ d ∈ letters, d ∈ keywordChars) :
    Stops more anywhere anywhere (Cursor.word letters) := by
  induction letters with
  | nil => exact stops_anywhere more _ fun _ => rfl
  | cons d letters ih =>
      obtain ⟨here, later⟩ := List.forall_mem_cons.mp known
      have letter := one_stops more (fun c => foldChar c == foldChar d) fun c first => by
        simpa using still_unfolded more still c d first here
      exact letter.then more _ _ _ _ _ (ih later)

theorem boundary_stops (still : Still more) (kind : Cursor → Prop) : Stops more kind kind Cursor.boundary where
  same := by
    rintro ⟨before, v⟩ -
    have same : isBoundary before (v ++ more).head? = isBoundary before v.head? := by
      cases v with
      | nil =>
          cases more with
          | nil => rfl
          | cons c more => simp [isBoundary, isWordSide, (still c rfl).1]
      | cons d v => rfl
    rw [Cursor.boundary, Cursor.boundary, onward, same]
    split <;> rfl
  leads at_ last here found := by
    obtain ⟨-, rfl⟩ := (boundary_found at_ last).mp found
    exact here

theorem and_true_onward (at_ : Cursor)
    (after : overAppended .and .oneIsOne (onward more at_) = (overAppended .and .oneIsOne at_).map (onward more))
    (before : overPrepended .and .oneIsOne (onward more at_) = (overPrepended .and .oneIsOne at_).map (onward more)) :
    andTrue (onward more at_) = andTrue at_ := by
  have after' : andTrueAfter (onward more at_) = (andTrueAfter at_).map (onward more) := after
  have before' : andTrueBefore (onward more at_) = (andTrueBefore at_).map (onward more) := before
  rw [andTrue, andTrue, after', before']
  cases andTrueAfter at_ with
  | some last => simp [distance_onward]
  | none => simp [Function.comp_def, distance_onward]

def overAnd (at_ : Cursor) : Option Cursor :=
  Cursor.blanks at_ >>= wordAnd >>= Cursor.boundary

theorem or_false_after_onward (at_ : Cursor)
    (crossed : overAppended .or .zeroIsOne (onward more at_) = (overAppended .or .zeroIsOne at_).map (onward more))
    (next : ∀ last, overAppended .or .zeroIsOne at_ = some last →
      overAnd (onward more last) = (overAnd last).map (onward more)) :
    orFalseAfter (onward more at_) = orFalseAfter at_ := by
  change (overAppended .or .zeroIsOne (onward more at_) >>= _) = (overAppended .or .zeroIsOne at_ >>= _)
  rw [crossed]
  cases found : overAppended .or .zeroIsOne at_ with
  | none => rfl
  | some last =>
      have following := next last found
      simp only [overAnd, Option.map_some, Option.bind_eq_bind, Option.bind_some] at following ⊢
      rw [following]
      cases (Cursor.blanks last).bind wordAnd |>.bind Cursor.boundary with
      | none => simp [distance_onward]
      | some past => simp [distance_onward]

theorem or_false_before_onward (at_ : Cursor)
    (crossed : overPrepended .or .zeroIsOne (onward more at_) = (overPrepended .or .zeroIsOne at_).map (onward more))
    (behind : (Cursor.boundary (onward more at_) >>= wordAnd >>= Cursor.blanks >>= falseOr) =
      (Cursor.boundary at_ >>= wordAnd >>= Cursor.blanks >>= falseOr).map (onward more)) :
    orFalseBefore (onward more at_) = orFalseBefore at_ := by
  have crossed' : falseOr (onward more at_) = (falseOr at_).map (onward more) := crossed
  rw [orFalseBefore, orFalseBefore, behind, crossed']
  cases Cursor.boundary at_ >>= wordAnd >>= Cursor.blanks >>= falseOr with
  | some past => simp [distance_onward]
  | none => simp [Function.comp_def, distance_onward]

end Onward

theorem sweep_from_cut (find : Cursor → Option Verdict) (before : Option Char) (x rest : List Char) (some_ : x ≠ [])
    (found : find ⟨before, x ++ rest⟩ = some (.delete x.length)) :
    sweepFrom find 0 false before (x ++ rest) = sweepFrom find 0 false (lastOr before x) rest := by
  obtain ⟨c, x, rfl⟩ := List.exists_cons_of_ne_nil some_
  rw [List.cons_append] at found ⊢
  rw [sweepFrom, found, last_or_cons]
  exact sweep_from_pending find false (some c) x rest

theorem sweep_from_pass (find : Cursor → Option Verdict) (before : Option Char) (c : Char) (rest : List Char)
    (nothing : find ⟨before, c :: rest⟩ = none) :
    sweepFrom find 0 false before (c :: rest) = c :: sweepFrom find 0 false (some c) rest := by
  rw [sweepFrom, nothing]

def Apart (find : Cursor → Option Verdict) (u w : List Char) : Prop :=
  ∀ s, s ≠ [] → s <:+ u → ∀ before, find (onward w ⟨before, s⟩) = find ⟨before, s⟩

theorem sweep_from_apart (find : Cursor → Option Verdict) (fits : Fits find) (u w : List Char) (apart : Apart find u w)
    (pending : Nat) (copying : Bool) (before : Option Char) (within : pending ≤ u.length) :
    sweepFrom find pending copying before (u ++ w) =
      sweepFrom find pending copying before u ++ sweepFrom find 0 false (lastOr before u) w := by
  induction u generalizing pending copying before with
  | nil =>
      obtain rfl : pending = 0 := Nat.le_zero.mp within
      rw [List.nil_append, sweep_from_idle, sweepFrom]
      rfl
  | cons d u ih =>
      have later := ih fun s some_ suffix => apart s some_ (suffix.trans (List.suffix_cons d u))
      cases pending with
      | succ pending =>
          rw [List.cons_append, sweepFrom, sweepFrom, later pending copying (some d) (Nat.le_of_succ_le_succ within),
            last_or_cons]
          cases copying <;> rfl
      | zero =>
          have here : find ⟨before, d :: (u ++ w)⟩ = find ⟨before, d :: u⟩ :=
            apart (d :: u) (List.cons_ne_nil d u) (List.suffix_refl _) before
          rw [List.cons_append, sweepFrom, sweepFrom, here, last_or_cons]
          cases found : find ⟨before, d :: u⟩ with
          | none => exact congrArg (d :: ·) (later 0 false (some d) (Nat.zero_le _))
          | some verdict =>
              obtain ⟨x, past, split, some_, shape⟩ := fits _ verdict found
              obtain ⟨e, x, rfl⟩ := List.exists_cons_of_ne_nil some_
              have inside : x.length ≤ u.length := by
                have lengths := congrArg List.length split
                simp only [List.length_append, List.length_cons] at lengths
                omega
              rcases shape with rfl | rfl
              · exact later x.length false (some d) inside
              · exact congrArg (d :: ·) (later x.length true (some d) inside)

theorem sweep_apart (find : Cursor → Option Verdict) (fits : Fits find) (u w : List Char) (apart : Apart find u w) :
    sweep find (u ++ w) = sweep find u ++ sweepFrom find 0 false u.getLast? w := by
  have all := sweep_from_apart find fits u w apart 0 false none (Nat.zero_le _)
  rwa [last_or_none] at all

structure Wall (c : Char) : Prop where
  solid : isBlank c = false
  wordless : isWord c = false
  unsigned : c ≠ '='

theorem wall_still (c : Char) (rest : List Char) (wall : Wall c) : Still (c :: rest) := by
  intro d first
  obtain rfl := Option.some.inj first
  exact ⟨wall.wordless, wall.unsigned⟩

theorem wall_solid (c : Char) (rest : List Char) (wall : Wall c) : Solid (c :: rest).head? := by
  simp [Solid, wall.solid]

def Forgets (step : Cursor.Step) : Prop :=
  ∀ before before' v, isWordSide before = isWordSide before' → step ⟨before, v⟩ = step ⟨before', v⟩

theorem Forgets.then (first second : Cursor.Step) (forgets : Forgets first) :
    Forgets fun at_ => first at_ >>= second :=
  fun before before' v same => congrArg (· >>= second) (forgets before before' v same)

theorem one_forgets (p : Char → Bool) : Forgets (Cursor.one p) := by
  intro before before' v _
  cases v <;> rfl

theorem boundary_forgets (word : Keyword) : Forgets fun at_ => Cursor.boundary at_ >>= Cursor.word word.letters := by
  intro before before' v same
  have edges : isBoundary before v.head? = isBoundary before' v.head? := by rw [isBoundary, isBoundary, same]
  obtain ⟨d, letters, spelled⟩ := List.exists_cons_of_ne_nil word.some_
  have letters_ : Cursor.word word.letters ⟨before, v⟩ = Cursor.word word.letters ⟨before', v⟩ := by
    rw [spelled]
    exact (one_forgets _).then _ _ before before' v same
  simp only [Cursor.boundary, edges]
  split
  · exact letters_
  · rfl

structure Bounded (find : Cursor → Option Verdict) : Prop where
  fits : Fits find
  ahead : ∀ at_ c more, Wall c → find (onward (c :: more) at_) = find at_
  behind : ∀ before before' v, isWordSide before = isWordSide before' → find ⟨before, v⟩ = find ⟨before', v⟩

section Patterns

variable (c : Char) (more : List Char) (wall : Wall c)

include wall

theorem word_wall (word : Keyword) : Stops (c :: more) anywhere anywhere (Cursor.word word.letters) :=
  word_stops _ (wall_still c more wall) word.letters word.known

theorem blanks_wall : Stops (c :: more) anywhere anywhere Cursor.blanks :=
  blanks_stop _ (wall_solid c more wall)

theorem boundary_wall : Stops (c :: more) anywhere anywhere Cursor.boundary :=
  boundary_stops _ (wall_still c more wall) anywhere

theorem over_appended_wall (joint constant : Keyword) :
    Stops (c :: more) anywhere anywhere (overAppended joint constant) :=
  ((((blanks_wall c more wall).then _ _ _ _ _ _ (word_wall c more wall joint)).then _ _ _ _ _ _
    (blanks_wall c more wall)).then _ _ _ _ _ _ (word_wall c more wall constant)).then _ _ _ _ _ _
    (boundary_wall c more wall)

theorem over_prepended_wall (joint constant : Keyword) :
    Stops (c :: more) anywhere anywhere (overPrepended joint constant) :=
  ((((boundary_wall c more wall).then _ _ _ _ _ _ (word_wall c more wall constant)).then _ _ _ _ _ _
    (blanks_wall c more wall)).then _ _ _ _ _ _ (word_wall c more wall joint)).then _ _ _ _ _ _
    (blanks_wall c more wall)

end Patterns

theorem over_appended_forgets (joint constant : Keyword) : Forgets (overAppended joint constant) :=
  (((((one_forgets isBlank).then _ _).then _ _).then _ _).then _ _).then _ _

theorem over_prepended_forgets (joint constant : Keyword) : Forgets (overPrepended joint constant) :=
  (((boundary_forgets constant).then _ _).then _ _).then _ _

theorem and_true_bounded : Bounded andTrue where
  fits := and_true_fits
  ahead at_ c more wall :=
    and_true_onward (c :: more) at_ ((over_appended_wall c more wall _ _).same at_ trivial)
      ((over_prepended_wall c more wall _ _).same at_ trivial)
  behind before before' v same := by
    have after : andTrueAfter ⟨before, v⟩ = andTrueAfter ⟨before', v⟩ :=
      over_appended_forgets .and .oneIsOne before before' v same
    have ahead : andTrueBefore ⟨before, v⟩ = andTrueBefore ⟨before', v⟩ :=
      over_prepended_forgets .and .oneIsOne before before' v same
    rw [andTrue, andTrue, after, ahead]
    rfl

theorem or_false_after_bounded : Bounded orFalseAfter where
  fits := or_false_after_fits
  ahead at_ c more wall := by
    have next : Stops (c :: more) anywhere anywhere overAnd :=
      ((blanks_wall c more wall).then _ _ _ _ _ _ (word_wall c more wall .and)).then _ _ _ _ _ _
        (boundary_wall c more wall)
    exact or_false_after_onward (c :: more) at_ ((over_appended_wall c more wall _ _).same at_ trivial)
      fun last _ => next.same last trivial
  behind before before' v same := by
    have crossed : overAppended .or .zeroIsOne ⟨before, v⟩ = overAppended .or .zeroIsOne ⟨before', v⟩ :=
      over_appended_forgets .or .zeroIsOne before before' v same
    exact congrArg (· >>= _) crossed

theorem or_false_before_bounded : Bounded orFalseBefore where
  fits := or_false_before_fits
  ahead at_ c more wall := by
    have behind : Stops (c :: more) anywhere anywhere fun at_ =>
        Cursor.boundary at_ >>= wordAnd >>= Cursor.blanks >>= falseOr :=
      (((boundary_wall c more wall).then _ _ _ _ _ _ (word_wall c more wall .and)).then _ _ _ _ _ _
        (blanks_wall c more wall)).then _ _ _ _ _ _ (over_prepended_wall c more wall .or .zeroIsOne)
    exact or_false_before_onward (c :: more) at_ ((over_prepended_wall c more wall _ _).same at_ trivial)
      (behind.same at_ trivial)
  behind before before' v same := by
    have crossed : falseOr ⟨before, v⟩ = falseOr ⟨before', v⟩ :=
      over_prepended_forgets .or .zeroIsOne before before' v same
    have behind : Forgets fun at_ => Cursor.boundary at_ >>= wordAnd >>= Cursor.blanks >>= falseOr :=
      ((boundary_forgets .and).then _ _).then _ _
    have conjoined := behind before before' v same
    simp only at conjoined
    rw [orFalseBefore, orFalseBefore, conjoined, crossed]
    rfl

theorem bounded_nothing (find : Cursor → Option Verdict) (bounded : Bounded find) (before : Option Char) (c : Char)
    (rest : List Char) (wall : Wall c) : find ⟨before, c :: rest⟩ = none := by
  rw [show (⟨before, c :: rest⟩ : Cursor) = onward (c :: rest) ⟨before, []⟩ from rfl, bounded.ahead _ c rest wall]
  cases found : find ⟨before, []⟩ with
  | none => rfl
  | some verdict =>
      obtain ⟨x, past, split, some_, -⟩ := bounded.fits _ verdict found
      exact absurd (List.append_eq_nil_iff.mp split.symm).1 some_

theorem sweep_from_behind (find : Cursor → Option Verdict) (before before' : Option Char) (cs : List Char)
    (same : find ⟨before, cs⟩ = find ⟨before', cs⟩) :
    sweepFrom find 0 false before cs = sweepFrom find 0 false before' cs := by
  cases cs with
  | nil => rfl
  | cons c cs => rw [sweepFrom, sweepFrom, same]

theorem sweep_wall (find : Cursor → Option Verdict) (bounded : Bounded find) (u v : List Char) (c : Char)
    (wall : Wall c) : sweep find (u ++ c :: v) = sweep find u ++ c :: sweep find v := by
  have apart : Apart find u (c :: v) := fun s _ _ before => bounded.ahead ⟨before, s⟩ c v wall
  have anew := sweep_from_behind find (some c) none v
    (bounded.behind (some c) none v (by simp [isWordSide, wall.wordless]))
  rw [sweep_apart find bounded.fits u _ apart, sweep_from_pass find _ c v (bounded_nothing find bounded _ c v wall),
    anew]
  rfl

theorem drop_neutral_wall (u v : List Char) (c : Char) (wall : Wall c) :
    dropNeutral (u ++ c :: v) = dropNeutral u ++ c :: dropNeutral v := by
  rw [dropNeutral, sweep_wall andTrue and_true_bounded u v c wall,
    sweep_wall orFalseAfter or_false_after_bounded _ _ c wall,
    sweep_wall orFalseBefore or_false_before_bounded _ _ c wall]
  rfl

end ArchiveSearch.Simplify

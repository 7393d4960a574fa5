import ArchiveSearch.Proofs.Simplify.Sweeping

namespace ArchiveSearch.Simplify

set_option autoImplicit false

open Text (isBlank)

def Outside (cs : List Char) (i : Nat) (c : Char) : Prop :=
  cs[i]? = some c ∧ (cs.take i).foldl Query.quoteAfter none = none

def Wraps (cs : List Char) (outer inner : Nat × Nat) : Prop :=
  outer.1 < inner.1 ∧ inner.2 < outer.2 ∧
    ∀ k c, cs[k]? = some c → (outer.1 < k ∧ k < inner.1) ∨ (inner.2 < k ∧ k < outer.2) → isBlank c = true

theorem outside_here (done : List Char) (c : Char) (rest : List Char)
    (none_ : done.foldl Query.quoteAfter none = none) : Outside (done ++ c :: rest) done.length c := by
  simp [Outside, none_]

theorem pairs_from_outside (open_ : Option Char) (i : Nat) (opens : List Nat) (rest done : List Char)
    (length : done.length = i) (state : done.foldl Query.quoteAfter none = open_)
    (opened : ∀ o ∈ opens, Outside (done ++ rest) o '(') :
    ∀ pair ∈ pairsFrom open_ i opens rest,
      Outside (done ++ rest) pair.1 '(' ∧ Outside (done ++ rest) pair.2 ')' := by
  -- One character more is behind the place.
  have onward : ∀ (open_ : Option Char) (c : Char) (rest done : List Char),
      done.foldl Query.quoteAfter none = open_ →
        (done ++ [c]).foldl Query.quoteAfter none = Query.quoteAfter open_ c ∧
          done ++ c :: rest = (done ++ [c]) ++ rest := by
    intro open_ c rest done state
    simp [state]
  fun_induction pairsFrom open_ i opens rest generalizing done with
  | case1 => simp
  | case2 q i opens c rest ih =>
      obtain ⟨after, split⟩ := onward _ c rest done state
      rw [split] at opened ⊢
      exact ih (done ++ [c]) (by simp [length]) after opened
  | case3 i opens c rest opening ih =>
      obtain rfl : c = '(' := by simpa using opening
      obtain ⟨after, split⟩ := onward _ '(' rest done state
      have here := outside_here done '(' rest state
      rw [length, split] at here
      rw [split] at opened ⊢
      exact ih (done ++ ['(']) (by simp [length]) after (List.forall_mem_cons.mpr ⟨here, opened⟩)
  | case4 i c rest _ closing ih =>
      obtain rfl : c = ')' := by simpa using closing
      obtain ⟨after, split⟩ := onward _ ')' rest done state
      rw [split]
      exact ih (done ++ [')']) (by simp [length]) after (by simp)
  | case5 i c rest _ closing first outer ih =>
      obtain rfl : c = ')' := by simpa using closing
      obtain ⟨after, split⟩ := onward _ ')' rest done state
      have here := outside_here done ')' rest state
      rw [length, split] at here
      rw [split] at opened ⊢
      obtain ⟨openedFirst, openedOuter⟩ := List.forall_mem_cons.mp opened
      exact List.forall_mem_cons.mpr
        ⟨⟨openedFirst, here⟩, ih (done ++ [')']) (by simp [length]) after openedOuter⟩
  | case6 i opens c rest _ _ ih =>
      obtain ⟨after, split⟩ := onward _ c rest done state
      rw [split] at opened ⊢
      exact ih (done ++ [c]) (by simp [length]) after opened

theorem pairs_outside (cs : List Char) (pair : Nat × Nat) (member : pair ∈ pairs cs) :
    Outside cs pair.1 '(' ∧ Outside cs pair.2 ')' :=
  pairs_from_outside none 0 [] cs [] rfl rfl (by simp) pair member

theorem squeeze_blank (before : Option Char) (c d : Char) (v : List Char)
    (fixed : squeezeFrom none false before (c :: d :: v) = c :: d :: v) (blank : isBlank c = true) :
    isBlank d = false ∧ spaceFits before d = true ∧
      squeezeFrom (Query.quoteAfter none d) false (some d) v = v := by
  simp only [squeezeFrom, blank, if_true] at fixed
  by_cases blankD : isBlank d = true
  · have shorter := squeeze_from_length none true before v
    rw [if_pos blankD] at fixed
    rw [fixed, List.length_cons, List.length_cons, Bool.toNat_true] at shorter
    omega
  · rw [if_neg blankD] at fixed
    by_cases fits : spaceFits before d = true
    · rw [fits, Bool.and_self, if_pos rfl, List.cons.injEq, List.cons.injEq] at fixed
      exact ⟨by simpa using blankD, fits, fixed.2.2⟩
    · have shorter := squeeze_from_length (Query.quoteAfter none d) false (some d) v
      rw [Bool.true_and, if_neg fits] at fixed
      have lengths := congrArg List.length fixed
      simp only [List.length_cons, Bool.toNat_false] at lengths shorter
      omega

theorem squeezed_blank (open_ before : Option Char) (u : List Char) (c d : Char) (v : List Char)
    (fixed : squeezeFrom open_ false before (u ++ c :: d :: v) = u ++ c :: d :: v)
    (outside : u.foldl Query.quoteAfter open_ = none) (blank : isBlank c = true) :
    spaceFits (lastOr before u) d = true := by
  match u, open_ with
  | [], open_ =>
      rw [List.foldl_nil] at outside
      subst outside
      exact (squeeze_blank before c d v fixed blank).2.1
  | a :: u, some q =>
      rw [last_or_cons]
      exact squeezed_blank _ (some a) u c d v (List.cons.inj fixed).2 outside blank
  | a :: u, none =>
      rw [last_or_cons]
      by_cases blankA : isBlank a = true
      · match u with
        | [] => exact absurd blank (by simp [(squeeze_blank before a c _ fixed blankA).1])
        | b :: u =>
            obtain ⟨_, _, later⟩ := squeeze_blank before a b _ fixed blankA
            rw [last_or_cons]
            have unquoted : Query.quoteAfter none a = none := by
              have apart : a ≠ '\'' ∧ a ≠ '"' := by
                constructor <;> rintro rfl <;> revert blankA <;> decide
              simp [Query.quoteAfter, apart]
            rw [List.foldl_cons, unquoted, List.foldl_cons] at outside
            exact squeezed_blank _ (some b) u c d v later outside blank
      · rw [List.cons_append, squeezeFrom, if_neg blankA] at fixed
        exact squeezed_blank _ (some a) u c d v (List.cons.inj fixed).2 outside blank
  termination_by u.length

theorem split_at (cs : List Char) (i : Nat) (c d : Char) (here : cs[i]? = some c) (next : cs[i + 1]? = some d) :
    cs = cs.take i ++ c :: d :: cs.drop (i + 2) := by
  obtain ⟨below, rfl⟩ := List.getElem?_eq_some_iff.mp here
  obtain ⟨belowNext, rfl⟩ := List.getElem?_eq_some_iff.mp next
  rw [← List.drop_eq_getElem_cons belowNext, ← List.drop_eq_getElem_cons below, List.take_append_drop]

theorem last_of_take (cs : List Char) (i : Nat) (c : Char) (here : cs[i]? = some c) :
    lastOr none (cs.take (i + 1)) = some c := by
  simp [lastOr, List.take_add_one, here]

theorem solid_after_opening (cs : List Char) (fixed : squeeze cs = cs) (i : Nat) (outside : Outside cs i '(')
    (c d : Char) (here : cs[i + 1]? = some c) (next : cs[i + 2]? = some d) : isBlank c = false := by
  have split := split_at cs (i + 1) c d here next
  have state : (cs.take (i + 1)).foldl Query.quoteAfter none = none := by
    rw [List.take_add_one, outside.1, List.foldl_append, outside.2]
    rfl
  rw [Bool.eq_false_iff]
  intro blank
  rw [split] at fixed
  have fits := squeezed_blank none none (cs.take (i + 1)) c d _ fixed state blank
  rw [last_of_take cs i '(' outside.1] at fits
  simp [spaceFits] at fits

theorem quote_after_blank (open_ : Option Char) (c : Char) (blank : isBlank c = true)
    (quote : ∀ q, open_ = some q → q = '\'' ∨ q = '"') (after : Query.quoteAfter open_ c = none) :
    open_ = none := by
  cases open_ with
  | none => rfl
  | some q =>
      by_cases same : c = q
      · subst same
        rcases quote c rfl with rfl | rfl
        · exact absurd blank (by decide)
        · exact absurd blank (by decide)
      · rw [Query.quoteAfter, if_neg same] at after
        cases after

theorem quote_marks (u : List Char) (open_ : Option Char) (quote : ∀ q, open_ = some q → q = '\'' ∨ q = '"') :
    ∀ q, u.foldl Query.quoteAfter open_ = some q → q = '\'' ∨ q = '"' := by
  induction u generalizing open_ with
  | nil => exact quote
  | cons c u ih =>
      apply ih
      intro q after
      cases open_ with
      | none =>
          by_cases mark : (c == '\'' || c == '"') = true
          · rw [Query.quoteAfter, if_pos mark, Option.some.injEq] at after
            subst after
            simpa using mark
          · rw [Query.quoteAfter, if_neg mark] at after
            cases after
      | some p =>
          by_cases same : c = p
          · rw [Query.quoteAfter, if_pos same] at after
            cases after
          · rw [Query.quoteAfter, if_neg same, Option.some.injEq] at after
            exact after ▸ quote p rfl

theorem solid_before_closing (cs : List Char) (fixed : squeeze cs = cs) (i : Nat)
    (outside : Outside cs (i + 1) ')') (c : Char) (here : cs[i]? = some c) : isBlank c = false := by
  have split := split_at cs i c ')' here outside.1
  have state := outside.2
  rw [List.take_add_one, here, List.foldl_append] at state
  rw [Bool.eq_false_iff]
  intro blank
  have before := quote_after_blank _ c blank (quote_marks (cs.take i) none (by simp)) state
  rw [split] at fixed
  have fits := squeezed_blank none none (cs.take i) c ')' _ fixed before blank
  simp [spaceFits] at fits

theorem next_solid_here (cs : List Char) (i : Nat) (c : Char) (here : cs[i]? = some c)
    (solid : Text.isAsciiBlank c = false) : nextSolid cs i = some i := by
  obtain ⟨below, rfl⟩ := List.getElem?_eq_some_iff.mp here
  rw [nextSolid, List.drop_eq_getElem_cons below, List.findIdx?_cons]
  simp [solid]

theorem last_solid_here (cs : List Char) (i : Nat) (c : Char) (here : cs[i]? = some c)
    (solid : Text.isAsciiBlank c = false) : lastSolid cs (i + 1) = some i := by
  rw [lastSolid, List.take_add_one, here, Option.toList_some, List.reverse_append, List.reverse_singleton,
    List.singleton_append, List.findIdx?_cons]
  simp [solid]

theorem drop_indices_fixed (indices : List Nat) (cs : List Char) (fixed : dropIndices indices cs = cs) (i : Nat)
    (member : i ∈ indices) : cs[i]? = none := by
  by_cases below : i < cs.length
  · have lengths := congrArg List.length fixed
    rw [dropIndices, List.length_map, ← List.length_zipIdx (l := cs) (i := 0),
      List.length_filter_eq_length_iff] at lengths
    have kept := lengths (cs[i], i) (List.mem_zipIdx_iff_getElem?.mpr (List.getElem?_eq_getElem below))
    simp [member] at kept
  · exact List.getElem?_eq_none (Nat.le_of_not_lt below)

theorem doubled_pair (cs : List Char) (squeezed : squeeze cs = cs) (outer inner : Nat × Nat)
    (member : outer ∈ pairs cs) (within : inner ∈ pairs cs) (wraps : Wraps cs outer inner) :
    isDoubled cs (pairs cs) outer = true := by
  obtain ⟨opening, closing⟩ := pairs_outside cs outer member
  obtain ⟨innerOpening, innerClosing⟩ := pairs_outside cs inner within
  obtain ⟨before, behind, blank⟩ := wraps
  obtain ⟨o, e⟩ := outer
  obtain ⟨i, j⟩ := inner
  simp only at *
  have here : ∀ k c, cs[k]? = some c → k < cs.length := fun k c at_ => (List.getElem?_eq_some_iff.mp at_).1
  -- The outer parentheses stand right at the inner ones.
  have first : i = o + 1 := by
    apply Nat.le_antisymm _ before
    apply Nat.le_of_not_lt
    intro gap
    have inside := here i _ innerOpening.1
    have solid := solid_after_opening cs squeezed o opening cs[o + 1] cs[o + 2]
      (List.getElem?_eq_getElem (by omega)) (List.getElem?_eq_getElem (by omega))
    rw [blank (o + 1) cs[o + 1] (List.getElem?_eq_getElem (by omega)) (.inl ⟨by omega, gap⟩)] at solid
    cases solid
  have last : e = j + 1 := by
    apply Nat.le_antisymm _ behind
    apply Nat.le_of_not_lt
    intro gap
    obtain ⟨k, rfl⟩ : ∃ k, e = k + 1 := ⟨e - 1, by omega⟩
    have inside := here (k + 1) _ closing.1
    have solid := solid_before_closing cs squeezed k closing cs[k] (List.getElem?_eq_getElem (by omega))
    rw [blank k cs[k] (List.getElem?_eq_getElem (by omega)) (.inr ⟨by omega, by omega⟩)] at solid
    cases solid
  subst first last
  rw [isDoubled, next_solid_here cs (o + 1) '(' innerOpening.1 (by decide),
    last_solid_here cs j ')' innerClosing.1 (by decide)]
  simpa using within

theorem no_doubled_pair (cs : List Char) (fixed : dropDoubled cs = cs) (squeezed : squeeze cs = cs)
    (outer inner : Nat × Nat) (member : outer ∈ pairs cs) (within : inner ∈ pairs cs) :
    ¬ Wraps cs outer inner := by
  intro wraps
  have doubled := doubled_pair cs squeezed outer inner member within wraps
  have dropped := drop_indices_fixed _ cs fixed outer.1 (by
    rw [List.mem_flatMap]
    exact ⟨outer, List.mem_filter.mpr ⟨member, doubled⟩, List.mem_cons_self⟩)
  rw [(pairs_outside cs outer member).1.1] at dropped
  cases dropped

end ArchiveSearch.Simplify

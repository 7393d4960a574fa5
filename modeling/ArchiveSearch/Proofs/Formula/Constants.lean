import ArchiveSearch.Proofs.Formula.Conditions

/- Constants in a condition: where the tokens of one can stand, and that a constant which decides nothing may be
   taken out together with its connective. -/
namespace ArchiveSearch.Formula

set_option autoImplicit false

open Piece (tokensAll PlainAll)
open Token (Connects)

inductive Located (b : Bool) : List Piece → List Token → List Token → Prop
  | here (left right : List Piece) (lefts : Lefts left) (rights : Rights right) :
      Located b (left ++ (constant b ++ right)) (tokensAll left) (tokensAll right)
  | inside (left pieces right : List Piece) (before behind : List Token) (lefts : Lefts left)
      (rights : Rights right) (deeper : Located b pieces before behind) :
      Located b (left ++ (.group pieces :: right)) (tokensAll left ++ .opening :: before)
        (behind ++ .closing :: tokensAll right)

theorem located_first (b : Bool) (left right : List Piece) (t : Token) (before behind : List Token)
    (connects : Connects t) (second : Condition right) (located : Located b left before behind) :
    Located b (left ++ .token t :: right) before (behind ++ t :: tokensAll right) := by
  have further : ∀ l, Rights l → Rights (l ++ .token t :: right) := by
    rintro l (rfl | ⟨t', r, rfl, connects', condition⟩)
    · exact .inr ⟨t, right, rfl, connects, second⟩
    · exact .inr ⟨t', r ++ .token t :: right, rfl, connects', .joined r right t connects condition second⟩
  cases located with
  | here l r lefts rights =>
      have all := Located.here (b := b) l (r ++ .token t :: right) lefts (further r rights)
      simpa [tokensAll, Piece.tokens] using all
  | inside l pieces r before behind lefts rights deeper =>
      have all := Located.inside l pieces (r ++ .token t :: right) before behind lefts (further r rights) deeper
      simpa [tokensAll, Piece.tokens] using all

theorem located_second (b : Bool) (left right : List Piece) (t : Token) (before behind : List Token)
    (connects : Connects t) (first : Condition left) (located : Located b right before behind) :
    Located b (left ++ .token t :: right) (tokensAll left ++ t :: before) behind := by
  have further : ∀ l, Lefts l → Lefts (left ++ .token t :: l) := by
    rintro l (rfl | ⟨l, t', rfl, condition, connects'⟩)
    · exact .inr ⟨left, t, rfl, first, connects⟩
    · exact .inr ⟨left ++ .token t :: l, t', by simp, .joined left l t connects first condition, connects'⟩
  cases located with
  | here l r lefts rights =>
      have all := Located.here (b := b) (left ++ .token t :: l) r (further l lefts) rights
      simpa [tokensAll, Piece.tokens] using all
  | inside l pieces r before behind lefts rights deeper =>
      have all := Located.inside (left ++ .token t :: l) pieces r before behind (further l lefts) rights deeper
      simpa [tokensAll, Piece.tokens] using all

theorem connective_letters (w : List Char) (connects : Connects (.word w)) : ∀ c ∈ w, c ≠ '0' ∧ c ≠ '1' := by
  obtain ⟨_, same, spelled⟩ := Token.connects_spells _ connects
  cases same
  intro c member
  rcases spelled with spelled | spelled
  · obtain ⟨d, inside, same⟩ := Text.spelled_letters _ w spelled c member
    simp only [Text.Keyword.and, List.mem_cons, List.not_mem_nil, or_false] at inside
    rcases inside with rfl | rfl | rfl <;> rcases same with rfl | rfl <;> decide
  · obtain ⟨d, inside, same⟩ := Text.spelled_letters _ w spelled c member
    simp only [Text.Keyword.or, List.mem_cons, List.not_mem_nil, or_false] at inside
    rcases inside with rfl | rfl <;> rcases same with rfl | rfl <;> decide

theorem connective_apart (u v : List Char) (t : Token) (equation : Equation u v) (connects : Connects t) :
    t ≠ .word u ∧ t ≠ .symbol ['='] ∧ t ≠ .word v := by
  refine ⟨?_, ?_, ?_⟩
  · rintro rfl
    have letters := connective_letters u connects
    rcases equation.1 with last | last
    · exact (letters '0' (List.mem_of_getLast? last)).1 rfl
    · exact (letters '1' (List.mem_of_getLast? last)).2 rfl
  · rintro rfl
    obtain ⟨_, same, _⟩ := Token.connects_spells _ connects
    cases same
  · rintro rfl
    exact (connective_letters v connects '1' (List.mem_of_head? equation.2)).2 rfl

theorem constant_located (ps : List Piece) (condition : Condition ps) (before behind : List Token)
    (u v : List Char) (equation : Equation u v)
    (split : tokensAll ps = before ++ (.word u :: .symbol ['='] :: .word v :: behind)) :
    ∃ b, tokensAll (constant b) = [.word u, .symbol ['='], .word v] ∧ Located b ps before behind := by
  induction condition generalizing before behind with
  | atom o atom => exact absurd equation (atom.apart before u v behind split)
  | constant b =>
      have lengths : (tokensAll (constant b)).length = 3 := by cases b <;> rfl
      rw [split] at lengths
      simp only [List.length_append, List.length_cons] at lengths
      obtain rfl : before = [] := List.length_eq_zero_iff.mp (by omega)
      obtain rfl : behind = [] := List.length_eq_zero_iff.mp (by omega)
      have here := Located.here (b := b) [] [] (.inl rfl) (.inl rfl)
      rw [List.nil_append, List.append_nil] at here
      exact ⟨b, split, here⟩
  | group pieces inner ih =>
      rw [Piece.tokens_all_one, Piece.tokens] at split
      cases before with
      | nil => cases split
      | cons first before =>
          obtain ⟨opening, within⟩ := List.cons.inj split
          cases opening
          rcases List.eq_nil_or_concat' behind with rfl | ⟨behind, last, rfl⟩
          · have ends := congrArg List.getLast? within
            simp at ends
          · have joined : before ++ (.word u :: .symbol ['='] :: .word v :: (behind ++ [last])) =
                before ++ (.word u :: .symbol ['='] :: .word v :: behind) ++ [last] := by simp
            rw [List.append_eq, joined] at within
            obtain ⟨level, ends⟩ := List.append_inj' within rfl
            cases ends
            obtain ⟨b, same, located⟩ := ih before behind level
            exact ⟨b, same, .inside [] pieces [] before behind (.inl rfl) (.inl rfl) located⟩
  | joined left right t connects first second ihFirst ihSecond =>
      obtain ⟨notFirst, notSign, notLast⟩ := connective_apart u v t equation connects
      rw [Piece.tokens_all_append, tokensAll, Piece.tokens, List.singleton_append] at split
      rcases List.append_eq_append_iff.mp split with ⟨before', rfl, rest⟩ | ⟨behind', first', rest⟩
      · cases before' with
        | nil => exact absurd (List.cons.inj rest).1 notFirst
        | cons t' before' =>
            obtain ⟨connective, later⟩ := List.cons.inj rest
            cases connective
            obtain ⟨b, same, located⟩ := ihSecond before' behind later
            exact ⟨b, same, located_second b left right t before' behind connects first located⟩
      · match behind', rest with
        | [], rest => exact absurd (List.cons.inj rest).1.symm notFirst
        | [_], rest => exact absurd (List.cons.inj (List.cons.inj rest).2).1.symm notSign
        | [_, _], rest =>
            exact absurd (List.cons.inj (List.cons.inj (List.cons.inj rest).2).2).1.symm notLast
        | _ :: _ :: _ :: behind', rest =>
            cases rest
            obtain ⟨b, same, located⟩ := ihFirst before behind' first'
            exact ⟨b, same, located_first b left right t before behind' connects second located⟩

def Rewritten (ps : List Piece) (ts : List Token) : Prop :=
  ∃ qs, Condition qs ∧ tokensAll qs = ts ∧ ∀ v : Valuation, value v.atoms qs = value v.atoms ps

structure Level (b : Bool) (ps : List Piece) (before behind outer past : List Token) (left right : List Piece) :
    Prop where
  starts : before = outer ++ tokensAll left
  ends : behind = tokensAll right ++ past
  opened : outer = [] ∨ outer.getLast? = some .opening
  closed : past = [] ∨ past.head? = some .closing
  lefts : Lefts left
  rights : Rights right
  replaced : ∀ q, Condition q →
    (∀ v : Valuation, value v.atoms q = value v.atoms (left ++ (constant b ++ right))) →
      Rewritten ps (outer ++ (tokensAll q ++ past))

theorem located_level (b : Bool) (ps : List Piece) (before behind : List Token)
    (located : Located b ps before behind) :
    ∃ outer past left right, Level b ps before behind outer past left right := by
  induction located with
  | here left right lefts rights =>
      refine ⟨[], [], left, right, rfl, by simp, .inl rfl, .inl rfl, lefts, rights, fun q condition same => ?_⟩
      exact ⟨q, condition, by simp, same⟩
  | inside left pieces right before behind lefts rights deeper ih =>
      obtain ⟨outer, past, l, r, level⟩ := ih
      refine ⟨tokensAll left ++ .opening :: outer, past ++ .closing :: tokensAll right, l, r, ?_, ?_, ?_, ?_,
        level.lefts, level.rights, ?_⟩
      · simp [level.starts]
      · simp [level.ends]
      · right
        rcases level.opened with rfl | last
        · simp
        · simp [List.getLast?_cons, last]
      · right
        rcases level.closed with rfl | first
        · simp
        · simp [first]
      · intro q condition same
        obtain ⟨qs, conditionQ, tokens, values⟩ := level.replaced q condition same
        refine ⟨left ++ (.group qs :: right), ?_, by simp [tokensAll, Piece.tokens, tokens], fun v => ?_⟩
        · exact lefts_condition left _ lefts (rights_condition [.group qs] right rights (.group qs conditionQ))
        · have same : value v.atoms [.group qs] = value v.atoms [.group pieces] := by
            rw [value_group, value_group, values]
          exact value_replaced v.atoms left right _ _ lefts rights (group_closed qs) (group_closed pieces) same

theorem located_before (b : Bool) (ps : List Piece) (before behind : List Token) (t : Token)
    (located : Located b ps (before ++ [t]) behind) : t = .opening ∨ Connects t := by
  obtain ⟨outer, past, left, right, level⟩ := located_level b ps _ _ located
  have last := congrArg List.getLast? level.starts
  rcases level.lefts with rfl | ⟨l, t', rfl, _, connects⟩
  · rcases level.opened with rfl | opening
    · simp [tokensAll] at last
    · simp only [List.getLast?_concat, tokensAll, List.append_nil, opening] at last
      exact .inl (Option.some.inj last)
  · simp only [Piece.tokens_all_append, tokensAll, Piece.tokens, List.append_nil, ← List.append_assoc,
      List.getLast?_concat] at last
    exact .inr (Option.some.inj last ▸ connects)

theorem located_behind (b : Bool) (ps : List Piece) (before behind : List Token) (t : Token)
    (located : Located b ps before (t :: behind)) : t = .closing ∨ Connects t := by
  obtain ⟨outer, past, left, right, level⟩ := located_level b ps _ _ located
  have first := congrArg List.head? level.ends
  rcases level.rights with rfl | ⟨t', r, rfl, connects, _⟩
  · rcases level.closed with rfl | closing
    · simp [tokensAll] at first
    · simp only [List.head?_cons, tokensAll, List.nil_append, closing] at first
      exact .inl (Option.some.inj first)
  · simp only [tokensAll, Piece.tokens, List.cons_append, List.head?_cons] at first
    exact .inr (Option.some.inj first ▸ connects)

theorem level_connective_before (b : Bool) (ps : List Piece) (before behind outer past : List Token) (t : Token)
    (left right : List Piece) (level : Level b ps (before ++ [t]) behind outer past left right)
    (connects : Connects t) :
    ∃ l, left = l ++ [Piece.token t] ∧ Condition l ∧ before = outer ++ tokensAll l := by
  have starts := level.starts
  rcases level.lefts with rfl | ⟨l, t', rfl, condition, _⟩
  · have last := congrArg List.getLast? starts
    obtain ⟨_, rfl, _⟩ := Token.connects_spells t connects
    rcases level.opened with rfl | opening
    · simp [tokensAll] at last
    · simp [tokensAll, opening] at last
  · rw [Piece.tokens_all_append, Piece.tokens_all_one, Piece.tokens, ← List.append_assoc] at starts
    obtain ⟨rfl, same⟩ := List.append_inj' starts rfl
    cases same
    exact ⟨l, rfl, condition, rfl⟩

theorem level_connective_behind (b : Bool) (ps : List Piece) (before behind outer past : List Token) (t : Token)
    (left right : List Piece) (level : Level b ps before (t :: behind) outer past left right)
    (connects : Connects t) :
    ∃ r, right = .token t :: r ∧ Condition r ∧ behind = tokensAll r ++ past := by
  have ends := level.ends
  rcases level.rights with rfl | ⟨t', r, rfl, _, condition⟩
  · have first := congrArg List.head? ends
    obtain ⟨_, rfl, _⟩ := Token.connects_spells t connects
    rcases level.closed with rfl | closing
    · simp [tokensAll] at first
    · simp [tokensAll, closing] at first
  · rw [tokensAll, Piece.tokens, List.singleton_append, List.cons_append] at ends
    obtain ⟨rfl, rfl⟩ := List.cons.inj ends
    exact ⟨r, rfl, condition, rfl⟩

theorem constant_value (v : Valuation) (b : Bool) : value v.atoms (constant b) = some b := by
  rw [value_atom v.atoms _ (constant_closed b), v.constants b]
  cases b <;> simp [constant]

theorem both_false (t : Option Bool) : both t (some false) = some false := by
  rcases t with _ | _ | _ <;> rfl

theorem constant_sums (v : Valuation) (b : Bool) (before held : Option Bool) :
    Sums v.atoms (constant b) before held before (both held (some b)) := by
  have sums := closed_sums v.atoms (constant b) (constant_closed b) before held
  rwa [constant_value] at sums

theorem true_after_deleted (ps : List Piece) (before behind : List Token) (t : Token)
    (conjoins : t.isKeyword "and" = true) (located : Located true ps (before ++ [t]) behind) :
    Rewritten ps (before ++ behind) := by
  obtain ⟨outer, past, left, right, level⟩ := located_level true ps _ _ located
  obtain ⟨l, rfl, condition, rfl⟩ := level_connective_before _ _ _ _ _ _ t _ _ level (.inl conjoins)
  have all := level.replaced (l ++ right) (rights_condition l right level.rights condition) fun v => by
    obtain ⟨done, now, sums⟩ := condition_sums v.atoms l condition (some false) (some true)
    have held := sums_joined v.atoms l (constant true) t _ _ _ _ _ _
      (fun rest => sums.beforeAnd t rest conjoins) (constant_sums v true done now)
    rw [both_true] at held
    have same := sums_rights v.atoms l _ right _ _ _ _ level.rights sums held
    rw [value_eq, value_eq, same]
    simp
  rw [level.ends]
  simpa using all

theorem true_before_deleted (ps : List Piece) (before behind : List Token) (t : Token)
    (conjoins : t.isKeyword "and" = true) (located : Located true ps before (t :: behind)) :
    Rewritten ps (before ++ behind) := by
  obtain ⟨outer, past, left, right, level⟩ := located_level true ps _ _ located
  obtain ⟨r, rfl, condition, rfl⟩ := level_connective_behind _ _ _ _ _ _ t _ _ level (.inl conjoins)
  have all := level.replaced (left ++ r) (lefts_condition left r level.lefts condition) fun v => by
    obtain ⟨done, now, behind⟩ := lefts_value v.atoms left level.lefts
    rw [behind, behind, (constant_sums v true done now).beforeAnd t r conjoins, both_true]
  rw [level.starts]
  simpa using all

theorem false_after_deleted (ps : List Piece) (before behind : List Token) (t : Token)
    (disjoins : t.isKeyword "or" = true) (located : Located false ps (before ++ [t]) behind)
    (apart : ∀ t', behind.head? = some t' → t'.isKeyword "and" = false) :
    Rewritten ps (before ++ behind) := by
  obtain ⟨outer, past, left, right, level⟩ := located_level false ps _ _ located
  obtain ⟨l, rfl, condition, rfl⟩ := level_connective_before _ _ _ _ _ _ t _ _ level (.inr disjoins)
  have all := level.replaced (l ++ right) (rights_condition l right level.rights condition) fun v => by
    obtain ⟨done, now, sums⟩ := condition_sums v.atoms l condition (some false) (some true)
    have more := sums_joined v.atoms l (constant false) t _ _ _ _ _ _
      (fun rest => sums.beforeOr t rest disjoins) (constant_sums v false (either done now) (some true))
    rw [both_false] at more
    have shape : l ++ [Piece.token t] ++ (constant false ++ right) = l ++ .token t :: constant false ++ right := by simp
    rw [shape, value_eq, value_eq]
    rcases level.rights with rfl | ⟨t', r, rfl, conjoins | disjoins', _⟩
    · rw [List.append_nil, List.append_nil, sums.last]
      exact (more.last.trans (either_false _)).symm
    · rw [apart t' (by simp [level.ends, tokensAll, Piece.tokens])] at conjoins
      cases conjoins
    · have last := more.beforeOr t' r disjoins'
      rw [either_false] at last
      rw [sums.beforeOr t' r disjoins']
      exact last.symm
  rw [level.ends]
  simpa using all

theorem false_before_deleted (ps : List Piece) (before behind : List Token) (t : Token)
    (disjoins : t.isKeyword "or" = true) (located : Located false ps before (t :: behind))
    (apart : ∀ t', before.getLast? = some t' → t'.isKeyword "and" = false) :
    Rewritten ps (before ++ behind) := by
  obtain ⟨outer, past, left, right, level⟩ := located_level false ps _ _ located
  obtain ⟨r, rfl, condition, rfl⟩ := level_connective_behind _ _ _ _ _ _ t _ _ level (.inr disjoins)
  have all := level.replaced (left ++ r) (lefts_condition left r level.lefts condition) fun v => by
    have starts : ∃ done, ∀ rest, value v.atoms (left ++ rest) = valueFrom v.atoms done (some true) rest := by
      rcases level.lefts with rfl | ⟨l, t', rfl, first, conjoins | disjoins'⟩
      · exact ⟨_, fun rest => value_eq v.atoms rest⟩
      · rw [apart t' (by simp [level.starts, tokensAll, Piece.tokens])] at conjoins
        cases conjoins
      · obtain ⟨done, now, sums⟩ := condition_sums v.atoms l first (some false) (some true)
        refine ⟨either done now, fun rest => ?_⟩
        rw [List.append_assoc, List.singleton_append, value_eq, sums.beforeOr t' rest disjoins']
    obtain ⟨done, behind⟩ := starts
    rw [behind, behind, (constant_sums v false done (some true)).beforeOr t r disjoins, both_false, either_false]
  rw [level.starts]
  simpa using all

end ArchiveSearch.Formula

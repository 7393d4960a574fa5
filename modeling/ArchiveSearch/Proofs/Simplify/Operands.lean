import ArchiveSearch.Proofs.Simplify.Absorbing
import ArchiveSearch.Proofs.Simplify.Heads
import ArchiveSearch.Proofs.Simplify.Spared

/- Conditions as texts: operands joined by connectives, with any blanks between them. Squeezing a condition squeezes its
   operands and leaves single spaces around the connectives, so that the place of an operand is one that the sweeps know. -/
namespace ArchiveSearch.Simplify

set_option autoImplicit false

open Text (isBlank)

def Spacing (b : List Char) : Prop :=
  ∀ c ∈ b, isBlank c = true

-- A text that can be put between blanks or parentheses: no literal is opened in it, and it does not begin or end with a
-- blank or a parenthesis beside which blanks are left out.
structure Chunk (x : List Char) : Prop where
  unquoted : Token.Unquoted x
  begins : ∃ c, x.head? = some c ∧ isBlank c = false ∧ c ≠ ')'
  ends : ∃ c, x.getLast? = some c ∧ isBlank c = false ∧ c ≠ '('

structure Atomic (a : List Char) : Prop where
  chunk : Chunk a
  ends : ∃ c, a.getLast? = some c ∧ Strange c
  signless : ¬ ['=', '1'] <:+: a

mutual
inductive Operand : List Char → Prop
  | atom (a : List Char) (atom : Atomic a) : Operand a
  | constant (b : Bool) : Operand (spelledConstant b)
  | group (l x r : List Char) (next : Option Connective) (around : Around l r next) (operand : Operand x) :
      Operand ('(' :: (l ++ (x ++ r) ++ [')']))
inductive Around : List Char → List Char → Option Connective → Prop
  | alone (b b' : List Char) (blank : Spacing b) (blank' : Spacing b') : Around b b' none
  | behind (l o gap gap' r : List Char) (connective : Connective) (next : Option Connective)
      (around : Around l r next) (operand : Operand o) (blanks : Blanks gap) (blanks' : Blanks gap') :
      Around (l ++ (o ++ (gap ++ (connective.name.toList ++ gap')))) r next
  | before (l o gap gap' r : List Char) (connective : Connective) (next : Option Connective)
      (around : Around l r next) (operand : Operand o) (blanks : Blanks gap) (blanks' : Blanks gap') :
      Around l (gap ++ (connective.name.toList ++ (gap' ++ (o ++ r)))) (some connective)
  | inside (l b b' r : List Char) (next : Option Connective) (around : Around l r next) (blank : Spacing b)
      (blank' : Spacing b') : Around (l ++ '(' :: b) (b' ++ ')' :: r) none
end

theorem blank_unquoted (b : List Char) (blank : Spacing b) : Token.Unquoted b := by
  intro c member
  have here := blank c member
  constructor <;> rintro rfl <;> exact absurd here (by decide)

theorem unquoted_of_all (cs : List Char) (all : (cs.all fun c => c != '\'' && c != '"') = true) :
    Token.Unquoted cs := by
  intro c member
  have here := List.all_eq_true.mp all c member
  rwa [Bool.and_eq_true, bne_iff_ne, bne_iff_ne] at here

theorem name_chunk (connective : Connective) : Chunk connective.name.toList := by
  cases connective with
  | and => exact ⟨unquoted_of_all _ (by decide), ⟨'A', rfl, by decide, by decide⟩, 'D', rfl, by decide, by decide⟩
  | or => exact ⟨unquoted_of_all _ (by decide), ⟨'O', rfl, by decide, by decide⟩, 'R', rfl, by decide, by decide⟩

theorem constant_chunk (b : Bool) : Chunk (spelledConstant b) := by
  cases b with
  | false => exact ⟨unquoted_of_all _ (by decide), ⟨'0', rfl, by decide, by decide⟩, '1', rfl, by decide, by decide⟩
  | true => exact ⟨unquoted_of_all _ (by decide), ⟨'1', rfl, by decide, by decide⟩, '1', rfl, by decide, by decide⟩

theorem chunk_some (x : List Char) (chunk : Chunk x) : x ≠ [] := by
  rintro rfl
  obtain ⟨c, first, -⟩ := chunk.begins
  cases first

theorem Chunk.gap (x b y : List Char) (first : Chunk x) (blank : Spacing b) (second : Chunk y) :
    Chunk (x ++ (b ++ y)) where
  unquoted := by
    simp only [Token.Unquoted, List.forall_mem_append]
    exact ⟨first.unquoted, blank_unquoted b blank, second.unquoted⟩
  begins := by
    rw [List.head?_append_of_ne_nil x (chunk_some x first)]
    exact first.begins
  ends := by
    have some_ := chunk_some y second
    rw [← List.append_assoc, List.getLast?_append_of_ne_nil _ some_]
    exact second.ends

theorem Chunk.wrap (b x b' : List Char) (chunk : Chunk x) (blank : Spacing b) (blank' : Spacing b') :
    Chunk ('(' :: (b ++ (x ++ (b' ++ [')'])))) where
  unquoted := by
    simp only [Token.Unquoted, List.forall_mem_cons, List.forall_mem_append]
    exact ⟨by decide, blank_unquoted b blank, chunk.unquoted, blank_unquoted b' blank', by decide, by simp⟩
  begins := ⟨'(', rfl, by decide, by decide⟩
  ends := by
    refine ⟨')', ?_, by decide, by decide⟩
    rw [← List.append_assoc, ← List.append_assoc, ← List.cons_append, List.getLast?_concat]

theorem quote_stays (c : Char) (apart : c ≠ '\'' ∧ c ≠ '"') : Query.quoteAfter none c = none := by
  simp [Query.quoteAfter, apart]

theorem squeeze_from_blanks (gap : Bool) (before : Option Char) (b v : List Char) (blank : Spacing b) :
    squeezeFrom none gap before (b ++ v) = squeezeFrom none (gap || !b.isEmpty) before v := by
  induction b generalizing gap with
  | nil => rw [List.nil_append, List.isEmpty_nil, Bool.not_true, Bool.or_false]
  | cons c b ih =>
      obtain ⟨here, later⟩ := List.forall_mem_cons.mp blank
      rw [List.cons_append, squeezeFrom, if_pos here, ih true later]
      simp

theorem squeeze_from_solid (gap : Bool) (before : Option Char) (c : Char) (v : List Char) (solid : isBlank c = false) :
    squeezeFrom none gap before (c :: v) = (if gap && spaceFits before c then [' '] else []) ++ squeeze (c :: v) := by
  have alone : squeeze (c :: v) = c :: squeezeFrom (Query.quoteAfter none c) false (some c) v := by
    simp [squeeze, squeezeFrom, solid]
  rw [alone, squeezeFrom, if_neg (by simp [solid])]
  by_cases fits : (gap && spaceFits before c) = true
  · simp [fits]
  · simp [fits]

theorem squeeze_from_chunk (gap : Bool) (before : Option Char) (y v : List Char) (chunk : Chunk y) :
    squeezeFrom none gap before (y ++ v) =
      (if gap && before.any (· != '(') then [' '] else []) ++ squeeze (y ++ v) := by
  obtain ⟨c, first, solid, open_⟩ := chunk.begins
  obtain ⟨y, rfl⟩ := List.head?_eq_some_iff.mp first
  rw [List.cons_append, squeeze_from_solid gap before c _ solid, spaceFits, bne_iff_ne.mpr open_, Bool.and_true]

theorem squeeze_chunk (x v : List Char) (c : Char) (unquoted : Token.Unquoted x) (ends : x.getLast? = some c)
    (solid : isBlank c = false) : squeeze (x ++ v) = squeeze x ++ squeezeFrom none false (some c) v := by
  obtain ⟨x, rfl⟩ := List.getLast?_eq_some_iff.mp ends
  rw [squeeze, List.append_assoc, List.singleton_append, squeeze_from_append false none x v c solid unquoted]
  rfl

theorem squeeze_gap (x b y v : List Char) (first : Chunk x) (blanks : Blanks b) (second : Chunk y) :
    squeeze (x ++ (b ++ (y ++ v))) = squeeze x ++ ' ' :: squeeze (y ++ v) := by
  obtain ⟨c, last, solid, open_⟩ := first.ends
  have some_ : b.isEmpty = false := by simpa using blanks.1
  rw [squeeze_chunk x _ c first.unquoted last solid, squeeze_from_blanks false _ b _ blanks.2,
    squeeze_from_chunk _ _ y v second, some_]
  simp [open_]

theorem squeeze_wrap (b x b' : List Char) (chunk : Chunk x) (blank : Spacing b) (blank' : Spacing b') :
    squeeze ('(' :: (b ++ (x ++ (b' ++ [')'])))) = '(' :: (squeeze x ++ [')']) := by
  obtain ⟨c, last, solid, open_⟩ := chunk.ends
  have closing : ∀ gap, squeezeFrom none gap (some c) [')'] = [')'] := by
    intro gap
    rw [squeeze_from_solid gap _ ')' [] (by decide)]
    simp [spaceFits, squeeze, squeezeFrom, isBlank]
  have inner : squeeze (x ++ (b' ++ [')'])) = squeeze x ++ [')'] := by
    rw [squeeze_chunk x _ c chunk.unquoted last solid, squeeze_from_blanks false _ b' _ blank', closing]
  have opening : squeeze ('(' :: (b ++ (x ++ (b' ++ [')'])))) =
      '(' :: squeezeFrom none false (some '(') (b ++ (x ++ (b' ++ [')']))) := rfl
  rw [opening, squeeze_from_blanks false _ b _ blank, squeeze_from_chunk _ _ x _ chunk, inner]
  simp

theorem squeeze_alone (b x b' : List Char) (chunk : Chunk x) (blank : Spacing b) (blank' : Spacing b') :
    squeeze (b ++ (x ++ b')) = squeeze x := by
  obtain ⟨c, last, solid, -⟩ := chunk.ends
  rw [squeeze, squeeze_from_blanks false _ b _ blank, squeeze_from_chunk _ _ x _ chunk,
    squeeze_chunk x _ c chunk.unquoted last solid]
  have none_ := squeeze_from_blanks false (some c) b' [] blank'
  rw [List.append_nil] at none_
  simp [none_, squeezeFrom]

theorem squeeze_head (x : List Char) (c : Char) (first : x.head? = some c) (solid : isBlank c = false) :
    (squeeze x).head? = some c := by
  obtain ⟨v, rfl⟩ := List.head?_eq_some_iff.mp first
  simp [squeeze, squeezeFrom, solid]

theorem squeeze_from_last (gap : Bool) (before : Option Char) (x : List Char) (c : Char)
    (unquoted : Token.Unquoted (x ++ [c])) (solid : isBlank c = false) :
    (squeezeFrom none gap before (x ++ [c])).getLast? = some c := by
  induction x generalizing gap before with
  | nil =>
      rw [List.nil_append, squeeze_from_solid gap before c [] solid]
      simp [squeeze, squeezeFrom, solid]
  | cons d x ih =>
      obtain ⟨here, later⟩ := List.forall_mem_cons.mp unquoted
      by_cases blank : isBlank d = true
      · rw [List.cons_append, squeezeFrom, if_pos blank, ih true before later]
      · have copied : (d :: squeezeFrom none false (some d) (x ++ [c])).getLast? = some c := by
          rw [List.getLast?_cons, ih false (some d) later]
          rfl
        rw [List.cons_append, squeezeFrom, if_neg blank, quote_stays d here]
        split
        · rw [List.getLast?_cons, copied]
          rfl
        · exact copied

theorem squeeze_last (x : List Char) (c : Char) (unquoted : Token.Unquoted x) (last : x.getLast? = some c)
    (solid : isBlank c = false) : (squeeze x).getLast? = some c := by
  obtain ⟨x, rfl⟩ := List.getLast?_eq_some_iff.mp last
  exact squeeze_from_last false none x c unquoted solid

theorem squeeze_from_sign (cs : List Char) : (squeezeFrom none true (some '=') cs).head? ≠ some '1' := by
  induction cs with
  | nil => nofun
  | cons c cs ih =>
      rw [squeezeFrom]
      by_cases blank : isBlank c = true
      · rwa [if_pos blank]
      · rw [if_neg blank]
        by_cases closing : c = ')'
        · simp [closing, spaceFits]
        · simp [closing, spaceFits]

theorem infix_behind (c : Char) (cs : List Char) (other : '=' ≠ c) (signed : ['=', '1'] <:+: c :: cs) :
    ['=', '1'] <:+: cs :=
  (List.infix_cons_iff.mp signed).resolve_left fun first => other (List.cons_prefix_cons.mp first).1

theorem squeeze_from_signed (gap : Bool) (before : Option Char) (cs : List Char) (unquoted : Token.Unquoted cs)
    (signed : ['=', '1'] <:+: squeezeFrom none gap before cs) : ['=', '1'] <:+: cs := by
  induction cs generalizing gap before with
  | nil => exact signed
  | cons c cs ih =>
      obtain ⟨here, later⟩ := List.forall_mem_cons.mp unquoted
      rw [squeezeFrom] at signed
      by_cases blank : isBlank c = true
      · rw [if_pos blank] at signed
        exact (ih true before later signed).trans (List.suffix_cons c cs).isInfix
      · rw [if_neg blank, quote_stays c here] at signed
        have copied : ['=', '1'] <:+: c :: squeezeFrom none false (some c) cs := by
          split at signed
          · exact infix_behind ' ' _ (by decide) signed
          · exact signed
        rcases List.infix_cons_iff.mp copied with first | behind
        · obtain ⟨rfl, next⟩ := List.cons_prefix_cons.mp first
          -- The two characters stand side by side, for a space would have been left between them.
          cases cs with
          | nil => exact absurd next (by simp [squeezeFrom])
          | cons d cs =>
              by_cases gap' : isBlank d = true
              · rw [squeezeFrom, if_pos gap'] at next
                obtain ⟨rest, same⟩ := next
                exact absurd (List.head?_eq_some_iff.mpr ⟨rest, same.symm⟩) (squeeze_from_sign cs)
              · rw [squeezeFrom, if_neg gap'] at next
                obtain ⟨rfl, -⟩ := List.cons_prefix_cons.mp next
                exact ⟨[], cs, rfl⟩
        · exact (ih false (some c) later behind).trans (List.suffix_cons c cs).isInfix

theorem squeeze_signless (a : List Char) (unquoted : Token.Unquoted a) (signless : ¬ ['=', '1'] <:+: a) :
    ¬ ['=', '1'] <:+: squeeze a :=
  fun signed => signless (squeeze_from_signed false none a unquoted signed)

mutual
theorem operand_chunk : ∀ x : List Char, Operand x → Chunk x
  | _, .atom _ atom => atom.chunk
  | _, .constant b => constant_chunk b
  | _, .group l x r next around operand => by
      obtain ⟨before, behind⟩ := around_unquoted l r next around
      have inner := (operand_chunk x operand).unquoted
      refine ⟨?_, ⟨'(', rfl, by decide, by decide⟩, ')', ?_, by decide, by decide⟩
      · simp only [Token.Unquoted, List.forall_mem_cons, List.forall_mem_append]
        exact ⟨by decide, ⟨before, inner, behind⟩, by decide, by simp⟩
      · rw [← List.cons_append, List.getLast?_concat]
theorem around_unquoted : ∀ (l r : List Char) (next : Option Connective), Around l r next →
    Token.Unquoted l ∧ Token.Unquoted r
  | l, r, _, .alone _ _ blank blank' => ⟨blank_unquoted l blank, blank_unquoted r blank'⟩
  | _, _, _, .behind l o gap gap' r connective next around operand blanks blanks' => by
      obtain ⟨before, behind⟩ := around_unquoted l r next around
      simp only [Token.Unquoted, List.forall_mem_append]
      exact ⟨⟨before, (operand_chunk o operand).unquoted, blank_unquoted gap blanks.2,
        (name_chunk connective).unquoted, blank_unquoted gap' blanks'.2⟩, behind⟩
  | _, _, _, .before l o gap gap' r connective next around operand blanks blanks' => by
      obtain ⟨before, behind⟩ := around_unquoted l r next around
      simp only [Token.Unquoted, List.forall_mem_append]
      exact ⟨before, blank_unquoted gap blanks.2, (name_chunk connective).unquoted, blank_unquoted gap' blanks'.2,
        (operand_chunk o operand).unquoted, behind⟩
  | _, _, _, .inside l b b' r next around blank blank' => by
      obtain ⟨before, behind⟩ := around_unquoted l r next around
      simp only [Token.Unquoted, List.forall_mem_append, List.forall_mem_cons]
      exact ⟨⟨before, by decide, blank_unquoted b blank⟩, blank_unquoted b' blank', by decide, behind⟩
end

theorem constant_squeezed (b : Bool) : squeeze (spelledConstant b) = spelledConstant b := by
  cases b <;> rfl

theorem closing_strange : Strange ')' :=
  strange_of_all ')' (by decide) (by decide)

theorem signless_passed (before : Option Char) (cs : List Char) (signless : ¬ ['=', '1'] <:+: cs) :
    andTrue ⟨before, cs⟩ = none := by
  cases found : andTrue ⟨before, cs⟩ with
  | none => rfl
  | some verdict =>
      obtain ⟨x, rest, split, -, operand⟩ := and_true_found _ _ found
      have signed := excess_signed before x rest.head? ⟨.and, .oneIsOne, .inl rfl, operand⟩
      exact absurd (signed.trans ⟨[], rest, split.symm⟩) signless

theorem atom_conjunct (a : List Char) (atom : Atomic a) : Conjunct (squeeze a) := by
  obtain ⟨c, last, strange⟩ := atom.ends
  obtain ⟨d, first, solid, -⟩ := atom.chunk.begins
  have unquoted := atom.chunk.unquoted
  have ends := squeeze_last a c unquoted last strange.1
  have head := squeeze_head a d first solid
  have signless := squeeze_signless a unquoted atom.signless
  have unlike : ∀ rest, squeeze a ≠ '1' :: '=' :: '1' :: rest := by
    intro rest same
    exact signless ⟨['1'], rest, same.symm⟩
  -- Behind a blank, too, there is no constant.
  have alone : ∀ before, andTrue ⟨before, ' ' :: squeeze a⟩ = none := fun before =>
    signless_passed before _ fun signed =>
      signless (infix_behind ' ' _ (by decide) signed)
  refine .regular (strange_regular _ c ends strange (fun w follows => ⟨?_, fun before => ?_⟩) unlike)
  · obtain ⟨x, same⟩ := List.head?_eq_some_iff.mp head
    simp [same, Solid, solid]
  · have last' : (' ' :: squeeze a).getLast? = some c := by
      rw [List.getLast?_cons, ends]
      rfl
    have apart := and_true_apart _ w c last' strange follows _ (List.cons_ne_nil ' ' _) (List.suffix_refl _) before
    exact apart.trans (alone before)

theorem group_conjunct (inner : List Char) (unquoted : Token.Unquoted ('(' :: (inner ++ [')']))) :
    Conjunct (squeeze ('(' :: (inner ++ [')']))) := by
  have ends := squeeze_last _ ')' unquoted (by rw [← List.cons_append, List.getLast?_concat]) (by decide)
  obtain ⟨x, same⟩ := List.head?_eq_some_iff.mp (squeeze_head ('(' :: (inner ++ [')'])) '(' rfl (by decide))
  rw [same] at ends ⊢
  have begins : ∀ w, Begins ('(' :: x ++ w) := fun w => begins_other '(' _ (by decide) (by decide)
  refine .regular (strange_regular _ ')' ends closing_strange (fun w _ => begins w) ?_)
  intro rest same
  exact absurd (List.cons.inj same).1 (by decide)

theorem operand_conjunct (x : List Char) (operand : Operand x) : Conjunct (squeeze x) := by
  cases operand with
  | atom _ atom => exact atom_conjunct x atom
  | constant b =>
      rw [constant_squeezed]
      cases b with
      | false => exact .regular false_regular
      | true => exact .true rfl
  | group l x r next around inner =>
      exact group_conjunct (l ++ (x ++ r)) (operand_chunk _ (.group l x r next around inner)).unquoted

theorem squeeze_joined (x gap gap' y v : List Char) (connective : Connective) (first : Chunk x) (blanks : Blanks gap)
    (blanks' : Blanks gap') (second : Chunk y) :
    squeeze (x ++ (gap ++ (connective.name.toList ++ (gap' ++ (y ++ v))))) =
      squeeze x ++ (joint connective ++ squeeze (y ++ v)) := by
  have name := name_chunk connective
  have squeezed : squeeze connective.name.toList = connective.name.toList := by
    cases connective <;> rfl
  rw [squeeze_gap x gap _ _ first blanks name, squeeze_gap _ gap' y v name blanks' second, squeezed, joint]
  simp

structure Fitted (l r : List Char) (next : Option Connective) (front back : List Char) : Prop where
  left : Left front
  follows : Follows back
  disjoined : next ≠ some .and → Disjoined back
  squeezed : ∀ y, Chunk y → squeeze (l ++ (y ++ r)) = front ++ (squeeze y ++ back)

theorem around_fitted : ∀ (l r : List Char) (next : Option Connective), Around l r next →
    ∃ front back, Fitted l r next front back
  | l, r, _, .alone _ _ blank blank' =>
      ⟨[], [], .start, nofun, fun _ => .done, fun y chunk => by
        rw [squeeze_alone l y r chunk blank blank', List.append_nil, List.nil_append]⟩
  | _, _, _, .behind l o gap gap' r connective next around operand blanks blanks' => by
      obtain ⟨front, back, fitted⟩ := around_fitted l r next around
      have first := operand_chunk o operand
      refine ⟨front ++ (squeeze o ++ joint connective), back, ?_, fitted.follows, fitted.disjoined, fun y chunk => ?_⟩
      · exact Left.behind front _ connective fitted.left (operand_conjunct o operand)
      · have both : Chunk (o ++ (gap ++ (connective.name.toList ++ (gap' ++ y)))) :=
          first.gap o gap _ blanks.2 ((name_chunk connective).gap _ gap' y blanks'.2 chunk)
        have made := fitted.squeezed _ both
        have joined := squeeze_joined o gap gap' y [] connective first blanks blanks' chunk
        rw [List.append_nil] at joined
        rw [joined] at made
        simpa only [List.append_assoc] using made
  | _, _, _, .before l o gap gap' r connective next around operand blanks blanks' => by
      obtain ⟨front, back, fitted⟩ := around_fitted l r next around
      have second := operand_chunk o operand
      have follows := joint_follows connective (squeeze o ++ back)
      refine ⟨front, joint connective ++ (squeeze o ++ back), fitted.left, follows, ?_, fun y chunk => ?_⟩
      · cases connective with
        | and => exact fun other => absurd rfl other
        | or => exact fun _ => .disjunct _
      · have both : Chunk (y ++ (gap ++ (connective.name.toList ++ (gap' ++ o)))) :=
          chunk.gap y gap _ blanks.2 ((name_chunk connective).gap _ gap' o blanks'.2 second)
        have made := fitted.squeezed _ both
        have joined := squeeze_joined y gap gap' o [] connective chunk blanks blanks' second
        rw [List.append_nil] at joined
        rw [joined] at made
        simpa only [List.append_assoc] using made
  | _, _, _, .inside l b b' r next around blank blank' => by
      obtain ⟨front, back, fitted⟩ := around_fitted l r next around
      refine ⟨front ++ ['('], ')' :: back, .opening front, ?_, fun _ => .closing back, fun y chunk => ?_⟩
      · exact disjoined_follows _ (.closing back)
      · have made := fitted.squeezed _ (chunk.wrap b y b' blank blank')
        rw [squeeze_wrap b y b' chunk blank blank'] at made
        simpa using made

end ArchiveSearch.Simplify

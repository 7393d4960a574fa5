import ArchiveSearch.Proofs.Simplify.Doubled

/- Layouts: a text without quotes whose parentheses match, as a tree. Its pairs are the groups of the tree, and
   dropping doubled parentheses takes away the parentheses of groups that hold just one other group and blanks. -/
namespace ArchiveSearch.Simplify

set_option autoImplicit false

open Text (isBlank isAsciiBlank)

def Ordinary (c : Char) : Prop :=
  (c ≠ '(' ∧ c ≠ ')') ∧ c ≠ '\'' ∧ c ≠ '"'

inductive Layout where
  | nil
  | char (c : Char) (ordinary : Ordinary c) (rest : Layout)
  | group (inner rest : Layout)

namespace Layout

def text : Layout → List Char
  | nil => []
  | char c _ rest => c :: rest.text
  | group inner rest => '(' :: (inner.text ++ ')' :: rest.text)

def pairsAt (i : Nat) : Layout → List (Nat × Nat)
  | nil => []
  | char _ _ rest => rest.pairsAt (i + 1)
  | group inner rest =>
      inner.pairsAt (i + 1) ++ (i, i + 1 + inner.text.length) :: rest.pairsAt (i + 1 + inner.text.length + 1)

theorem pairs_from_text (layout : Layout) (i : Nat) (opens : List Nat) (rest : List Char) :
    pairsFrom none i opens (layout.text ++ rest) =
      layout.pairsAt i ++ pairsFrom none (i + layout.text.length) opens rest := by
  induction layout generalizing i opens rest with
  | nil => rfl
  | char c ordinary others ih =>
      have unopened : Query.quoteAfter none c = none := by simp [Query.quoteAfter, ordinary.2]
      have passes : pairsFrom none i opens (c :: (others.text ++ rest)) =
          pairsFrom none (i + 1) opens (others.text ++ rest) := by
        simp [pairsFrom, ordinary.1, unopened]
      rw [text, List.cons_append, passes, ih, pairsAt, List.length_cons, Nat.add_right_comm, Nat.add_assoc i]
  | group inner others ihInner ihOthers =>
      have closes : ∀ j, pairsFrom none j (i :: opens) (')' :: (others.text ++ rest)) =
          (i, j) :: pairsFrom none (j + 1) opens (others.text ++ rest) := fun j => rfl
      have opens_ : ∀ cs, pairsFrom none i opens ('(' :: cs) = pairsFrom none (i + 1) (i :: opens) cs := fun cs => rfl
      rw [text, List.cons_append, opens_, List.append_assoc, ihInner, List.cons_append, closes, ihOthers, pairsAt]
      simp [Nat.add_assoc, Nat.add_comm, Nat.add_left_comm]

theorem pairs_text (layout : Layout) : pairs layout.text = layout.pairsAt 0 := by
  have all := pairs_from_text layout 0 [] []
  rwa [List.append_nil, pairsFrom, List.append_nil] at all

theorem pairs_at_range (layout : Layout) (i : Nat) (pair : Nat × Nat) (member : pair ∈ layout.pairsAt i) :
    i ≤ pair.1 ∧ pair.1 < pair.2 ∧ pair.2 < i + layout.text.length := by
  induction layout generalizing i with
  | nil => cases member
  | char c _ rest ih =>
      have range := ih (i + 1) member
      rw [text, List.length_cons]
      omega
  | group inner rest ihInner ihRest =>
      simp only [text, List.length_cons, List.length_append]
      rcases List.mem_append.mp member with within | behind
      · have range := ihInner (i + 1) within
        omega
      · rcases List.mem_cons.mp behind with rfl | later
        · simp only
          omega
        · have range := ihRest _ later
          omega

theorem pairs_at_apart (layout : Layout) (i : Nat) (p q : Nat × Nat) (memberP : p ∈ layout.pairsAt i)
    (memberQ : q ∈ layout.pairsAt i) (shared : p.1 = q.1 ∨ p.2 = q.2) : p = q := by
  induction layout generalizing i with
  | nil => cases memberP
  | char c _ rest ih => exact ih (i + 1) memberP memberQ
  | group inner rest ihInner ihRest =>
      have within : ∀ r ∈ inner.pairsAt (i + 1), i < r.1 ∧ r.1 < r.2 ∧ r.2 < i + 1 + inner.text.length := by
        intro r member
        have range := pairs_at_range inner (i + 1) r member
        omega
      have behind : ∀ r ∈ rest.pairsAt (i + 1 + inner.text.length + 1),
          i + 1 + inner.text.length < r.1 ∧ r.1 < r.2 := by
        intro r member
        have range := pairs_at_range rest _ r member
        omega
      rw [pairsAt, List.mem_append, List.mem_cons] at memberP memberQ
      rcases memberP with inP | rfl | laterP <;> rcases memberQ with inQ | rfl | laterQ
      · exact ihInner (i + 1) inP inQ
      · have range := within p inP
        simp only at shared
        omega
      · have range := within p inP
        have other := behind q laterQ
        omega
      · have range := within q inQ
        simp only at shared
        omega
      · rfl
      · have range := behind q laterQ
        simp only at shared
        omega
      · have range := behind p laterP
        have other := within q inQ
        omega
      · have range := behind p laterP
        simp only at shared
        omega
      · exact ihRest _ laterP laterQ

end Layout

inductive Blanked : Layout → Layout → Prop
  | here (q rest : Layout) (blank : ∀ c ∈ rest.text, isBlank c = true) : Blanked (.group q rest) q
  | skip (c : Char) (ordinary : Ordinary c) (rest q : Layout) (blank : isBlank c = true) (later : Blanked rest q) :
      Blanked (.char c ordinary rest) q

inductive Peeled : Layout → List Char → Prop
  | nil : Peeled .nil []
  | char (c : Char) (ordinary : Ordinary c) (rest : Layout) (t : List Char) (later : Peeled rest t) :
      Peeled (.char c ordinary rest) (c :: t)
  | kept (inner rest : Layout) (t t' : List Char) (within : Peeled inner t) (later : Peeled rest t') :
      Peeled (.group inner rest) ('(' :: (t ++ ')' :: t'))
  | dropped (inner q rest : Layout) (t t' : List Char) (blanked : Blanked inner q) (within : Peeled inner t)
      (later : Peeled rest t') : Peeled (.group inner rest) (t ++ t')

theorem ascii_blank (c : Char) (blank : isAsciiBlank c = true) : isBlank c = true := by
  simp only [isAsciiBlank, Bool.or_eq_true, beq_iff_eq] at blank
  rcases blank with (((rfl | rfl) | rfl) | rfl) | rfl <;> decide

theorem next_solid_blank (u : List Char) (c : Char) (rest : List Char) (blank : isAsciiBlank c = true) :
    nextSolid (u ++ c :: rest) u.length = nextSolid (u ++ c :: rest) (u ++ [c]).length := by
  have behind : (u ++ c :: rest).drop (u ++ [c]).length = rest := by
    have split : u ++ c :: rest = (u ++ [c]) ++ rest := by simp
    rw [split, List.drop_left]
  rw [nextSolid, nextSolid, behind, List.drop_left, List.findIdx?_cons, if_neg (by simp [blank]), Option.map_map]
  congr 1
  funext n
  simp only [Function.comp_apply, List.length_append, List.length_cons, List.length_nil]
  omega

theorem last_solid_behind (cs : List Char) (e last : Nat) (inside : e ≤ cs.length) (found : lastSolid cs e = some last)
    (k : Nat) (c : Char) (here : cs[k]? = some c) (behind : last < k) (before : k < e) : isAsciiBlank c = true := by
  obtain ⟨n, index, rfl⟩ := Option.map_eq_some_iff.mp found
  obtain ⟨below, _, blank⟩ := List.findIdx?_eq_some_iff_getElem.mp index
  obtain ⟨belowK, rfl⟩ := List.getElem?_eq_some_iff.mp here
  rw [List.length_reverse, List.length_take] at below
  have earlier := blank (e - 1 - k) (by omega)
  simp only [List.getElem_reverse, List.getElem_take, List.length_take] at earlier
  have same : min e cs.length - 1 - (e - 1 - k) = k := by omega
  simp only [same] at earlier
  simpa using earlier

theorem char_at (u : List Char) (c : Char) (rest : List Char) : (u ++ c :: rest)[u.length]? = some c := by
  simp

theorem doubled_blanked (cs u v : List Char) (inner : Layout) (first last : Nat)
    (apart : ∀ p ∈ pairs cs, ∀ q ∈ pairs cs, p.1 = q.1 ∨ p.2 = q.2 → p = q)
    (split : cs = u ++ (inner.text ++ ')' :: v)) (within : ∀ p ∈ inner.pairsAt u.length, p ∈ pairs cs)
    (next : nextSolid cs u.length = some first)
    (lastOne : lastSolid cs (u.length + inner.text.length) = some last) (member : (first, last) ∈ pairs cs) :
    ∃ q, Blanked inner q := by
  have opening := (pairs_outside cs _ member).1.1
  have here : ∀ c rest, cs = u ++ c :: rest → isAsciiBlank c = false → c = '(' ∧ first = u.length := by
    intro c rest same solid
    have at_ : cs[u.length]? = some c := by rw [same, char_at]
    rw [next_solid_here cs u.length c at_ solid, Option.some.injEq] at next
    rw [← next, at_] at opening
    exact ⟨Option.some.inj opening, next.symm⟩
  induction inner generalizing u with
  | nil =>
      have closing := (here ')' v split (by decide)).1
      exact absurd closing (by decide)
  | char c ordinary rest ih =>
      by_cases blank : isAsciiBlank c = true
      · have behind : u.length + (Layout.char c ordinary rest).text.length = (u ++ [c]).length + rest.text.length := by
          simp [Layout.text]
          omega
        have index : (u ++ [c]).length = u.length + 1 := by simp
        have next' : nextSolid cs (u ++ [c]).length = some first := by
          rw [← next, split]
          exact (next_solid_blank u c _ blank).symm
        rw [behind] at lastOne
        have split' : cs = (u ++ [c]) ++ (rest.text ++ ')' :: v) := by simp [split, Layout.text]
        have here' : ∀ d past, cs = (u ++ [c]) ++ d :: past → isAsciiBlank d = false →
            d = '(' ∧ first = (u ++ [c]).length := by
          intro d past same solid
          have at_ : cs[(u ++ [c]).length]? = some d := by rw [same, char_at]
          rw [next_solid_here cs _ d at_ solid, Option.some.injEq] at next'
          rw [← next', at_] at opening
          exact ⟨Option.some.inj opening, next'.symm⟩
        obtain ⟨q, blanked⟩ := ih (u ++ [c]) split' (by rwa [index]) next' lastOne here'
        exact ⟨q, .skip c ordinary rest q (ascii_blank c blank) blanked⟩
      · have same := (here c (rest.text ++ ')' :: v) split (by simpa using blank)).1
        exact absurd same ordinary.1.1
  | group q rest ihInner ihRest =>
      have start := (here '(' _ split (by decide)).2
      have group := within (u.length, u.length + 1 + q.text.length) (by simp [Layout.pairsAt])
      have same := apart _ member _ group (.inl start)
      have ends : last = u.length + 1 + q.text.length := congrArg Prod.snd same
      refine ⟨q, .here q rest fun c inRest => ?_⟩
      obtain ⟨k, below, rfl⟩ := List.getElem_of_mem inRest
      have length : (Layout.group q rest).text.length = q.text.length + rest.text.length + 2 := by
        simp [Layout.text]
        omega
      have at_ : cs[u.length + 1 + q.text.length + 1 + k]? = some rest.text[k] := by
        have behind : cs = (u ++ '(' :: (q.text ++ [')'])) ++ (rest.text ++ ')' :: v) := by
          simp [split, Layout.text]
        have past : u.length + 1 + q.text.length + 1 = (u ++ '(' :: (q.text ++ [')'])).length := by
          simp
          omega
        rw [behind, past, List.getElem?_append_right (Nat.le_add_right _ _), Nat.add_sub_cancel_left,
          List.getElem?_append_left below, List.getElem?_eq_getElem below]
      have inside : u.length + (Layout.group q rest).text.length ≤ cs.length := by
        rw [split]
        simp
      exact ascii_blank _ (last_solid_behind cs _ last inside lastOne _ _ at_ (by omega) (by omega))

def outerAt (cs : List Char) : List Nat :=
  ((pairs cs).filter (isDoubled cs (pairs cs))).flatMap fun pair => [pair.1, pair.2]

def dropFrom (indices : List Nat) (i : Nat) (cs : List Char) : List Char :=
  ((cs.zipIdx i).filter fun c => !indices.contains c.2).map (·.1)

theorem drop_doubled_from (cs : List Char) : dropDoubled cs = dropFrom (outerAt cs) 0 cs :=
  rfl

theorem drop_from_cons (indices : List Nat) (i : Nat) (c : Char) (cs : List Char) :
    dropFrom indices i (c :: cs) =
      if i ∈ indices then dropFrom indices (i + 1) cs else c :: dropFrom indices (i + 1) cs := by
  by_cases member : i ∈ indices <;> simp [dropFrom, List.zipIdx_cons, member]

theorem drop_from_append (indices : List Nat) (i : Nat) (a b : List Char) :
    dropFrom indices i (a ++ b) = dropFrom indices i a ++ dropFrom indices (i + a.length) b := by
  simp [dropFrom, List.zipIdx_append]

theorem outer_at_iff (cs : List Char) (k : Nat) :
    k ∈ outerAt cs ↔ ∃ pair ∈ pairs cs, isDoubled cs (pairs cs) pair = true ∧ (k = pair.1 ∨ k = pair.2) := by
  simp [outerAt, List.mem_flatMap, and_assoc]

theorem outer_at_pair (cs : List Char) (pair : Nat × Nat)
    (apart : ∀ p ∈ pairs cs, ∀ q ∈ pairs cs, p.1 = q.1 ∨ p.2 = q.2 → p = q) (member : pair ∈ pairs cs) :
    (pair.1 ∈ outerAt cs ↔ isDoubled cs (pairs cs) pair = true) ∧
      (pair.2 ∈ outerAt cs ↔ isDoubled cs (pairs cs) pair = true) := by
  have ends := pairs_outside cs pair member
  have own : ∀ other ∈ pairs cs, pair.1 ≠ other.2 ∧ pair.2 ≠ other.1 := by
    intro other memberOther
    have others := pairs_outside cs other memberOther
    constructor
    · intro same
      have both := ends.1.1
      rw [same, others.2.1] at both
      cases both
    · intro same
      have both := ends.2.1
      rw [same, others.1.1] at both
      cases both
  constructor
  · rw [outer_at_iff]
    constructor
    · rintro ⟨other, memberOther, doubled, same | same⟩
      · rwa [apart pair member other memberOther (.inl same)]
      · exact absurd same (own other memberOther).1
    · exact fun doubled => ⟨pair, member, doubled, .inl rfl⟩
  · rw [outer_at_iff]
    constructor
    · rintro ⟨other, memberOther, doubled, same | same⟩
      · exact absurd same (own other memberOther).2
      · rwa [apart pair member other memberOther (.inr same)]
    · exact fun doubled => ⟨pair, member, doubled, .inr rfl⟩

theorem drop_peeled (cs u v : List Char) (layout : Layout)
    (apart : ∀ p ∈ pairs cs, ∀ q ∈ pairs cs, p.1 = q.1 ∨ p.2 = q.2 → p = q)
    (split : cs = u ++ (layout.text ++ v)) (within : ∀ p ∈ layout.pairsAt u.length, p ∈ pairs cs) :
    Peeled layout (dropFrom (outerAt cs) u.length layout.text) := by
  induction layout generalizing u v with
  | nil => exact .nil
  | char c ordinary rest ih =>
      have stays : u.length ∉ outerAt cs := by
        rw [outer_at_iff]
        rintro ⟨pair, member, _, same⟩
        have at_ : cs[u.length]? = some c := by
          rw [split, Layout.text, List.cons_append, char_at]
        have ends := pairs_outside cs pair member
        rcases same with same | same
        · rw [same, ends.1.1] at at_
          exact ordinary.1.1 (Option.some.inj at_).symm
        · rw [same, ends.2.1] at at_
          exact ordinary.1.2 (Option.some.inj at_).symm
      have index : (u ++ [c]).length = u.length + 1 := by simp
      have later := ih (u ++ [c]) v (by simp [split, Layout.text]) (by rwa [index])
      rw [Layout.text, drop_from_cons, if_neg stays]
      rw [index] at later
      exact .char c ordinary rest _ later
  | group inner rest ihInner ihRest =>
      have member : (u.length, u.length + 1 + inner.text.length) ∈ pairs cs := within _ (by simp [Layout.pairsAt])
      obtain ⟨opening, closing⟩ := outer_at_pair cs _ apart member
      have index : (u ++ ['(']).length = u.length + 1 := by simp
      have indexRest : (u ++ '(' :: (inner.text ++ [')'])).length = u.length + 1 + inner.text.length + 1 := by
        simp
        omega
      have splitInner : cs = (u ++ ['(']) ++ (inner.text ++ ')' :: (rest.text ++ v)) := by
        simp [split, Layout.text]
      have withinInner : ∀ p ∈ inner.pairsAt (u ++ ['(']).length, p ∈ pairs cs := by
        rw [index]
        exact fun p inside => within p (List.mem_append_left _ inside)
      have first := ihInner (u ++ ['(']) _ splitInner withinInner
      have second := ihRest (u ++ '(' :: (inner.text ++ [')'])) v (by simp [split, Layout.text]) (by
        rw [indexRest]
        exact fun p inside => within p (List.mem_append_right _ (List.mem_cons_of_mem _ inside)))
      rw [index] at first
      rw [indexRest] at second
      rw [Layout.text, drop_from_cons, drop_from_append, drop_from_cons]
      by_cases doubled : isDoubled cs (pairs cs) (u.length, u.length + 1 + inner.text.length) = true
      · rw [if_pos (opening.mpr doubled), if_pos (closing.mpr doubled)]
        have shape := doubled
        rw [isDoubled] at shape
        split at shape
        · rename_i firstSolid lastSolid_ next last
          rw [← index] at next last
          obtain ⟨q, blanked⟩ := doubled_blanked cs _ _ inner firstSolid lastSolid_ apart splitInner withinInner next
            last (by simpa using shape)
          exact .dropped inner q rest _ _ blanked first second
        · cases shape
      · rw [if_neg (mt opening.mp doubled), if_neg (mt closing.mp doubled)]
        exact .kept inner rest _ _ first second

theorem drop_doubled_peeled (layout : Layout) : Peeled layout (dropDoubled layout.text) := by
  rw [drop_doubled_from]
  refine drop_peeled layout.text [] [] layout ?_ (by simp) ?_
  · rw [Layout.pairs_text]
    exact fun p memberP q memberQ => layout.pairs_at_apart 0 p q memberP memberQ
  · rw [Layout.pairs_text]
    exact fun p member => member

end ArchiveSearch.Simplify

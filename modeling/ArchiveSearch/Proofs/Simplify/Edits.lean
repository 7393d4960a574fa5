import Mathlib.Logic.Relation
import ArchiveSearch.Proofs.Search.Transparency
import ArchiveSearch.Proofs.Simplify.Compiled
import ArchiveSearch.Proofs.Simplify.Operands

/- Edits of a condition that mean nothing: other blanks, true operands of an `AND` and false ones of an `OR`. Whatever is
   edited, and in whatever order, the simplest text stays the same, and so does the statement that is prepared for it. -/
namespace ArchiveSearch

set_option autoImplicit false

namespace Simplify

def IsCondition (t : List Char) : Prop :=
  ∃ l x r next, Around l r next ∧ Operand x ∧ t = l ++ (x ++ r)

inductive Edit : List Char → List Char → Prop
  | respace (u b b' v : List Char) (blanks : Blanks b) (blanks' : Blanks b') : Edit (u ++ (b ++ v)) (u ++ (b' ++ v))
  | lead (b t : List Char) (blanks : Blanks b) : Edit t (b ++ t)
  | trail (b t : List Char) (blanks : Blanks b) : Edit t (t ++ b)
  | open_ (u b v : List Char) (blanks : Blanks b) : Edit (u ++ '(' :: v) (u ++ '(' :: (b ++ v))
  | close (u b v : List Char) (blanks : Blanks b) : Edit (u ++ ')' :: v) (u ++ (b ++ ')' :: v))
  | trueAfter (l x r : List Char) (next : Option Connective) (around : Around l r next) (operand : Operand x) :
      Edit (l ++ (x ++ r)) (l ++ (x ++ (" AND 1=1".toList ++ r)))
  | trueBefore (l x r : List Char) (next : Option Connective) (around : Around l r next) (operand : Operand x) :
      Edit (l ++ (x ++ r)) (l ++ ("1=1 AND ".toList ++ (x ++ r)))
  -- Only a whole disjunct ends where no `AND` comes next.
  | falseAfter (l x r : List Char) (next : Option Connective) (around : Around l r next) (operand : Operand x)
      (whole : next ≠ some .and) : Edit (l ++ (x ++ r)) (l ++ (x ++ (" OR 0=1".toList ++ r)))

theorem edit_unquoted (t t' : List Char) (edit : Edit t t') (unquoted : Token.Unquoted t) : Token.Unquoted t' := by
  cases edit <;> simp only [Token.Unquoted, List.forall_mem_append, List.forall_mem_cons] at unquoted ⊢
  case respace u b b' v blanks blanks' => exact ⟨unquoted.1, blank_unquoted b' blanks'.2, unquoted.2.2⟩
  case lead b blanks => exact ⟨blank_unquoted b blanks.2, unquoted⟩
  case trail b blanks => exact ⟨unquoted, blank_unquoted b blanks.2⟩
  case open_ u b v blanks => exact ⟨unquoted.1, unquoted.2.1, blank_unquoted b blanks.2, unquoted.2.2⟩
  case close u b v blanks => exact ⟨unquoted.1, blank_unquoted b blanks.2, unquoted.2⟩
  case trueAfter l x r next around operand =>
    exact ⟨unquoted.1, unquoted.2.1, unquoted_of_all _ (by decide), unquoted.2.2⟩
  case trueBefore l x r next around operand => exact ⟨unquoted.1, unquoted_of_all _ (by decide), unquoted.2⟩
  case falseAfter l x r next around operand whole =>
    exact ⟨unquoted.1, unquoted.2.1, unquoted_of_all _ (by decide), unquoted.2.2⟩

theorem squeeze_same_behind (u v v' : List Char) (unquoted : Token.Unquoted u)
    (same : ∀ gap before, squeezeFrom none gap before v = squeezeFrom none gap before v') (gap : Bool)
    (before : Option Char) : squeezeFrom none gap before (u ++ v) = squeezeFrom none gap before (u ++ v') := by
  induction u generalizing gap before with
  | nil => exact same gap before
  | cons c u ih =>
      obtain ⟨here, later⟩ := List.forall_mem_cons.mp unquoted
      rw [List.cons_append, List.cons_append, squeezeFrom, squeezeFrom, quote_stays c here, ih later true before,
        ih later false (some c)]

theorem squeeze_from_tight (gap : Bool) (before : Option Char) (v : List Char) (tight : before.any (· != '(') = false) :
    squeezeFrom none gap before v = squeezeFrom none false before v := by
  cases v with
  | nil => rfl
  | cons c v =>
      have nothing : spaceFits before c = false := by rw [spaceFits, tight, Bool.false_and]
      simp [squeezeFrom, nothing]

theorem squeeze_lead (b t : List Char) (blanks : Blanks b) : squeeze (b ++ t) = squeeze t := by
  rw [squeeze, squeeze_from_blanks false none b t blanks.2, squeeze_from_tight _ none t rfl]
  rfl

theorem squeeze_respace (u b b' v : List Char) (unquoted : Token.Unquoted u) (blanks : Blanks b) (blanks' : Blanks b') :
    squeeze (u ++ (b' ++ v)) = squeeze (u ++ (b ++ v)) := by
  refine squeeze_same_behind u _ _ unquoted (fun gap before => ?_) false none
  have some_ : b.isEmpty = false := by simpa using blanks.1
  have some' : b'.isEmpty = false := by simpa using blanks'.1
  rw [squeeze_from_blanks gap before b' v blanks'.2, squeeze_from_blanks gap before b v blanks.2, some_, some']

theorem squeeze_trail (b t : List Char) (unquoted : Token.Unquoted t) (blanks : Blanks b) :
    squeeze (t ++ b) = squeeze t := by
  have same := squeeze_same_behind t b [] unquoted (fun gap before => ?_) false none
  · rwa [List.append_nil] at same
  · have passed := squeeze_from_blanks gap before b [] blanks.2
    rw [List.append_nil] at passed
    rw [passed]
    rfl

theorem squeeze_open (u b v : List Char) (unquoted : Token.Unquoted u) (blanks : Blanks b) :
    squeeze (u ++ '(' :: (b ++ v)) = squeeze (u ++ '(' :: v) := by
  refine squeeze_same_behind u _ _ unquoted (fun gap before => ?_) false none
  have inner : squeezeFrom none false (some '(') (b ++ v) = squeezeFrom none false (some '(') v := by
    rw [squeeze_from_blanks false _ b v blanks.2, squeeze_from_tight _ _ v rfl]
  have copied : squeeze ('(' :: (b ++ v)) = squeeze ('(' :: v) := congrArg ('(' :: ·) inner
  rw [squeeze_from_solid gap before '(' _ (by decide), squeeze_from_solid gap before '(' v (by decide), copied]

theorem squeeze_close (u b v : List Char) (unquoted : Token.Unquoted u) (blanks : Blanks b) :
    squeeze (u ++ (b ++ ')' :: v)) = squeeze (u ++ ')' :: v) := by
  refine squeeze_same_behind u _ _ unquoted (fun gap before => ?_) false none
  have nothing : spaceFits before ')' = false := by simp [spaceFits]
  rw [squeeze_from_blanks gap before b _ blanks.2, squeeze_from_solid _ before ')' v (by decide),
    squeeze_from_solid gap before ')' v (by decide), nothing, Bool.and_false, Bool.and_false]

theorem rounds_of_round (cs : Squeezed) : rounds cs = rounds ⟨round cs.1, squeeze_idempotent _⟩ := by
  rw [rounds]
  by_cases same : round cs.1 = cs.1
  · have whole : (⟨round cs.1, squeeze_idempotent _⟩ : Squeezed) = cs := Subtype.ext same
    rw [whole]
    simp only [if_pos same]
    rw [rounds]
    simp only [if_pos same]
  · simp only [if_neg same]

theorem simplify_of_squeezed (t t' : List Char) (same : squeeze t' = squeeze t) :
    simplify (String.ofList t') = simplify (String.ofList t) := by
  simp only [simplify, String.toList_ofList, same]

theorem simplify_of_swept (t t' : List Char) (same : dropNeutral (squeeze t') = dropNeutral (squeeze t)) :
    simplify (String.ofList t') = simplify (String.ofList t) := by
  have once : round (squeeze t') = round (squeeze t) := by rw [round, round, same]
  simp only [simplify, String.toList_ofList]
  rw [rounds_of_round ⟨squeeze t', _⟩, rounds_of_round ⟨squeeze t, _⟩]
  simp only [once]

theorem Chunk.joint (x y : List Char) (connective : Connective) (first : Chunk x) (second : Chunk y) :
    Chunk (x ++ (joint connective ++ y)) := by
  have both := first.gap x [' '] _ space_blanks.2 ((name_chunk connective).gap _ [' '] y space_blanks.2 second)
  simpa [Simplify.joint] using both

theorem squeeze_joint (x y : List Char) (connective : Connective) (first : Chunk x) (second : Chunk y) :
    squeeze (x ++ (joint connective ++ y)) = squeeze x ++ (joint connective ++ squeeze y) := by
  have both := squeeze_joined x [' '] [' '] y [] connective first space_blanks space_blanks second
  rw [List.append_nil] at both
  rw [← both]
  simp [joint]

section Operand

variable (l x r : List Char) (next : Option Connective) (around : Around l r next) (operand : Operand x)

include around operand

theorem replaced_simplified (y : List Char) (chunk : Chunk y)
    (same : ∀ front back, Left front → Follows back → (next ≠ some .and → Disjoined back) →
      dropNeutral (front ++ (squeeze y ++ back)) = dropNeutral (front ++ (squeeze x ++ back))) :
    simplify (String.ofList (l ++ (y ++ r))) = simplify (String.ofList (l ++ (x ++ r))) := by
  obtain ⟨front, back, fitted⟩ := around_fitted l r next around
  refine simplify_of_swept _ _ ?_
  rw [fitted.squeezed y chunk, fitted.squeezed x (operand_chunk x operand)]
  exact same front back fitted.left fitted.follows fitted.disjoined

theorem true_after_simplified :
    simplify (String.ofList (l ++ (x ++ (" AND 1=1".toList ++ r)))) = simplify (String.ofList (l ++ (x ++ r))) := by
  have chunk := operand_chunk x operand
  have constant := constant_chunk true
  rw [← List.append_assoc x, show " AND 1=1".toList = joint .and ++ spelledConstant true from rfl]
  have both := chunk.joint x _ .and constant
  refine replaced_simplified l x r next around operand _ both fun front back left follows _ => ?_
  rw [squeeze_joint x _ .and chunk constant, constant_squeezed, List.append_assoc, dropNeutral, dropNeutral,
    true_after_absorbed front _ back left (operand_conjunct x operand) follows]

theorem true_before_simplified :
    simplify (String.ofList (l ++ ("1=1 AND ".toList ++ (x ++ r)))) = simplify (String.ofList (l ++ (x ++ r))) := by
  have chunk := operand_chunk x operand
  have constant := constant_chunk true
  have both := constant.joint _ x .and chunk
  rw [← List.append_assoc _ x, show "1=1 AND ".toList = spelledConstant true ++ joint .and from rfl,
    List.append_assoc _ _ x]
  refine replaced_simplified l x r next around operand _ both fun front back left follows _ => ?_
  rw [squeeze_joint _ x .and constant chunk, constant_squeezed, ← List.append_assoc _ _ (squeeze x),
    List.append_assoc _ (squeeze x), dropNeutral, dropNeutral,
    true_before_absorbed front _ back left (operand_conjunct x operand) follows]

theorem false_after_simplified (whole : next ≠ some .and) :
    simplify (String.ofList (l ++ (x ++ (" OR 0=1".toList ++ r)))) = simplify (String.ofList (l ++ (x ++ r))) := by
  have chunk := operand_chunk x operand
  have constant := constant_chunk false
  rw [← List.append_assoc x, show " OR 0=1".toList = joint .or ++ spelledConstant false from rfl]
  have both := chunk.joint x _ .or constant
  refine replaced_simplified l x r next around operand _ both fun front back left _ disjoined => ?_
  rw [squeeze_joint x _ .or chunk constant, constant_squeezed, List.append_assoc, dropNeutral, dropNeutral,
    false_after_absorbed front _ back left (operand_conjunct x operand) (disjoined whole)]

end Operand

theorem edit_simplified (t t' : List Char) (edit : Edit t t') (unquoted : Token.Unquoted t) :
    simplify (String.ofList t') = simplify (String.ofList t) := by
  cases edit with
  | respace u b b' v blanks blanks' =>
      have before := (List.forall_mem_append.mp unquoted).1
      exact simplify_of_squeezed _ _ (squeeze_respace u b b' v before blanks blanks')
  | lead b _ blanks => exact simplify_of_squeezed _ _ (squeeze_lead b t blanks)
  | trail b _ blanks => exact simplify_of_squeezed _ _ (squeeze_trail b t unquoted blanks)
  | open_ u b v blanks =>
      have before := (List.forall_mem_append.mp unquoted).1
      exact simplify_of_squeezed _ _ (squeeze_open u b v before blanks)
  | close u b v blanks =>
      have before := (List.forall_mem_append.mp unquoted).1
      exact simplify_of_squeezed _ _ (squeeze_close u b v before blanks)
  | trueAfter l x r next around operand => exact true_after_simplified l x r next around operand
  | trueBefore l x r next around operand => exact true_before_simplified l x r next around operand
  | falseAfter l x r next around operand whole => exact false_after_simplified l x r next around operand whole

theorem condition_unquoted (t : List Char) (condition : IsCondition t) : Token.Unquoted t := by
  obtain ⟨l, x, r, next, around, operand, rfl⟩ := condition
  obtain ⟨before, behind⟩ := around_unquoted l r next around
  simp only [Token.Unquoted, List.forall_mem_append]
  exact ⟨before, (operand_chunk x operand).unquoted, behind⟩

theorem edits_kept (t t' : List Char) (unquoted : Token.Unquoted t) (edits : Relation.ReflTransGen Edit t t') :
    Token.Unquoted t' ∧ simplify (String.ofList t') = simplify (String.ofList t) := by
  induction edits with
  | refl => exact ⟨unquoted, rfl⟩
  | tail _ edit ih =>
      obtain ⟨unquoted', same⟩ := ih
      exact ⟨edit_unquoted _ _ edit unquoted', (edit_simplified _ _ edit unquoted').trans same⟩

end Simplify

end ArchiveSearch

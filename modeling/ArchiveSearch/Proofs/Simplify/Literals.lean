import ArchiveSearch.Proofs.Simplify.NormalForm
import ArchiveSearch.Proofs.Simplify.Spared
import ArchiveSearch.Proofs.Simplify.Walls

/- What simplifying does to the quoted literals of a text. They stay in their order, and neither their quotes nor the
   parentheses and blanks in them are touched. The patterns for constants know nothing of quotes, though: a literal
   loses the constants that its own text joins to its words, just as if it were a text by itself. -/
namespace ArchiveSearch

set_option autoImplicit false

namespace Simplify

open Text (Cursor Keyword isBlank)

-- The literals of a text, each with its quotes; `read` is what was read of the one that is open. A literal that is not
-- closed goes to the end of the text.
def literalsFrom : Option Char → List Char → List Char → List (List Char)
  | none, _, [] => []
  | some _, read, [] => [read]
  | none, _, c :: rest => literalsFrom (Query.quoteAfter none c) [c] rest
  | some q, read, c :: rest =>
      match Query.quoteAfter (some q) c with
      | none => (read ++ [c]) :: literalsFrom none [] rest
      | some q => literalsFrom (some q) (read ++ [c]) rest

def literals (cs : List Char) : List (List Char) :=
  literalsFrom none [] cs

theorem literals_from_idle (read cs : List Char) : literalsFrom none read cs = literals cs := by
  cases cs <;> rfl

theorem squeeze_from_literals (open_ : Option Char) (gap : Bool) (before : Option Char) (read cs : List Char) :
    literalsFrom open_ read (squeezeFrom open_ gap before cs) = literalsFrom open_ read cs := by
  have unquoted : ∀ c, isBlank c = true → Query.quoteAfter none c = none := by
    intro c blank
    have apart : c ≠ '\'' ∧ c ≠ '"' := by
      constructor <;> rintro rfl <;> revert blank <;> decide
    simp [Query.quoteAfter, apart]
  fun_induction squeezeFrom open_ gap before cs generalizing read with
  | case1 => rfl
  | case2 q _ _ c rest ih =>
      rw [literalsFrom, literalsFrom]
      cases closed : Query.quoteAfter (some q) c with
      | none =>
          rw [closed] at ih
          exact congrArg ((read ++ [c]) :: ·) (ih [])
      | some q' =>
          rw [closed] at ih
          exact ih (read ++ [c])
  | case3 gap before c rest blank ih =>
      rw [literals_from_idle, ← literals_from_idle [], ih, literalsFrom, unquoted c blank, literals_from_idle,
        literals_from_idle]
  | case4 gap before c rest _ copied _ ih =>
      rw [literalsFrom, unquoted ' ' (by decide), literalsFrom, literalsFrom, ih]
  | case5 gap before c rest _ copied _ ih => rw [literalsFrom, literalsFrom, ih]

theorem drop_from_literals (indices : List Nat) (open_ : Option Char) (i : Nat) (read cs : List Char)
    (outside : ∀ k c, i + k ∈ indices → cs[k]? = some c →
      (cs.take k).foldl Query.quoteAfter open_ = none ∧ (c = '(' ∨ c = ')')) :
    literalsFrom open_ read (dropFrom indices i cs) = literalsFrom open_ read cs := by
  induction cs generalizing open_ i read with
  | nil => rfl
  | cons c cs ih =>
      have later : ∀ read, literalsFrom (Query.quoteAfter open_ c) read (dropFrom indices (i + 1) cs) =
          literalsFrom (Query.quoteAfter open_ c) read cs := fun read =>
        ih _ (i + 1) read fun k d member here =>
          outside (k + 1) d (by rwa [Nat.add_comm k 1, ← Nat.add_assoc]) here
      rw [drop_from_cons]
      by_cases dropped : i ∈ indices
      · obtain ⟨closed, parenthesis⟩ := outside 0 c dropped rfl
        obtain rfl : open_ = none := closed
        have unquoted : Query.quoteAfter none c = none := by
          rcases parenthesis with rfl | rfl <;> decide
        rw [unquoted] at later
        rw [if_pos dropped, later, literalsFrom, unquoted, literals_from_idle, literals_from_idle]
      · rw [if_neg dropped]
        cases open_ with
        | none => exact later [c]
        | some q =>
            rw [literalsFrom, literalsFrom]
            cases closed : Query.quoteAfter (some q) c with
            | none =>
                rw [closed] at later
                exact congrArg ((read ++ [c]) :: ·) (later [])
            | some q' =>
                rw [closed] at later
                exact later (read ++ [c])

theorem squeeze_literals (cs : List Char) : literals (squeeze cs) = literals cs :=
  squeeze_from_literals none false none [] cs

theorem drop_doubled_literals (cs : List Char) : literals (dropDoubled cs) = literals cs := by
  refine drop_from_literals (outerAt cs) none 0 [] cs fun k c member here => ?_
  rw [Nat.zero_add, outer_at_iff] at member
  obtain ⟨pair, inside, -, ends⟩ := member
  obtain ⟨opening, closing⟩ := pairs_outside cs pair inside
  rcases ends with rfl | rfl
  · exact ⟨opening.2, .inl (Option.some.inj (here.symm.trans opening.1))⟩
  · exact ⟨closing.2, .inr (Option.some.inj (here.symm.trans closing.1))⟩

def Plain (cs : List Char) : Prop :=
  ∀ c ∈ cs, Query.quoteAfter none c = none

def Quote (q : Char) : Prop :=
  Query.quoteAfter none q = some q

theorem quote_wall (q : Char) (quote : Quote q) : Wall q := by
  have known : q = '\'' ∨ q = '"' := by
    by_contra other
    rw [not_or] at other
    simp [Quote, Query.quoteAfter, other] at quote
  rcases known with rfl | rfl
  · exact ⟨by decide, by decide, by decide⟩
  · exact ⟨by decide, by decide, by decide⟩

inductive Quoted : List Char → List (List Char) → Prop
  | plain (u : List Char) (plain : Plain u) : Quoted u []
  | unclosed (u : List Char) (q : Char) (body : List Char) (plain : Plain u) (quote : Quote q) (inside : q ∉ body) :
      Quoted (u ++ q :: body) [q :: body]
  | closed (u : List Char) (q : Char) (body rest : List Char) (others : List (List Char)) (plain : Plain u)
      (quote : Quote q) (inside : q ∉ body) (later : Quoted rest others) :
      Quoted (u ++ q :: (body ++ q :: rest)) ((q :: (body ++ [q])) :: others)

theorem first_quote (cs : List Char) : Plain cs ∨ ∃ u q rest, cs = u ++ q :: rest ∧ Plain u ∧ Quote q := by
  induction cs with
  | nil => exact .inl nofun
  | cons c cs ih =>
      cases opened : Query.quoteAfter none c with
      | none =>
          rcases ih with plain | ⟨u, q, rest, rfl, plain, quote⟩
          · exact .inl (List.forall_mem_cons.mpr ⟨opened, plain⟩)
          · exact .inr ⟨c :: u, q, rest, rfl, List.forall_mem_cons.mpr ⟨opened, plain⟩, quote⟩
      | some q =>
          refine .inr ⟨[], c, cs, rfl, nofun, ?_⟩
          rw [Quote, opened]
          rw [Query.quoteAfter] at opened
          split at opened
          · exact opened.symm
          · cases opened

theorem literals_behind (u rest : List Char) (plain : Plain u) : literals (u ++ rest) = literals rest := by
  induction u with
  | nil => rfl
  | cons c u ih =>
      obtain ⟨here, later⟩ := List.forall_mem_cons.mp plain
      rw [List.cons_append, literals, literalsFrom, here, literals_from_idle]
      exact ih later

theorem literals_inside (q : Char) (read body rest : List Char) (inside : q ∉ body) :
    literalsFrom (some q) read (body ++ rest) = literalsFrom (some q) (read ++ body) rest := by
  induction body generalizing read with
  | nil => rw [List.nil_append, List.append_nil]
  | cons c body ih =>
      obtain ⟨other, later⟩ := not_or.mp (mt List.mem_cons.mpr inside)
      have stays : Query.quoteAfter (some q) c = some q := if_neg (Ne.symm other)
      rw [List.cons_append, literalsFrom, stays]
      simp only [ih _ later, List.append_assoc, List.singleton_append]

theorem quoted_literals (cs : List Char) (ls : List (List Char)) (quoted : Quoted cs ls) : literals cs = ls := by
  induction quoted with
  | plain u plain =>
      have all := literals_behind u [] plain
      rwa [List.append_nil] at all
  | unclosed u q body plain quote inside =>
      have all := literals_inside q [q] body [] inside
      rw [List.append_nil] at all
      rw [literals_behind u _ plain, literals, literalsFrom, quote, all]
      rfl
  | closed u q body rest others plain quote inside _ ih =>
      have closes : Query.quoteAfter (some q) q = none := if_pos rfl
      rw [literals_behind u _ plain, literals, literalsFrom, quote, literals_inside q [q] body _ inside, literalsFrom,
        closes]
      simp only [literals_from_idle, ih, List.cons_append, List.nil_append]

theorem quoted_exists (cs : List Char) : ∃ ls, Quoted cs ls := by
  rcases first_quote cs with plain | ⟨u, q, rest, split, plain, quote⟩
  · exact ⟨[], .plain cs plain⟩
  · rw [split]
    by_cases closed : q ∈ rest
    · obtain ⟨body, past, cut, inside⟩ := List.eq_append_cons_of_mem closed
      have shorter : past.length < cs.length := by
        rw [split, cut]
        simp only [List.length_append, List.length_cons]
        omega
      obtain ⟨others, later⟩ := quoted_exists past
      rw [cut]
      exact ⟨_, .closed u q body past others plain quote inside later⟩
    · exact ⟨_, .unclosed u q rest plain quote closed⟩
  termination_by cs.length

theorem quoted_walled (pass : List Char → List Char) (walled : ∀ u v c, Wall c → pass (u ++ c :: v) = pass u ++ c :: pass v)
    (shortens : ∀ cs, (pass cs).Sublist cs) (cs : List Char) (ls : List (List Char)) (quoted : Quoted cs ls) :
    Quoted (pass cs) (ls.map pass) := by
  have none_ : pass [] = [] := List.sublist_nil.mp (shortens [])
  have plain_ : ∀ u, Plain u → Plain (pass u) := fun u plain c member => plain c ((shortens u).subset member)
  have inside_ : ∀ q body, q ∉ body → q ∉ pass body := fun q body inside =>
    mt (fun member => (shortens body).subset member) inside
  have front : ∀ q body, Quote q → pass (q :: body) = q :: pass body := by
    intro q body quote
    have all := walled [] body q (quote_wall q quote)
    rwa [none_] at all
  induction quoted with
  | plain u plain => exact .plain _ (plain_ u plain)
  | unclosed u q body plain quote inside =>
      rw [walled u body q (quote_wall q quote), List.map_singleton, front q body quote]
      exact .unclosed _ q _ (plain_ u plain) quote (inside_ q body inside)
  | closed u q body rest others plain quote inside _ ih =>
      have wall := quote_wall q quote
      rw [walled u _ q wall, walled body rest q wall, List.map_cons, front q _ quote, walled body [] q wall, none_]
      exact .closed _ q _ _ _ (plain_ u plain) quote (inside_ q body inside) ih

theorem drop_neutral_literals (cs : List Char) : literals (dropNeutral cs) = (literals cs).map dropNeutral := by
  obtain ⟨ls, quoted⟩ := quoted_exists cs
  rw [quoted_literals cs ls quoted]
  exact quoted_literals _ _ (quoted_walled dropNeutral drop_neutral_wall drop_neutral_sublist cs ls quoted)

theorem round_literals (n : Nat) (cs : List Char) : literals (round^[n] cs) = (literals cs).map dropNeutral^[n] := by
  induction n generalizing cs with
  | zero => exact (List.map_id _).symm
  | succ n ih =>
      have once : literals (round cs) = (literals cs).map dropNeutral := by
        rw [round, squeeze_literals, drop_doubled_literals, drop_neutral_literals]
      rw [Function.iterate_succ_apply, ih, once, List.map_map, Function.iterate_succ]

theorem map_fixed (pass : List Char → List Char) (ls : List (List Char)) :
    ls.map pass = ls ↔ ∀ l ∈ ls, pass l = l := by
  have same := List.map_inj_left (l := ls) (f := pass) (g := id)
  rw [List.map_id] at same
  exact same

theorem simplify_literals (text : String) :
    ∃ n, literals (simplify text).toList = (literals text.toList).map dropNeutral^[n] := by
  obtain ⟨n, iterated, -⟩ := rounds_iterate ⟨squeeze text.toList, squeeze_idempotent text.toList⟩
  refine ⟨n, ?_⟩
  rw [simplify, String.toList_ofList, iterated, round_literals, squeeze_literals]

theorem simplest_literals (text : String) : ∀ literal ∈ literals (simplify text).toList, dropNeutral literal = literal := by
  obtain ⟨fixed, -⟩ := simplify_fixed text
  obtain ⟨neutral, -⟩ := round_idle _ (Nat.le_of_eq (congrArg List.length fixed).symm)
  have same := drop_neutral_literals (simplify text).toList
  rw [neutral] at same
  exact (map_fixed dropNeutral _).mp same.symm

end Simplify

open Simplify

theorem literals_simplified (text : String) :
    (∃ n, literals (simplify text).toList = (literals text.toList).map dropNeutral^[n]) ∧
    (∀ literal ∈ literals (simplify text).toList, dropNeutral literal = literal) ∧
    (literals (simplify text).toList = literals text.toList ↔
      ∀ literal ∈ literals text.toList, dropNeutral literal = literal) ∧
    ((∀ literal ∈ literals text.toList, ¬ ['=', '1'] <:+: literal) →
      literals (simplify text).toList = literals text.toList) := by
  have kept : literals (simplify text).toList = literals text.toList ↔
      ∀ literal ∈ literals text.toList, dropNeutral literal = literal := by
    constructor
    · intro same
      rw [← same]
      exact simplest_literals text
    · intro fixed
      obtain ⟨n, iterated⟩ := simplify_literals text
      rw [iterated]
      exact (map_fixed _ _).mpr fun literal member => Function.iterate_fixed (fixed literal member) n
  exact ⟨simplify_literals text, simplest_literals text, kept,
    fun signless => kept.mpr fun literal member => drop_neutral_signless literal (signless literal member)⟩

theorem wide_literal_simplified :
    literals (simplify "WHERE ((a = '  x  (( y ))')) AND  1=1").toList = ["'  x  (( y ))'".toList] :=
  (literals_simplified "WHERE ((a = '  x  (( y ))')) AND  1=1").2.2.2 (by decide +kernel)

theorem conjunction_literal_simplified :
    simplify "WHERE a = 'x AND 1=1'" = "WHERE a = 'x'" ∧
      literals (simplify "WHERE a = 'x AND 1=1'").toList ≠ literals "WHERE a = 'x AND 1=1'".toList := by
  decide +kernel

end ArchiveSearch

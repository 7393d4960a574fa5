import ArchiveSearch.Query.Basic
import ArchiveSearch.Text.Cursor

/- The passes that make a query's text simpler.

   Conditions that decide nothing are taken out: `1=1` beside an `AND`, and `0=1` as a whole operand of
   an `OR`. Doubled parentheses become single ones, and white space outside literals is as little as it
   can be. No pass makes a text longer. -/
namespace ArchiveSearch.Simplify

set_option autoImplicit false

open Text (Cursor)

inductive Verdict where
  | delete (length : Nat)
  | keep (length : Nat)

def sweepFrom (find : Cursor → Option Verdict) :
    Nat → Bool → Option Char → List Char → List Char
  | _, _, _, [] => []
  | pending + 1, copying, _, c :: rest =>
      if copying then c :: sweepFrom find pending copying (some c) rest
      else sweepFrom find pending copying (some c) rest
  | 0, _, before, c :: rest =>
      match find ⟨before, c :: rest⟩ with
      | some (.delete (more + 1)) => sweepFrom find more false (some c) rest
      | some (.keep (more + 1)) => c :: sweepFrom find more true (some c) rest
      | _ => c :: sweepFrom find 0 false (some c) rest

def sweep (find : Cursor → Option Verdict) (cs : List Char) : List Char :=
  sweepFrom find 0 false none cs

theorem sweep_from_sublist (find : Cursor → Option Verdict) (pending : Nat) (copying : Bool)
    (before : Option Char) (cs : List Char) :
    (sweepFrom find pending copying before cs).Sublist cs := by
  fun_induction sweepFrom find pending copying before cs with
  | case1 => exact .slnil
  | case2 _ _ _ _ ih => exact ih.cons_cons _
  | case3 _ _ _ _ _ _ ih => exact ih.cons _
  | case4 _ _ _ _ _ _ ih => exact ih.cons _
  | case5 _ _ _ _ _ _ ih => exact ih.cons_cons _
  | case6 _ _ _ _ _ _ ih => exact ih.cons_cons _

theorem sweep_sublist (find : Cursor → Option Verdict) (cs : List Char) :
    (sweep find cs).Sublist cs :=
  sweep_from_sublist find 0 false none cs

def wordAnd : Cursor.Step := Cursor.word ['A', 'N', 'D']
def wordOr : Cursor.Step := Cursor.word ['O', 'R']
def wordTrue : Cursor.Step := Cursor.word ['1', '=', '1']
def wordFalse : Cursor.Step := Cursor.word ['0', '=', '1']

def andTrueAfter (at_ : Cursor) : Option Cursor :=
  Cursor.blanks at_ >>= wordAnd >>= Cursor.blanks >>= wordTrue >>= Cursor.boundary

def andTrueBefore (at_ : Cursor) : Option Cursor :=
  Cursor.boundary at_ >>= wordTrue >>= Cursor.blanks >>= wordAnd >>= Cursor.blanks

def andTrue (at_ : Cursor) : Option Verdict :=
  match andTrueAfter at_ with
  | some last => some (.delete (at_.distance last))
  | none => (andTrueBefore at_).map fun last => .delete (at_.distance last)

def orFalseAfter (at_ : Cursor) : Option Verdict := do
  let last ← Cursor.blanks at_ >>= wordOr >>= Cursor.blanks >>= wordFalse >>= Cursor.boundary
  match Cursor.blanks last >>= wordAnd >>= Cursor.boundary with
  | some past => return .keep (at_.distance past)
  | none => return .delete (at_.distance last)

def falseOr (at_ : Cursor) : Option Cursor :=
  Cursor.boundary at_ >>= wordFalse >>= Cursor.blanks >>= wordOr >>= Cursor.blanks

def orFalseBefore (at_ : Cursor) : Option Verdict :=
  match Cursor.boundary at_ >>= wordAnd >>= Cursor.blanks >>= falseOr with
  | some past => some (.keep (at_.distance past))
  | none => (falseOr at_).map fun last => .delete (at_.distance last)

def dropNeutral (cs : List Char) : List Char :=
  sweep orFalseBefore (sweep orFalseAfter (sweep andTrue cs))

theorem drop_neutral_sublist (cs : List Char) : (dropNeutral cs).Sublist cs :=
  (sweep_sublist _ _).trans ((sweep_sublist _ _).trans (sweep_sublist _ _))

def pairsFrom : Option Char → Nat → List Nat → List Char → List (Nat × Nat)
  | _, _, _, [] => []
  | some q, i, opens, c :: rest => pairsFrom (Query.quoteAfter (some q) c) (i + 1) opens rest
  | none, i, opens, c :: rest =>
      if c == '(' then pairsFrom none (i + 1) (i :: opens) rest
      else if c == ')' then
        match opens with
        | [] => pairsFrom none (i + 1) [] rest
        | first :: outer => (first, i) :: pairsFrom none (i + 1) outer rest
      else pairsFrom (Query.quoteAfter none c) (i + 1) opens rest

def pairs (cs : List Char) : List (Nat × Nat) :=
  pairsFrom none 0 [] cs

def nextSolid (cs : List Char) (from_ : Nat) : Option Nat :=
  ((cs.drop from_).findIdx? fun c => !Text.isAsciiBlank c).map (from_ + ·)

def lastSolid (cs : List Char) (before : Nat) : Option Nat :=
  ((cs.take before).reverse.findIdx? fun c => !Text.isAsciiBlank c).map (before - 1 - ·)

def isDoubled (cs : List Char) (all : List (Nat × Nat)) (pair : Nat × Nat) : Bool :=
  match nextSolid cs (pair.1 + 1), lastSolid cs pair.2 with
  | some first, some last => all.contains (first, last)
  | _, _ => false

def dropIndices (indices : List Nat) (cs : List Char) : List Char :=
  (cs.zipIdx.filter fun c => !indices.contains c.2).map (·.1)

def dropDoubled (cs : List Char) : List Char :=
  let all := pairs cs
  let outer := all.filter (isDoubled cs all)
  dropIndices (outer.flatMap fun pair => [pair.1, pair.2]) cs

theorem drop_indices_sublist (indices : List Nat) (cs : List Char) :
    (dropIndices indices cs).Sublist cs := by
  have kept := (List.filter_sublist (p := fun c : Char × Nat => !indices.contains c.2)
    (l := cs.zipIdx)).map Prod.fst
  simpa only [dropIndices, List.zipIdx_map_fst] using kept

theorem drop_doubled_sublist (cs : List Char) : (dropDoubled cs).Sublist cs :=
  drop_indices_sublist _ cs

def spaceFits (before : Option Char) (after : Char) : Bool :=
  before.any (· != '(') && after != ')'

def squeezeFrom : Option Char → Bool → Option Char → List Char → List Char
  | _, _, _, [] => []
  | some q, _, _, c :: rest => c :: squeezeFrom (Query.quoteAfter (some q) c) false (some c) rest
  | none, gap, before, c :: rest =>
      if Text.isBlank c then squeezeFrom none true before rest
      else
        let copied := c :: squeezeFrom (Query.quoteAfter none c) false (some c) rest
        if gap && spaceFits before c then ' ' :: copied else copied

def squeeze (cs : List Char) : List Char :=
  squeezeFrom none false none cs

theorem squeeze_from_length (open_ : Option Char) (gap : Bool) (before : Option Char)
    (cs : List Char) :
    (squeezeFrom open_ gap before cs).length ≤ cs.length + gap.toNat := by
  fun_induction squeezeFrom open_ gap before cs with
  | case1 => simp
  | case2 gap before q c rest ih =>
      simp only [Bool.toNat_false, List.length_cons] at ih ⊢
      omega
  | case3 gap before c rest blank ih =>
      simp only [Bool.toNat_true, List.length_cons] at ih ⊢
      omega
  | case4 gap before c rest solid copied fits ih =>
      have passed : gap = true := (Bool.and_eq_true_iff.mp fits).1
      simp only [copied, passed, Bool.toNat_true, Bool.toNat_false, List.length_cons] at ih ⊢
      omega
  | case5 gap before c rest solid copied tight ih =>
      simp only [copied, Bool.toNat_false, List.length_cons] at ih ⊢
      omega

theorem squeeze_length (cs : List Char) : (squeeze cs).length ≤ cs.length :=
  squeeze_from_length none false none cs

theorem squeeze_from_again (open_ : Option Char) (gap : Bool) (before : Option Char)
    (cs : List Char) :
    squeezeFrom open_ false before (squeezeFrom open_ gap before cs) =
      squeezeFrom open_ gap before cs := by
  fun_induction squeezeFrom open_ gap before cs with
  | case1 => simp [squeezeFrom]
  | case2 gap before q c rest ih => rw [squeezeFrom, ih]
  | case3 gap before c rest blank ih => exact ih
  | case4 gap before c rest solid copied fits ih =>
      have space : Text.isBlank ' ' = true := by decide
      have fits_here : spaceFits before c = true := (Bool.and_eq_true_iff.mp fits).2
      simp [copied, squeezeFrom, space, solid, fits_here, ih]
  | case5 gap before c rest solid copied tight ih =>
      simp [copied, squeezeFrom, solid, ih]

theorem squeeze_idempotent (cs : List Char) : squeeze (squeeze cs) = squeeze cs :=
  squeeze_from_again none false none cs

def round (cs : List Char) : List Char :=
  squeeze (dropDoubled (dropNeutral cs))

theorem round_idle (cs : List Char) (longer : cs.length ≤ (round cs).length) :
    dropNeutral cs = cs ∧ dropDoubled cs = cs := by
  have squeezing := squeeze_length (dropDoubled (dropNeutral cs))
  have doubled := (drop_doubled_sublist (dropNeutral cs)).length_le
  have neutral := (drop_neutral_sublist cs).length_le
  rw [round] at longer
  have same : dropNeutral cs = cs := (drop_neutral_sublist cs).eq_of_length (by omega)
  rw [same] at squeezing doubled longer
  exact ⟨same, (drop_doubled_sublist cs).eq_of_length (by omega)⟩

theorem round_shorter (cs : List Char) (squeezed : squeeze cs = cs) (changed : round cs ≠ cs) :
    (round cs).length < cs.length := by
  apply Nat.lt_of_not_le
  intro longer
  obtain ⟨neutral, doubled⟩ := round_idle cs longer
  exact changed (by rw [round, neutral, doubled, squeezed])

end ArchiveSearch.Simplify

import ArchiveSearch.Proofs.Formula.Pieces

/- The truth of a formula, read off its pieces from left to right: what the finished disjuncts come to, what the
   finished conjuncts of this disjunct come to, and the operand that is being read. The main statements say how
   an operand is weighed at the end and before either connective. -/
namespace ArchiveSearch.Formula

set_option autoImplicit false

def both (s t : Option Bool) : Option Bool :=
  conjunction [s, t]

def either (s t : Option Bool) : Option Bool :=
  disjunction [s, t]

theorem conjunction_cons (t : Option Bool) (rest : List (Option Bool)) :
    conjunction (t :: rest) = both t (conjunction rest) := by
  rcases t with _ | _ | _ <;> simp only [both, conjunction] <;> rcases conjunction rest with _ | _ | _ <;> rfl

theorem disjunction_cons (t : Option Bool) (rest : List (Option Bool)) :
    disjunction (t :: rest) = either t (disjunction rest) := by
  rcases t with _ | _ | _ <;> simp only [either, disjunction] <;> rcases disjunction rest with _ | _ | _ <;> rfl

@[simp]
theorem both_true (t : Option Bool) : both t (some true) = t := by
  rcases t with _ | _ | _ <;> rfl

@[simp]
theorem true_both (t : Option Bool) : both (some true) t = t := by
  rcases t with _ | _ | _ <;> rfl

@[simp]
theorem either_false (t : Option Bool) : either t (some false) = t := by
  rcases t with _ | _ | _ <;> rfl

@[simp]
theorem false_either (t : Option Bool) : either (some false) t = t := by
  rcases t with _ | _ | _ <;> rfl

theorem both_assoc (s t u : Option Bool) : both (both s t) u = both s (both t u) := by
  rcases s with _ | _ | _ <;> rcases t with _ | _ | _ <;> rcases u with _ | _ | _ <;> rfl

theorem either_assoc (s t u : Option Bool) : either (either s t) u = either s (either t u) := by
  rcases s with _ | _ | _ <;> rcases t with _ | _ | _ <;> rcases u with _ | _ | _ <;> rfl

def constant : Bool → List Piece
  | true => [.word "1", .symbol "=", .word "1"]
  | false => [.word "0", .symbol "=", .word "1"]

structure Valuation where
  atoms : List Piece → Option Bool
  constants : ∀ b, atoms (constant b) = some b

variable (atoms : List Piece → Option Bool)

theorem truths_eq_map (fs : List Formula) : truths atoms fs = fs.map (truth atoms) := by
  induction fs with
  | nil => rfl
  | cons f fs ih => rw [truths, ih, List.map_cons]

theorem joined_and_truth (fs : List Formula) :
    (joined .and fs).truth atoms = conjunction (fs.map (truth atoms)) := by
  match fs with
  | [] => rfl
  | [f] => rw [List.map_singleton, conjunction_cons, conjunction, both_true]; rfl
  | f :: g :: rest => rw [joined, truth, truths_eq_map]; simp

theorem joined_or_truth (fs : List Formula) :
    (joined .or fs).truth atoms = disjunction (fs.map (truth atoms)) := by
  match fs with
  | [] => rfl
  | [f] => rw [List.map_singleton, disjunction_cons, disjunction, either_false]; rfl
  | f :: g :: rest => rw [joined, truth, truths_eq_map]; simp

def conjuncts (between : Bool) (current parts : List Part) : Option Bool :=
  conjunction ((cutAtAnd between current parts).map fun operand => (conjunct operand).truth atoms)

theorem conjuncts_nil (between : Bool) (current : List Part) :
    conjuncts atoms between current [] = (conjunct current.reverse).truth atoms := by
  rw [conjuncts, cutAtAnd, List.map_singleton, conjunction_cons, conjunction, both_true]

theorem assemble_truth (parts : List Part) :
    (assemble parts).truth atoms = disjunction ((cutAtOr [] parts).map (conjuncts atoms false [])) := by
  rw [assemble, joined_or_truth, List.map_map]
  congr 1
  refine List.map_congr_left fun disjunct _ => ?_
  rw [Function.comp_apply, joined_and_truth, List.map_map]
  rfl

def weigh : Option Bool → Option Bool → Bool → List Part → List Part → Option Bool
  | before, held, _, current, [] => either before (both held ((conjunct current.reverse).truth atoms))
  | before, held, between, current, p :: rest =>
      let now := both held ((conjunct current.reverse).truth atoms)
      if p.1.isKeyword "or" then weigh (either before now) (some true) false [] rest
      else if p.1.isKeyword "and" then
        if between then weigh before held false (p :: current) rest else weigh before now false [] rest
      else weigh before held (between || p.1.isKeyword "between") (p :: current) rest

theorem weigh_truth (disjunct : List Part) (before held : Option Bool) (between : Bool)
    (current parts : List Part)
    (behind : ∀ ahead, conjuncts atoms false [] (disjunct.reverse ++ ahead) =
      both held (conjuncts atoms between current ahead)) :
    weigh atoms before held between current parts =
      either before (disjunction ((cutAtOr disjunct parts).map (conjuncts atoms false []))) := by
  induction parts generalizing disjunct before held between current with
  | nil =>
      have last := behind []
      rw [List.append_nil] at last
      rw [weigh, cutAtOr, List.map_singleton, disjunction_cons, disjunction, either_false, last, conjuncts_nil]
  | cons p rest ih =>
      have further : ∀ ahead, conjuncts atoms false [] ((p :: disjunct).reverse ++ ahead) =
          both held (conjuncts atoms between current (p :: ahead)) := by
        intro ahead
        rw [List.reverse_cons, List.append_assoc, List.singleton_append, behind]
      rw [weigh, cutAtOr]
      by_cases disjoins : p.1.isKeyword "or" = true
      · have last := behind []
        rw [List.append_nil, conjuncts_nil] at last
        rw [if_pos disjoins, if_pos disjoins, List.map_cons, disjunction_cons, last, ← either_assoc]
        exact ih _ _ _ _ _ fun ahead => by simp
      · rw [if_neg disjoins, if_neg disjoins]
        by_cases conjoins : p.1.isKeyword "and" = true
        · rw [if_pos conjoins]
          cases between with
          | true =>
              rw [if_pos rfl]
              refine ih _ _ _ _ _ fun ahead => ?_
              rw [further, conjuncts, cutAtAnd, if_pos conjoins, if_pos rfl, conjuncts]
          | false =>
              rw [if_neg Bool.false_ne_true]
              refine ih _ _ _ _ _ fun ahead => ?_
              rw [further, conjuncts, cutAtAnd, if_pos conjoins, if_neg Bool.false_ne_true, List.map_cons,
                conjunction_cons, ← both_assoc, conjuncts]
        · rw [if_neg conjoins]
          refine ih _ _ _ _ _ fun ahead => ?_
          rw [further, conjuncts, cutAtAnd, if_neg conjoins, conjuncts]

theorem truth_weigh (parts : List Part) :
    (assemble parts).truth atoms = weigh atoms (some false) (some true) false [] parts := by
  rw [weigh_truth atoms [] _ _ _ _ _ fun ahead => by simp, assemble_truth, false_either]

-- No connective stands in the pieces but the `AND` of a `BETWEEN`, and every `BETWEEN` has its own.
def closedFrom : Bool → List Piece → Bool
  | between, [] => !between
  | between, p :: rest =>
      if p.isKeyword "or" then false
      else if p.isKeyword "and" then between && closedFrom false rest
      else closedFrom (between || p.isKeyword "between") rest

def Closed (operand : List Piece) : Prop :=
  closedFrom false operand = true

instance (operand : List Piece) : Decidable (Closed operand) :=
  inferInstanceAs (Decidable (closedFrom false operand = true))

def Inert (p : Piece) : Prop :=
  p.isKeyword "or" = false ∧ p.isKeyword "and" = false ∧ p.isKeyword "between" = false

instance (p : Piece) : Decidable (Inert p) :=
  inferInstanceAs (Decidable (_ ∧ _ ∧ _))

theorem closed_inert (between : Bool) (p : Piece) (rest : List Piece) (inert : Inert p) :
    closedFrom between (p :: rest) = closedFrom between rest := by
  simp [closedFrom, inert.1, inert.2.1, inert.2.2]

theorem inert_closed (operand : List Piece) (inert : ∀ p ∈ operand, Inert p) : Closed operand := by
  induction operand with
  | nil => rfl
  | cons p operand ih =>
      rw [Closed, closed_inert false p operand (inert p List.mem_cons_self)]
      exact ih fun q member => inert q (List.mem_cons_of_mem _ member)

theorem weigh_closed (before held : Option Bool) (between : Bool) (current : List Part)
    (operand : List Piece) (rest : List Part) (closed : closedFrom between operand = true) :
    weigh atoms before held between current (annotate operand ++ rest) =
      weigh atoms before held false ((annotate operand).reverse ++ current) rest := by
  induction operand generalizing between current with
  | nil =>
      cases between with
      | true => simp [closedFrom] at closed
      | false => rfl
  | cons p operand ih =>
      rw [closedFrom] at closed
      rw [annotate, List.cons_append, weigh, List.reverse_cons, List.append_assoc, List.singleton_append]
      by_cases disjoins : p.isKeyword "or" = true
      · rw [if_pos disjoins] at closed
        cases closed
      · rw [if_neg disjoins] at closed ⊢
        by_cases conjoins : p.isKeyword "and" = true
        · rw [if_pos conjoins, Bool.and_eq_true] at closed
          rw [if_pos conjoins, closed.1, if_pos rfl]
          exact ih _ _ closed.2
        · rw [if_neg conjoins] at closed ⊢
          exact ih _ _ closed

def value (pieces : List Piece) : Option Bool :=
  (ofPieces pieces).truth atoms

def valueFrom (before held : Option Bool) (pieces : List Piece) : Option Bool :=
  weigh atoms before held false [] (annotate pieces)

theorem value_eq (pieces : List Piece) :
    value atoms pieces = valueFrom atoms (some false) (some true) pieces :=
  truth_weigh atoms (annotate pieces)

theorem annotate_append (ps qs : List Piece) : annotate (ps ++ qs) = annotate ps ++ annotate qs := by
  induction ps with
  | nil => rfl
  | cons p ps ih => rw [List.cons_append, annotate, annotate, ih, List.cons_append]

theorem conjunct_value (operand : List Piece) (closed : Closed operand) :
    (conjunct (annotate operand)).truth atoms = value atoms operand := by
  have weighed := weigh_closed atoms (some false) (some true) false [] operand [] closed
  rw [List.append_nil, List.append_nil, weigh, List.reverse_reverse, true_both, false_either] at weighed
  rw [value_eq, valueFrom, weighed]

theorem value_last (before held : Option Bool) (operand : List Piece) (closed : Closed operand) :
    valueFrom atoms before held operand = either before (both held (value atoms operand)) := by
  have weighed := weigh_closed atoms before held false [] operand [] closed
  rw [List.append_nil, List.append_nil, weigh, List.reverse_reverse,
    conjunct_value atoms operand closed] at weighed
  exact weighed

theorem value_before_and (before held : Option Bool) (operand rest : List Piece) (joint : Piece)
    (closed : Closed operand) (conjoins : joint.isKeyword "and" = true)
    (apart : joint.isKeyword "or" = false) :
    valueFrom atoms before held (operand ++ joint :: rest) =
      valueFrom atoms before (both held (value atoms operand)) rest := by
  rw [valueFrom, annotate_append, weigh_closed atoms _ _ _ _ _ _ closed, annotate, weigh,
    if_neg (by simp [apart]), if_pos conjoins, if_neg Bool.false_ne_true, List.append_nil,
    List.reverse_reverse, conjunct_value atoms operand closed, valueFrom]

theorem value_before_or (before held : Option Bool) (operand rest : List Piece) (joint : Piece)
    (closed : Closed operand) (disjoins : joint.isKeyword "or" = true) :
    valueFrom atoms before held (operand ++ joint :: rest) =
      valueFrom atoms (either before (both held (value atoms operand))) (some true) rest := by
  rw [valueFrom, annotate_append, weigh_closed atoms _ _ _ _ _ _ closed, annotate, weigh, if_pos disjoins,
    List.append_nil, List.reverse_reverse, conjunct_value atoms operand closed, valueFrom]

theorem value_group (pieces : List Piece) : value atoms [.group pieces] = value atoms pieces := by
  rw [value, ofPieces, annotate, annotate, ofPiece, assemble, cutAtOr]
  simp [Piece.isKeyword, cutAtOr, cutAtAnd, joined, conjunct, value, ofPieces]

theorem annotate_pieces (pieces : List Piece) : (annotate pieces).map Prod.fst = pieces := by
  induction pieces with
  | nil => rfl
  | cons p pieces ih => rw [annotate, List.map_cons, ih]

theorem value_atom (operand : List Piece) (closed : Closed operand)
    (apart : ∀ pieces, operand ≠ [.group pieces]) : value atoms operand = atoms operand := by
  rw [← conjunct_value atoms operand closed]
  match operand with
  | [] => rfl
  | [.token t] => rfl
  | [.group pieces] => exact absurd rfl (apart pieces)
  | p :: q :: rest =>
      have same := congrArg atoms (annotate_pieces (p :: q :: rest))
      cases p <;> exact same

theorem intercalate_cons (joint : Piece) (first second : List Piece) (rest : List (List Piece)) :
    [joint].intercalate (first :: second :: rest) = first ++ joint :: [joint].intercalate (second :: rest) := by
  simp [List.intercalate]

theorem value_conjoined (joint : Piece) (operands : List (List Piece)) (before held : Option Bool)
    (conjoins : joint.isKeyword "and" = true) (apart : joint.isKeyword "or" = false) (some_ : operands ≠ [])
    (closed : ∀ operand ∈ operands, Closed operand) :
    valueFrom atoms before held ([joint].intercalate operands) =
      either before (both held (conjunction (operands.map (value atoms)))) := by
  induction operands generalizing held with
  | nil => exact absurd rfl some_
  | cons first rest ih =>
      have here := closed first List.mem_cons_self
      cases rest with
      | nil =>
          rw [List.map_singleton, conjunction_cons, conjunction, both_true]
          simpa [List.intercalate] using value_last atoms before held first here
      | cons second rest =>
          rw [intercalate_cons, value_before_and atoms before held first _ joint here conjoins apart,
            ih _ (List.cons_ne_nil _ _) fun operand member => closed operand (List.mem_cons_of_mem _ member)]
          simp only [List.map_cons, conjunction_cons, both_assoc]

theorem value_disjoined (joint : Piece) (operands : List (List Piece)) (before : Option Bool)
    (disjoins : joint.isKeyword "or" = true) (some_ : operands ≠ [])
    (closed : ∀ operand ∈ operands, Closed operand) :
    valueFrom atoms before (some true) ([joint].intercalate operands) =
      either before (disjunction (operands.map (value atoms))) := by
  induction operands generalizing before with
  | nil => exact absurd rfl some_
  | cons first rest ih =>
      have here := closed first List.mem_cons_self
      cases rest with
      | nil =>
          rw [List.map_singleton, disjunction_cons, disjunction, either_false]
          simpa [List.intercalate] using value_last atoms before (some true) first here
      | cons second rest =>
          rw [intercalate_cons, value_before_or atoms before (some true) first _ joint here disjoins,
            ih _ (List.cons_ne_nil _ _) fun operand member => closed operand (List.mem_cons_of_mem _ member)]
          simp only [List.map_cons, disjunction_cons, true_both, either_assoc]

end ArchiveSearch.Formula

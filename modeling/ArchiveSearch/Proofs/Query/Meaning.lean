import Mathlib.Algebra.Ring.Nat
import ArchiveSearch.Proofs.Query.Comparisons
import ArchiveSearch.Proofs.Query.Constraining
import ArchiveSearch.Proofs.Query.Trees

/- What a tree of filters means, and that the text of its condition says so: read again with the precedence of its
   connectives, it is true of just the atoms of which the tree is. -/
namespace ArchiveSearch

set_option autoImplicit false

open Formula (value valueFrom Closed)

def Connective.together : Connective → List (Option Bool) → Option Bool
  | _, [] => some true
  | .and, truths => Formula.conjunction truths
  | .or, truths => Formula.disjunction truths

section
variable (atoms : List Piece → Option Bool)

def Clause.truth (table : String) (number : Nat) (c : Clause) : Option Bool :=
  Formula.conjunction ((c.comparisons table number).map atoms)

def Clause.truths (table : String) : Nat → List Clause → List (Option Bool)
  | _, [] => []
  | number, c :: rest => c.truth atoms table number :: truths table (number + c.params.length) rest

def Parts.truths (number : Nat) (p : Parts) : List (Option Bool) :=
  match p.matchExpression with
  | some _ => atoms (p.membership number) :: Clause.truths atoms p.table (number + 1) p.clauses
  | none => Clause.truths atoms p.table number p.clauses

def Parts.truth (number : Nat) (p : Parts) : Option Bool :=
  p.connective.together (p.truths atoms number)
end

def Filter.asks (today : Date) (f : Filter) : Bool :=
  match f.parts today with
  | .ok p => p.constrains
  | .error _ => false

def Filter.bound (today : Date) (f : Filter) : Nat :=
  match f.parts today with
  | .ok p => p.params.length
  | .error _ => 0

namespace FilterTree

def asks (today : Date) (tree : FilterTree) : Bool :=
  tree.leaves.any (Filter.asks today)

def bound (today : Date) (tree : FilterTree) : Nat :=
  (tree.leaves.map (Filter.bound today)).sum

mutual
def meaning (today : Date) (atoms : List Piece → Option Bool) (number : Nat) : FilterTree → Option Bool
  | .leaf _ filter =>
      match filter.parts today with
      | .ok p => p.truth atoms number
      | .error _ => none
  | .operator _ connective children => connective.together (meanings today atoms number children)
  | .group _ children => Connective.and.together (meanings today atoms number children)
def meanings (today : Date) (atoms : List Piece → Option Bool) (number : Nat) :
    List FilterTree → List (Option Bool)
  | [] => []
  | child :: rest =>
      let others := meanings today atoms (number + child.bound today) rest
      if child.asks today then child.meaning today atoms number :: others else others
end

end FilterTree

inductive ReadsAll : Nat → List String → List (List Piece) → Nat → Prop
  | nil (number : Nat) : ReadsAll number [] [] number
  | cons (number middle next : Nat) (text : String) (ps : List Piece) (texts : List String)
      (rest : List (List Piece)) (first : Token.Reads number text ps middle)
      (others : ReadsAll middle texts rest next) : ReadsAll number (text :: texts) (ps :: rest) next

def Means (number : Nat) (text : String) (next : Nat) (truth : (List Piece → Option Bool) → Option Bool) :
    Prop :=
  ∃ ps, Token.Reads number text ps next ∧ Piece.PlainAll ps ∧ ∀ atoms, value atoms ps = truth atoms

def Operands (number : Nat) (texts : List String) (next : Nat)
    (truths : (List Piece → Option Bool) → List (Option Bool)) : Prop :=
  ∃ operands, ReadsAll number texts operands next ∧ (∀ o ∈ operands, Closed o ∧ Piece.PlainAll o) ∧
    ∀ atoms, operands.map (value atoms) = truths atoms

theorem joint_reads (connective : Connective) (number : Nat) :
    Token.Reads number (" " ++ connective.name ++ " ") [.word connective.name] number := by
  cases connective <;> exact fun _ => rfl

theorem reads_intercalate (connective : Connective) (number next : Nat) (texts : List String)
    (operands : List (List Piece)) (some_ : operands ≠ []) (reads : ReadsAll number texts operands next) :
    Token.Reads number ((" " ++ connective.name ++ " ").intercalate texts)
      ([Piece.word connective.name].intercalate operands) next := by
  induction reads with
  | nil => exact absurd rfl some_
  | cons number middle next text ps texts rest first others ih =>
      cases others with
      | nil => simpa [List.intercalate] using first
      | cons _ between _ second qs more pieces here later =>
          rw [String.intercalate_cons_cons, Formula.intercalate_cons]
          have joined := Token.reads_append _ _ _ _ _ _ _
            (Token.reads_append _ _ _ _ _ _ _ first (joint_reads connective middle))
            (ih (List.cons_ne_nil _ _))
          simpa using joined

theorem plain_intercalate (joint : Piece) (operands : List (List Piece)) (plainJoint : joint.Plain)
    (plain : ∀ o ∈ operands, Piece.PlainAll o) : Piece.PlainAll ([joint].intercalate operands) := by
  induction operands with
  | nil => simp [List.intercalate, Piece.PlainAll]
  | cons first rest ih =>
      have here := plain first List.mem_cons_self
      have others := ih fun o member => plain o (List.mem_cons_of_mem _ member)
      cases rest with
      | nil => simpa [List.intercalate] using here
      | cons second rest =>
          rw [Formula.intercalate_cons, Piece.plain_all_append]
          exact ⟨here, plainJoint, others⟩

theorem connectives_told : (Piece.word "AND").isKeyword "and" = true ∧ (Piece.word "AND").isKeyword "or" = false ∧
    (Piece.word "OR").isKeyword "or" = true := by
  decide

theorem together_value (connective : Connective) (atoms : List Piece → Option Bool)
    (operands : List (List Piece)) (some_ : operands ≠ []) (closed : ∀ o ∈ operands, Closed o) :
    value atoms ([Piece.word connective.name].intercalate operands) =
      connective.together (operands.map (value atoms)) := by
  obtain ⟨first, rest, cons⟩ := List.exists_cons_of_ne_nil some_
  rw [Formula.value_eq]
  cases connective with
  | and =>
      rw [Connective.name, Formula.value_conjoined atoms _ operands _ _ connectives_told.1 connectives_told.2.1 some_
        closed, Formula.true_both, Formula.false_either, cons]
      rfl
  | or =>
      rw [Connective.name, Formula.value_disjoined atoms _ operands _ connectives_told.2.2 some_ closed,
        Formula.false_either, cons]
      rfl

theorem operands_joined (connective : Connective) (number next : Nat) (texts : List String)
    (truths : (List Piece → Option Bool) → List (Option Bool)) (some_ : texts ≠ [])
    (all : Operands number texts next truths) :
    Means number ((" " ++ connective.name ++ " ").intercalate texts) next
      (fun atoms => connective.together (truths atoms)) := by
  obtain ⟨operands, reads, shaped, values⟩ := all
  have some_operand : operands ≠ [] := by
    cases reads with
    | nil => exact absurd rfl some_
    | cons => exact List.cons_ne_nil _ _
  refine ⟨_, reads_intercalate connective number next texts operands some_operand reads, ?_, ?_⟩
  · refine plain_intercalate _ operands ?_ fun o member => (shaped o member).2
    exact ⟨by simp, by simp⟩
  · intro atoms
    rw [together_value connective atoms operands some_operand fun o member => (shaped o member).1, values]

theorem operands_nil (number : Nat) : Operands number [] number (fun _ => []) :=
  ⟨[], .nil number, by simp, fun _ => rfl⟩

theorem operands_cons (number middle next : Nat) (text : String) (texts : List String) (ps : List Piece)
    (truth : (List Piece → Option Bool) → Option Bool)
    (truths : (List Piece → Option Bool) → List (Option Bool)) (reads : Token.Reads number text ps middle)
    (closed : Closed ps) (plain : Piece.PlainAll ps) (values : ∀ atoms, value atoms ps = truth atoms)
    (others : Operands middle texts next truths) :
    Operands number (text :: texts) next (fun atoms => truth atoms :: truths atoms) := by
  obtain ⟨operands, later, shaped, rest⟩ := others
  refine ⟨ps :: operands, .cons _ _ _ _ _ _ _ reads later, ?_, ?_⟩
  · exact List.forall_mem_cons.mpr ⟨⟨closed, plain⟩, shaped⟩
  · intro atoms
    rw [List.map_cons, values, rest]

theorem operands_group (number middle next : Nat) (text : String) (texts : List String)
    (truth : (List Piece → Option Bool) → Option Bool)
    (truths : (List Piece → Option Bool) → List (Option Bool)) (means : Means number text middle truth)
    (others : Operands middle texts next truths) :
    Operands number (("(" ++ text ++ ")") :: texts) next (fun atoms => truth atoms :: truths atoms) := by
  obtain ⟨ps, reads, plain, values⟩ := means
  refine operands_cons number middle next _ texts [.group ps] truth truths
    (Token.reads_group _ _ _ _ reads) rfl ⟨plain, trivial⟩ ?_ others
  intro atoms
  rw [Formula.value_group, values]

theorem name_apart (table column keyword : String)
    (plain : Text.foldChar '.' ∉ keyword.toList.map Text.foldChar) :
    (Piece.word (table ++ "." ++ column)).isKeyword keyword = false := by
  have dotted : '.' ∈ (table ++ "." ++ column).toList := by
    rw [String.toList_append, String.toList_append]
    exact List.mem_append_left _ (List.mem_append_right _ (List.mem_singleton_self '.'))
  rw [Piece.word, Piece.isKeyword, Token.isKeyword, beq_eq_false_iff_ne]
  intro same
  exact plain (same ▸ List.mem_map_of_mem dotted)

theorem name_inert (table column : String) : Formula.Inert (.word (table ++ "." ++ column)) := by
  have pointless : ∀ keyword ∈ ["or", "and", "between"], Text.foldChar '.' ∉ keyword.toList.map Text.foldChar := by
    decide
  exact ⟨name_apart table column "or" (pointless _ (by simp)), name_apart table column "and" (pointless _ (by simp)),
    name_apart table column "between" (pointless _ (by simp))⟩

def Idle (p : Piece) : Prop :=
  Formula.Inert p ∧ p.Plain

theorem name_idle (table column : String) : Idle (.word (table ++ "." ++ column)) :=
  ⟨name_inert table column, by simp [Piece.word, Piece.Plain]⟩

theorem symbol_idle (name : String) : Idle (.symbol name) :=
  ⟨⟨rfl, rfl, rfl⟩, by simp [Piece.symbol, Piece.Plain]⟩

theorem mark_idle (number : Nat) : Idle (.mark number) :=
  ⟨⟨rfl, rfl, rfl⟩, by simp [Piece.mark, Piece.Plain]⟩

def idleWords : List String :=
  ["LOWER", "NOT", "LIKE", "IN"]

theorem words_inert : ∀ word ∈ idleWords, Formula.Inert (.word word) := by
  decide

theorem word_idle (word : String) (known : word ∈ idleWords) : Idle (.word word) :=
  ⟨words_inert word known, by simp [Piece.word, Piece.Plain]⟩

theorem comparison_idle (comparison : Comparison) : ∀ p ∈ comparison.pieces, Idle p := by
  intro p member
  cases comparison with
  | like =>
      rw [List.mem_singleton.mp member]
      exact word_idle "LIKE" (by simp [idleWords])
  | notLike =>
      rcases List.mem_cons.mp member with rfl | member
      · exact word_idle "NOT" (by simp [idleWords])
      · rw [List.mem_singleton.mp member]
        exact word_idle "LIKE" (by simp [idleWords])
  | _ => exact List.mem_singleton.mp member ▸ symbol_idle _

def Shaped (operand : List Piece) : Prop :=
  Closed operand ∧ Piece.PlainAll operand ∧ ∀ pieces, operand ≠ [.group pieces]

theorem idle_plain (operand : List Piece) (idle : ∀ p ∈ operand, Idle p) : Piece.PlainAll operand := by
  induction operand with
  | nil => trivial
  | cons p operand ih =>
      exact ⟨(idle p List.mem_cons_self).2, ih fun q member => idle q (List.mem_cons_of_mem _ member)⟩

theorem idle_shaped (first second : Piece) (rest : List Piece) (idle : ∀ p ∈ first :: second :: rest, Idle p) :
    Shaped (first :: second :: rest) :=
  ⟨Formula.inert_closed _ fun p member => (idle p member).1, idle_plain _ idle, by simp⟩

theorem comparison_shaped (table : String) (number : Nat) (c : Clause) :
    ∀ o ∈ c.comparisons table number, Shaped o := by
  obtain ⟨column, test⟩ := c
  have name := name_idle table column
  have compared : ∀ (symbol : String) (number : Nat),
      Shaped [.word (table ++ "." ++ column), .symbol symbol, .mark number] := by
    intro symbol number
    exact idle_shaped _ _ _ (by simp [name, symbol_idle, mark_idle])
  intro o member
  cases test with
  | sameText value =>
      rw [List.mem_singleton.mp member]
      have lower := word_idle "LOWER" (by simp [idleWords])
      have grouped : Idle (.group [.word (table ++ "." ++ column)]) := ⟨⟨rfl, rfl, rfl⟩, name.2, trivial⟩
      have bound : Idle (.group [.mark number]) := ⟨⟨rfl, rfl, rfl⟩, (mark_idle number).2, trivial⟩
      exact idle_shaped _ _ _ (by simp [lower, grouped, symbol_idle, bound])
  | within first last =>
      rcases List.mem_cons.mp member with rfl | member
      · exact compared ">=" number
      · rw [List.mem_singleton.mp member]
        exact compared "<=" (number + 1)
  | since first => exact List.mem_singleton.mp member ▸ compared ">=" number
  | upTo last => exact List.mem_singleton.mp member ▸ compared "<=" number
  | between least most =>
      rw [List.mem_singleton.mp member]
      refine ⟨?_, ?_, by simp⟩
      · have opens : (Piece.word "BETWEEN").isKeyword "or" = false ∧ (Piece.word "BETWEEN").isKeyword "and" = false ∧
            (Piece.word "BETWEEN").isKeyword "between" = true := by decide
        have marks : ∀ n, (Piece.mark n).isKeyword "or" = false ∧ (Piece.mark n).isKeyword "and" = false ∧
            (Piece.mark n).isKeyword "between" = false := fun _ => ⟨rfl, rfl, rfl⟩
        rw [Closed, Formula.closed_inert _ _ _ name.1]
        simp [Formula.closedFrom, opens, connectives_told, marks]
      · exact ⟨name.2, by simp [Piece.PlainAll, Piece.Plain, Piece.word, Piece.mark]⟩
  | flag value => exact List.mem_singleton.mp member ▸ compared "=" number
  | compare comparison value =>
      rw [List.mem_singleton.mp member]
      have idle : ∀ p ∈ Piece.word (table ++ "." ++ column) :: comparison.pieces ++ [Piece.mark number], Idle p := by
        intro p inside
        rcases List.mem_append.mp inside with inside | last
        · rcases List.mem_cons.mp inside with rfl | inside
          · exact name
          · exact comparison_idle comparison p inside
        · exact List.mem_singleton.mp last ▸ mark_idle number
      cases comparison <;> exact idle_shaped _ _ _ idle

theorem shaped_value (atoms : List Piece → Option Bool) (operand : List Piece) (shaped : Shaped operand) :
    value atoms operand = atoms operand :=
  Formula.value_atom atoms operand shaped.1 shaped.2.2

theorem clause_operand (table : String) (number : Nat) (c : Clause) :
    Closed (c.pieces table number) ∧ Piece.PlainAll (c.pieces table number) ∧
      ∀ atoms, value atoms (c.pieces table number) = c.truth atoms table number := by
  have shaped := comparison_shaped table number c
  unfold Clause.pieces Clause.truth
  split
  · rename_i comparison one
    rw [one] at shaped ⊢
    have here := shaped comparison List.mem_cons_self
    refine ⟨here.1, here.2.1, fun atoms => ?_⟩
    rw [shaped_value atoms comparison here, List.map_singleton, Formula.conjunction_cons, Formula.conjunction,
      Formula.both_true]
  · have some_ : c.comparisons table number ≠ [] := by
      cases test : c.test <;> simp [Clause.comparisons, test]
    refine ⟨rfl, ⟨plain_intercalate _ _ (by simp [Piece.word, Piece.Plain]) fun o member =>
      (shaped o member).2.1, trivial⟩, fun atoms => ?_⟩
    have joined := together_value .and atoms _ some_ fun o member => (shaped o member).1
    rw [Formula.value_group]
    rw [Connective.name] at joined
    rw [joined]
    obtain ⟨first, rest, cons⟩ := List.exists_cons_of_ne_nil some_
    rw [List.map_congr_left fun o member => shaped_value atoms o (shaped o member), cons]
    rfl

theorem membership_shaped (p : Parts) (number : Nat) : Shaped (p.membership number) := by
  have row : Formula.Inert (.word (p.contentType.table ++ ".rowid")) := by
    have named := name_inert p.contentType.table "rowid"
    rwa [String.append_assoc] at named
  refine ⟨Formula.inert_closed _ ?_, ?_, by simp [Parts.membership]⟩
  · intro piece member
    rcases List.mem_cons.mp member with rfl | member
    · exact row
    · rcases List.mem_cons.mp member with rfl | member
      · exact words_inert "IN" (by simp [idleWords])
      · exact List.mem_singleton.mp member ▸ ⟨rfl, rfl, rfl⟩
  · simp [Parts.membership, Piece.PlainAll, Piece.Plain, Piece.word, Piece.mark]

namespace Clause

def operands (table : String) : Nat → List Clause → List (List Piece)
  | _, [] => []
  | number, c :: rest => c.pieces table number :: operands table (number + c.params.length) rest

theorem operands_read (contentType : ContentType) (clauses : List Clause) (number : Nat)
    (named : ∀ c ∈ clauses, ∃ field, Column.ofField? field = some c.column) :
    ReadsAll number (clauses.map (text contentType.table)) (operands contentType.table number clauses)
      (number + (clauses.flatMap params).length) := by
  induction clauses generalizing number with
  | nil => exact .nil number
  | cons c rest ih =>
      obtain ⟨here, later⟩ := List.forall_mem_cons.1 named
      rw [List.flatMap_cons, List.length_append, ← Nat.add_assoc]
      exact .cons _ _ _ _ _ _ _ (clause_reads contentType c number here) (ih (number + c.params.length) later)

theorem operands_closed (table : String) (number : Nat) (clauses : List Clause) :
    ∀ o ∈ operands table number clauses, Formula.Closed o ∧ Piece.PlainAll o := by
  induction clauses generalizing number with
  | nil => exact fun _ mem => absurd mem List.not_mem_nil
  | cons c rest ih =>
      obtain ⟨closed, plain, -⟩ := clause_operand table number c
      exact List.forall_mem_cons.2 ⟨⟨closed, plain⟩, ih (number + c.params.length)⟩

theorem operands_values (atoms : List Piece → Option Bool) (table : String) (number : Nat) (clauses : List Clause) :
    (operands table number clauses).map (Formula.value atoms) = truths atoms table number clauses := by
  induction clauses generalizing number with
  | nil => rfl
  | cons c rest ih =>
      rw [operands, List.map_cons, truths, ih, (clause_operand table number c).2.2]

end Clause

theorem clauses_operands (contentType : ContentType) (clauses : List Clause) (number : Nat)
    (named : ∀ c ∈ clauses, ∃ field, Column.ofField? field = some c.column) :
    Operands number (clauses.map (Clause.text contentType.table))
      (number + (clauses.flatMap Clause.params).length)
      (fun atoms => Clause.truths atoms contentType.table number clauses) :=
  ⟨Clause.operands contentType.table number clauses, Clause.operands_read contentType clauses number named,
    Clause.operands_closed contentType.table number clauses,
    fun atoms => Clause.operands_values atoms contentType.table number clauses⟩

namespace Parts

theorem joined_some (p : Parts) (texts : List String) (some_ : texts ≠ []) :
    p.joined texts = (" " ++ p.connective.name ++ " ").intercalate texts := by
  cases texts with
  | nil => exact absurd rfl some_
  | cons text texts => rfl

theorem condition_means (p : Parts) (named : p.Named) (asks : p.constrains = true) (number : Nat) :
    Means number p.condition.text (number + p.params.length) (fun atoms => p.truth atoms number) := by
  cases expression : p.matchExpression with
  | none =>
      have some_clause : p.clauses.map (Clause.text p.contentType.table) ≠ [] := by
        intro nothing
        have none_ := (constrains_false_iff p).mpr ⟨expression, List.map_eq_nil_iff.mp nothing⟩
        rw [asks] at none_
        cases none_
      have all := operands_joined p.connective _ _ _ _ some_clause
        (clauses_operands p.contentType p.clauses number named)
      simpa only [condition, expression, Option.map_none, Option.toList_none, List.nil_append,
        joined_some p _ some_clause, params, truth, truths, clauseTexts, table] using all
  | some e =>
      obtain ⟨closed, plain, apart⟩ := membership_shaped p number
      have clauses := clauses_operands p.contentType p.clauses (number + 1) named
      have operands := operands_cons _ _ _ _ _ _ _ _ (membership_reads p number) closed plain
        (fun atoms => shaped_value atoms _ ⟨closed, plain, apart⟩) clauses
      have all := operands_joined p.connective _ _ _ _ (List.cons_ne_nil _ _) operands
      have count : number + 1 + (p.clauses.flatMap Clause.params).length =
          number + ([Value.text e] ++ p.clauses.flatMap Clause.params).length := by
        simp only [List.length_append, List.length_singleton]
        omega
      rw [count] at all
      simpa only [condition, expression, Option.map_some, Option.toList_some, List.singleton_append,
        joined_some p _ (List.cons_ne_nil _ _), params, truth, truths, clauseTexts, table] using all

end Parts

theorem parts_asks (today : Date) (filter : Filter) (p : Parts) (parts : filter.parts today = .ok p) :
    filter.asks today = p.constrains := by
  rw [Filter.asks, parts]

theorem parts_bound (today : Date) (filter : Filter) (p : Parts) (parts : filter.parts today = .ok p) :
    filter.bound today = p.params.length := by
  rw [Filter.bound, parts]

theorem Filter.bound_of_nothing (today : Date) (filter : Filter) (nothing : filter.asks today = false) :
    filter.bound today = 0 := by
  cases parts : filter.parts today with
  | error e => rw [Filter.bound, parts]
  | ok p =>
      rw [parts_asks today filter p parts] at nothing
      obtain ⟨expression, clauses⟩ := p.constrains_false_iff.mp nothing
      rw [parts_bound today filter p parts, Parts.params, expression, clauses]
      rfl

namespace Condition

mutual
theorem constrains_leaves (c : Condition) : c.constrains = c.leaves.any Parts.constrains := by
  cases c with
  | leaf parts => simp [constrains, leaves]
  | join connective children => exact any_constrains_leaves children
theorem any_constrains_leaves (children : List Condition) :
    anyConstrains children = (leavesAll children).any Parts.constrains := by
  cases children with
  | nil => rfl
  | cons child rest =>
      rw [anyConstrains, leavesAll, List.any_append, constrains_leaves child, any_constrains_leaves rest]
end

end Condition

namespace FilterTree

variable (today : Date)

theorem leaves_ask (leaves : List Filter) (parts : List Parts)
    (compiled : List.Forall₂ (fun filter p => Filter.parts today filter = .ok p) leaves parts) :
    leaves.any (Filter.asks today) = parts.any Parts.constrains := by
  induction compiled with
  | nil => rfl
  | @cons filter p leaves parts first _ ih => rw [List.any_cons, List.any_cons, ih, parts_asks today filter p first]

theorem asks_constrains (expected found : Option ContentType) (tree : FilterTree) (c : Condition)
    (compiled : tree.conditionFrom today expected = .ok (c, found)) : tree.asks today = c.constrains := by
  rw [asks, leaves_ask today _ _ (condition_from_leaves today expected found tree c compiled),
    c.constrains_leaves]

theorem bound_of_nothing (tree : FilterTree) (nothing : tree.asks today = false) : tree.bound today = 0 := by
  rw [asks, List.any_eq_false] at nothing
  rw [bound, List.sum_eq_zero_iff_forall_eq_nat]
  intro n member
  obtain ⟨filter, inside, rfl⟩ := List.mem_map.mp member
  exact filter.bound_of_nothing today (by simpa using nothing filter inside)

theorem join_means (connective : Connective) (children : List Condition) (number next : Nat)
    (truths : (List Piece → Option Bool) → List (Option Bool)) (asks : Condition.anyConstrains children = true)
    (operands : Operands number ((Condition.constraining children).map fun q => "(" ++ q.text ++ ")") next truths) :
    Means number (Condition.join connective children).query.text next
      (fun atoms => connective.together (truths atoms)) := by
  obtain ⟨first, rest, found⟩ := List.exists_cons_of_ne_nil (Condition.constraining_ne_nil children asks)
  have joined := operands_joined connective _ _ _ _ (by simp [found]) operands
  rw [Condition.query, found]
  rw [found] at joined
  exact joined

mutual
theorem tree_means (expected found : Option ContentType) (tree : FilterTree) (c : Condition) (number : Nat)
    (compiled : tree.conditionFrom today expected = .ok (c, found)) (asked : tree.asks today = true) :
    Means number c.query.text (number + tree.bound today) (fun atoms => tree.meaning today atoms number) := by
  have constrains := asks_constrains today expected found tree c compiled
  rw [asked] at constrains
  cases tree with
  | leaf id filter =>
      have named := leaves_named today expected found _ c compiled
      obtain ⟨p, parts, rfl⟩ := condition_from_leaf today expected found id filter c compiled
      have means := p.condition_means (named p List.mem_cons_self) constrains.symm number
      have bound : FilterTree.bound today (.leaf id filter) = p.params.length := by
        simp [FilterTree.bound, leaves, parts_bound today filter p parts]
      simpa only [meaning, parts, bound, Condition.query] using means
  | operator id connective children =>
      obtain ⟨cs, all, rfl⟩ := condition_from_operator today expected found id connective children c compiled
      exact join_means connective cs _ _ _ constrains.symm (children_mean expected found children cs number all)
  | group id children =>
      obtain ⟨cs, all, rfl⟩ := condition_from_group today expected found id children c compiled
      exact join_means .and cs _ _ _ constrains.symm (children_mean expected found children cs number all)
theorem children_mean (expected found : Option ContentType) (children : List FilterTree) (cs : List Condition)
    (number : Nat) (compiled : conditionsFrom today expected children = .ok (cs, found)) :
    Operands number ((Condition.constraining cs).map fun q => "(" ++ q.text ++ ")")
      (number + ((leavesAll children).map (Filter.bound today)).sum)
      (fun atoms => meanings today atoms number children) := by
  cases children with
  | nil =>
      cases compiled
      exact operands_nil number
  | cons child rest =>
      obtain ⟨first, between, more, here, later, rfl⟩ :=
        conditions_from_cons today expected found child rest cs compiled
      have others := children_mean between found rest more (number + child.bound today) later
      have constrains := asks_constrains today expected between child first here
      rw [leavesAll, List.map_append, List.sum_append, ← Nat.add_assoc]
      simp only [Condition.constraining, meanings, Condition.always_true_iff, ← constrains]
      cases asked : child.asks today with
      | false =>
          rw [bound_of_nothing today child asked] at others
          have none_ : (child.leaves.map (Filter.bound today)).sum = 0 := bound_of_nothing today child asked
          simpa [none_, bound_of_nothing today child asked] using others
      | true =>
          have means := tree_means expected between child first number here asked
          simpa [bound] using operands_group _ _ _ _ _ _ _ means others
end

theorem asks_nothing (tree : FilterTree) :
    tree.asks today = false ↔ ∀ filter ∈ tree.leaves, filter.asks today = false := by
  simp [asks, List.any_eq_false]

mutual
theorem meaning_of_nothing (atoms : List Piece → Option Bool) (expected found : Option ContentType)
    (tree : FilterTree) (c : Condition) (number : Nat)
    (compiled : tree.conditionFrom today expected = .ok (c, found)) (nothing : tree.asks today = false) :
    tree.meaning today atoms number = some true := by
  cases tree with
  | leaf id filter =>
      have constrains := asks_constrains today expected found _ c compiled
      obtain ⟨p, parts, rfl⟩ := condition_from_leaf today expected found id filter c compiled
      rw [nothing] at constrains
      obtain ⟨expression, clauses⟩ := p.constrains_false_iff.mp constrains.symm
      simp [meaning, parts, Parts.truth, Parts.truths, expression, clauses, Clause.truths, Connective.together]
  | operator id connective children =>
      obtain ⟨cs, all, rfl⟩ := condition_from_operator today expected found id connective children c compiled
      rw [meaning, meanings_of_nothing atoms children number nothing, Connective.together]
  | group id children =>
      obtain ⟨cs, all, rfl⟩ := condition_from_group today expected found id children c compiled
      rw [meaning, meanings_of_nothing atoms children number nothing, Connective.together]
theorem meanings_of_nothing (atoms : List Piece → Option Bool) (children : List FilterTree) (number : Nat)
    (nothing : (leavesAll children).any (Filter.asks today) = false) :
    meanings today atoms number children = [] := by
  cases children with
  | nil => rfl
  | cons child rest =>
      rw [leavesAll, List.any_append, Bool.or_eq_false_iff] at nothing
      have first : child.asks today = false := nothing.1
      rw [meanings, first]
      exact meanings_of_nothing atoms rest _ nothing.2
end

end FilterTree

theorem compiled_tree_means (today : Date) (tree : FilterTree) (q : Query)
    (compiled : tree.compileCondition today = .ok q) :
    (∃ f, Formula.ofText? q.text = some f ∧
      ∀ v : Formula.Valuation, f.truth v.atoms = tree.meaning today v.atoms 0) ∧
    (q.text = alwaysTrue ↔ ∀ filter ∈ tree.leaves, filter.asks today = false) ∧
    (q.text = alwaysTrue → q.params = []) := by
  obtain ⟨⟨c, found⟩, made, rfl⟩ := (map_ok_iff _ _ _).mp compiled
  have constrains := tree.asks_constrains today none found c made
  rw [← tree.asks_nothing today]
  cases asked : tree.asks today with
  | true =>
      rw [asked] at constrains
      have apart : c.query.text ≠ alwaysTrue := by
        intro same
        have taken : c.query.isAlwaysTrue = true := by
          rw [Query.isAlwaysTrue, same]
          decide
        rw [c.always_true_iff, ← constrains] at taken
        cases taken
      obtain ⟨ps, reads, plain, values⟩ := tree.tree_means today none found c 0 made asked
      refine ⟨⟨Formula.ofPieces ps, ?_, fun v => values v.atoms⟩, ?_, fun same => absurd same apart⟩
      · rw [Formula.ofText?, Token.reads_pieces _ ps _ plain reads, Option.map_some]
      · exact ⟨fun same => absurd same apart, fun none_ => by cases none_⟩
  | false =>
      rw [asked] at constrains
      rw [c.query_of_nothing constrains.symm]
      refine ⟨⟨.atom (Formula.constant true), rfl, fun v => ?_⟩, by simp [Query.everything],
        fun _ => rfl⟩
      rw [tree.meaning_of_nothing today v.atoms none found c 0 made asked]
      exact v.constants true

def emeriti : FilterTree :=
  let faculty := Filter.empty .faculty
  .operator none .and
    [.leaf none (((faculty.withConnective .or).withRange "yearsActive" ⟨0⟩ ⟨0x4044000000000000⟩).withBoolean
      "retired" true),
     .group none [.leaf none faculty],
     .operator none .or
      [.leaf none (faculty.withCustom "department" .like (.text "Phys%")),
       .leaf none (faculty.withText "lastName" "Doe" .equals)]]

theorem emeriti_means :
    ∃ q f, emeriti.compileCondition Date.epoch = .ok q ∧
      q.text = "(faculty.years_active BETWEEN ? AND ? OR faculty.retired = ?) AND " ++
        "((faculty.department LIKE ?) OR (LOWER(faculty.last_name) = LOWER(?)))" ∧
      Formula.ofText? q.text = some f ∧ ∀ v : Formula.Valuation, f.truth v.atoms =
        Formula.both
          (Formula.either
            (v.atoms [.word "faculty.years_active", .word "BETWEEN", .mark 0, .word "AND", .mark 1])
            (v.atoms [.word "faculty.retired", .symbol "=", .mark 2]))
          (Formula.either
            (v.atoms [.word "faculty.department", .word "LIKE", .mark 3])
            (v.atoms [.word "LOWER", .group [.word "faculty.last_name"], .symbol "=", .word "LOWER",
              .group [.mark 4]])) := by
  obtain ⟨⟨f, parsed, means⟩, _, _⟩ := compiled_tree_means Date.epoch emeriti _ rfl
  refine ⟨_, f, rfl, by decide +kernel, parsed, fun v => (means v).trans ?_⟩
  have one : ∀ t, Formula.conjunction [t] = t := fun t => by
    rw [Formula.conjunction_cons, Formula.conjunction, Formula.both_true]
  calc emeriti.meaning Date.epoch v.atoms 0
      = Formula.both
          (Formula.either (Formula.conjunction [v.atoms _]) (Formula.conjunction [v.atoms _]))
          (Formula.either (Formula.conjunction [Formula.conjunction [v.atoms _]])
            (Formula.conjunction [Formula.conjunction [v.atoms _]])) := rfl
    _ = _ := by simp only [one]; rfl

end ArchiveSearch

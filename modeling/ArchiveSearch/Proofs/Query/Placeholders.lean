import ArchiveSearch.Query.Condition
import Mathlib.Data.List.Forall2

/- Placeholders and the values that they bind.

   A compiled text is laid out in passages. Some are clauses or match conditions with values of their own, the
   others bind nothing. The main statement follows both scanners from left to right: every placeholder lies in
   the passage that contributed the value with its number. -/
namespace ArchiveSearch

set_option autoImplicit false

structure Passage where
  text : String
  params : List Value

namespace Passage

def binds (p : Passage) : Bool :=
  !p.params.isEmpty

def holders (open_ : Option Char) (number : Nat) : List Passage → List Nat
  | [] => []
  | p :: rest =>
      List.replicate (Query.countFrom open_ p.text.toList) number ++
        holders (p.text.toList.foldl Query.quoteAfter open_) (number + 1) rest

def contributors (number : Nat) : List Passage → List Nat
  | [] => []
  | p :: rest => List.replicate p.params.length number ++ contributors (number + 1) rest

end Passage

namespace Query

def ofPassages (passages : List Passage) : Query :=
  { text := String.join (passages.map Passage.text), params := passages.flatMap Passage.params }

def Aligned (q : Query) (sources : List Passage) : Prop :=
  ∃ passages, q = ofPassages passages ∧ passages.filter Passage.binds = sources ∧
    Passage.holders none 0 passages = Passage.contributors 0 passages

end Query

def Parts.sources (p : Parts) : List Passage :=
  (p.matchExpression.map fun e => ⟨p.contentType.fullTextTable ++ " MATCH ?", [.text e]⟩).toList ++
    p.clauses.map fun c => ⟨c.text p.table, c.params⟩

theorem count_from_append (open_ : Option Char) (a b : List Char) :
    Query.countFrom open_ (a ++ b) =
      Query.countFrom open_ a + Query.countFrom (a.foldl Query.quoteAfter open_) b := by
  induction a generalizing open_ with
  | nil => cases open_ <;> simp [Query.countFrom]
  | cons c rest ih =>
      cases open_ with
      | some q => simpa [Query.countFrom] using ih _
      | none =>
          by_cases mark : c = '?'
          · have none_opens : Query.quoteAfter none '?' = none := by decide
            have tail := ih none
            simp only [mark, List.cons_append, Query.countFrom, beq_self_eq_true, if_true, List.foldl_cons,
              none_opens]
            omega
          · simpa [Query.countFrom, mark] using ih _

theorem holders_length (open_ : Option Char) (number : Nat) (passages : List Passage) :
    (Passage.holders open_ number passages).length =
      Query.countFrom open_ (passages.flatMap fun p => p.text.toList) := by
  induction passages generalizing open_ number with
  | nil => cases open_ <;> simp [Passage.holders, Query.countFrom]
  | cons p rest ih =>
      rw [Passage.holders, List.length_append, List.length_replicate, ih, List.flatMap_cons,
        count_from_append]

theorem contributors_length (number : Nat) (passages : List Passage) :
    (Passage.contributors number passages).length = (passages.flatMap Passage.params).length := by
  induction passages generalizing number with
  | nil => rfl
  | cons p rest ih =>
      rw [Passage.contributors, List.length_append, List.length_replicate, ih, List.flatMap_cons,
        List.length_append]

theorem aligned_placeholders (q : Query) (sources : List Passage) (aligned : q.Aligned sources) :
    q.placeholders = q.params.length := by
  obtain ⟨passages, rfl, _, same⟩ := aligned
  have lengths := congrArg List.length same
  rw [holders_length, contributors_length] at lengths
  simpa [Query.placeholders, Query.ofPassages, String.toList_join, List.flatMap_map] using lengths

theorem binding_params (passages : List Passage) :
    (passages.filter Passage.binds).flatMap Passage.params = passages.flatMap Passage.params := by
  induction passages with
  | nil => rfl
  | cons p rest ih => cases values : p.params <;> simp [Passage.binds, values, ih]

theorem aligned_params (q : Query) (sources : List Passage) (aligned : q.Aligned sources) :
    q.params = sources.flatMap Passage.params := by
  obtain ⟨passages, rfl, rfl, _⟩ := aligned
  exact (binding_params passages).symm

def Unquoted (text : String) : Prop :=
  ∀ c ∈ text.toList, c ≠ '\'' ∧ c ≠ '"'

instance (text : String) : Decidable (Unquoted text) :=
  List.decidableBAll (fun c => c ≠ '\'' ∧ c ≠ '"') text.toList

def marks (text : String) : Nat :=
  text.toList.count '?'

def Quiet (text : String) : Prop :=
  Unquoted text ∧ marks text = 0

instance (text : String) : Decidable (Quiet text) :=
  inferInstanceAs (Decidable (Unquoted text ∧ marks text = 0))

@[simp]
theorem unquoted_append (a b : String) : Unquoted (a ++ b) ↔ Unquoted a ∧ Unquoted b := by
  rw [Unquoted, String.toList_append]
  exact List.forall_mem_append

@[simp]
theorem marks_append (a b : String) : marks (a ++ b) = marks a + marks b := by
  simp [marks]

@[simp]
theorem quiet_append (a b : String) : Quiet (a ++ b) ↔ Quiet a ∧ Quiet b := by
  simp only [Quiet, unquoted_append, marks_append, Nat.add_eq_zero_iff]
  exact and_and_and_comm

theorem unquoted_scan (cs : List Char) (plain : ∀ c ∈ cs, c ≠ '\'' ∧ c ≠ '"') :
    Query.countFrom none cs = cs.count '?' ∧ cs.foldl Query.quoteAfter none = none := by
  induction cs with
  | nil => exact ⟨rfl, rfl⟩
  | cons c rest ih =>
      obtain ⟨counted, closed⟩ := ih fun d member => plain d (List.mem_cons_of_mem _ member)
      obtain ⟨notSingle, notDouble⟩ := plain c List.mem_cons_self
      have stays : Query.quoteAfter none c = none := by simp [Query.quoteAfter, notSingle, notDouble]
      rw [List.foldl_cons, stays]
      by_cases mark : c = '?'
      · simp [Query.countFrom, mark, counted, closed]
      · simp [Query.countFrom, mark, counted, stays, closed]

def Passage.Sound (p : Passage) : Prop :=
  Unquoted p.text ∧ marks p.text = p.params.length

theorem sound_holders (passages : List Passage) (number : Nat) (sound : ∀ p ∈ passages, p.Sound) :
    Passage.holders none number passages = Passage.contributors number passages := by
  induction passages generalizing number with
  | nil => rfl
  | cons p rest ih =>
      obtain ⟨plain, balanced⟩ := sound p List.mem_cons_self
      obtain ⟨counted, closed⟩ := unquoted_scan _ plain
      have tail := ih (number + 1) fun x member => sound x (List.mem_cons_of_mem _ member)
      rw [Passage.holders, Passage.contributors, counted, closed, tail]
      simpa [marks] using balanced

def Laid (q : Query) (sources : List Passage) : Prop :=
  ∃ passages, q = Query.ofPassages passages ∧ passages.filter Passage.binds = sources ∧
    ∀ p ∈ passages, p.Sound

theorem laid_aligned (q : Query) (sources : List Passage) (laid : Laid q sources) :
    q.Aligned sources := by
  obtain ⟨passages, made, binding, sound⟩ := laid
  exact ⟨passages, made, binding, sound_holders passages 0 sound⟩

theorem laid_gap (text : String) (quiet : Quiet text) : Laid ⟨text, []⟩ [] := by
  refine ⟨[⟨text, []⟩], ?_, rfl, ?_⟩
  · simp [Query.ofPassages, String.join]
  · intro p member
    rw [List.mem_singleton] at member
    exact member ▸ ⟨quiet.1, quiet.2⟩

theorem laid_source (p : Passage) (sound : p.Sound) (binds : p.binds = true) :
    Laid ⟨p.text, p.params⟩ [p] := by
  refine ⟨[p], ?_, ?_, ?_⟩
  · simp [Query.ofPassages, String.join]
  · simp [binds]
  · intro x member
    rw [List.mem_singleton] at member
    exact member ▸ sound

theorem laid_append (a b : Query) (first second : List Passage) (laidA : Laid a first)
    (laidB : Laid b second) : Laid ⟨a.text ++ b.text, a.params ++ b.params⟩ (first ++ second) := by
  obtain ⟨left, rfl, rfl, soundLeft⟩ := laidA
  obtain ⟨right, rfl, rfl, soundRight⟩ := laidB
  refine ⟨left ++ right, ?_, by simp, ?_⟩
  · simp [Query.ofPassages, String.join_append]
  · intro p member
    rcases List.mem_append.mp member with inLeft | inRight
    · exact soundLeft p inLeft
    · exact soundRight p inRight

theorem laid_between (before after : String) (q : Query) (sources : List Passage) (laid : Laid q sources)
    (quietBefore : Quiet before) (quietAfter : Quiet after) :
    Laid ⟨before ++ q.text ++ after, q.params⟩ sources := by
  simpa using laid_append _ _ _ _ (laid_append _ _ _ _ (laid_gap before quietBefore) laid)
    (laid_gap after quietAfter)

theorem laid_after (before : String) (q : Query) (sources : List Passage) (quiet : Quiet before)
    (laid : Laid q sources) : Laid ⟨before ++ q.text, q.params⟩ sources := by
  simpa using laid_append _ _ _ _ (laid_gap before quiet) laid

theorem laid_intercalate (separator : String) (quiet : Quiet separator) (qs : List Query)
    (sources : List (List Passage)) (each : List.Forall₂ Laid qs sources) :
    Laid ⟨separator.intercalate (qs.map Query.text), qs.flatMap Query.params⟩ sources.flatten := by
  induction each with
  | nil => exact laid_gap "" (by decide)
  | @cons q first qs rest here later ih =>
      cases qs with
      | nil =>
          cases later
          simpa using here
      | cons second qs =>
          have joined := laid_append _ _ _ _ (laid_append _ _ _ _ here (laid_gap separator quiet)) ih
          simpa [String.intercalate_cons_cons] using joined

end ArchiveSearch

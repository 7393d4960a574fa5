import ArchiveSearch.Proofs.Suggest.Counts

namespace ArchiveSearch

set_option autoImplicit false

open Suggest (normalForm)

namespace Popularity

instance (p q : Popularity) : Decidable (p.Above q) :=
  inferInstanceAs (Decidable (_ ∨ _))

theorem above_asymm (p q : Popularity) (first : p.Above q) : ¬ q.Above p := by
  rintro (more | ⟨level, spelled⟩)
  · rcases first with less | ⟨level, -⟩ <;> omega
  · rcases first with less | ⟨-, spelled'⟩
    · omega
    · exact lt_asymm spelled spelled'

theorem above_irrefl (p : Popularity) : ¬ p.Above p :=
  fun above => above_asymm p p above above

theorem above_of_raised {p q o : Popularity} (raised : p.count < q.count) (above : o.Above q) : o.Above p := by
  rcases above with more | ⟨level, -⟩
  · exact .inl (raised.trans more)
  · exact .inl (level ▸ raised)

theorem below_of_raised {p q o : Popularity} (raised : p.count < q.count) (above : p.Above o) : q.Above o := by
  rcases above with more | ⟨level, -⟩
  · exact .inl (more.trans raised)
  · exact .inl (level ▸ raised)

def countAbove (p : Popularity) (entries : List Popularity) : Nat :=
  entries.countP fun q => decide (q.Above p)

theorem count_above_append (p : Popularity) (entries others : List Popularity) :
    countAbove p (entries ++ others) = countAbove p entries + countAbove p others :=
  List.countP_append

theorem count_above_own (p : Popularity) (others : List Popularity) : countAbove p (p :: others) = countAbove p others :=
  List.countP_cons_of_neg (by simpa using above_irrefl p)

theorem rank_eq (listed : List Popularity) (ordered : listed.Pairwise Above) (rank : Nat) (p : Popularity)
    (at_ : listed[rank]? = some p) : rank = countAbove p listed := by
  induction listed generalizing rank with
  | nil => cases at_
  | cons q listed ih =>
      rw [List.pairwise_cons] at ordered
      cases rank with
      | zero =>
          obtain rfl : q = p := Option.some.inj at_
          rw [count_above_own]
          refine (List.countP_eq_zero.2 fun o later => ?_).symm
          rw [decide_eq_true_eq]
          exact above_asymm q o (ordered.1 o later)
      | succ rank =>
          rw [List.getElem?_cons_succ] at at_
          have above : decide (q.Above p) = true := decide_eq_true (ordered.1 p (List.mem_of_getElem? at_))
          rw [countAbove, List.countP_cons_of_pos (p := fun o : Popularity => decide (o.Above p)) above]
          exact congrArg (· + 1) (ih ordered.2 rank at_)

theorem sorted_rank (entries : List Popularity) (apart : entries.Nodup) (rank : Nat) (p : Popularity)
    (at_ : (sorted entries)[rank]? = some p) : rank = countAbove p entries :=
  (rank_eq _ (sorted_above entries apart) rank p at_).trans ((sorted_perm entries).countP_eq _)

theorem sorted_exists (entries : List Popularity) (p : Popularity) (mem : p ∈ entries) :
    ∃ rank : Nat, (sorted entries)[rank]? = some p :=
  List.mem_iff_getElem?.1 ((sorted_perm entries).mem_iff.2 mem)

-- One list of entries against another in which the entry of a key came forward, and nothing else did.
structure Lifted (key : String) (listed lifted : List Popularity) : Prop where
  others : ∀ (rank : Nat) (o : Popularity), lifted[rank]? = some o → normalForm o.query ≠ key →
    ∃ rank' ≤ rank, listed[rank']? = some o
  own : ∀ (rank : Nat) (p : Popularity), listed[rank]? = some p → normalForm p.query = key →
    ∃ place ≤ rank, ∃ q : Popularity, lifted[place]? = some q ∧ normalForm q.query = key

structure Raise (key : String) (old : Option Popularity) (new : Popularity) (others : List Popularity) : Prop where
  before : ∀ p ∈ old, normalForm p.query = key ∧ p.count < new.count
  after : normalForm new.query = key
  different : ∀ o ∈ others, normalForm o.query ≠ key
  apart : others.Nodup

def listedWith (least : Nat) (own : Option Popularity) (others : List Popularity) : List Popularity :=
  own.toList.filter (least ≤ ·.count) ++ others

theorem mem_listed_with (least : Nat) (own : Option Popularity) (others : List Popularity) (p : Popularity) :
    p ∈ listedWith least own others ↔ (p ∈ own ∧ least ≤ p.count) ∨ p ∈ others := by
  simp [listedWith]

theorem listed_with_enough (least : Nat) (p : Popularity) (enough : least ≤ p.count) (others : List Popularity) :
    listedWith least (some p) others = p :: others := by
  simp [listedWith, enough]

section Raise

variable {key : String} {old : Option Popularity} {new : Popularity} {others : List Popularity}
  (raise : Raise key old new others) (least : Nat)

include raise

theorem Raise.nodup (own : Option Popularity) (keyed : ∀ p ∈ own, normalForm p.query = key) :
    (listedWith least own others).Nodup := by
  cases own with
  | none => exact raise.apart
  | some p =>
      by_cases enough : least ≤ p.count
      · rw [listed_with_enough least p enough, List.nodup_cons]
        exact ⟨fun mem => raise.different p mem (keyed p rfl), raise.apart⟩
      · simpa [listedWith, enough] using raise.apart

theorem Raise.nodup_old : (listedWith least old others).Nodup :=
  raise.nodup least old fun p mem => (raise.before p mem).1

theorem Raise.nodup_new : (listedWith least (some new) others).Nodup :=
  raise.nodup least (some new) fun _ mem => Option.some.inj mem ▸ raise.after

theorem Raise.count_above_le (o : Popularity) :
    countAbove o (listedWith least old others) ≤ countAbove o (listedWith least (some new) others) := by
  unfold listedWith
  rw [count_above_append, count_above_append]
  refine Nat.add_le_add_right ?_ _
  cases old with
  | none => exact Nat.zero_le _
  | some p =>
      have raised := (raise.before p rfl).2
      by_cases enough : least ≤ p.count
      · have enough' : least ≤ new.count := enough.trans raised.le
        by_cases above : p.Above o
        · simp [countAbove, enough, enough', above, below_of_raised raised above]
        · simp [countAbove, enough, above]
      · simp [countAbove, enough]

theorem Raise.others_fall (rank : Nat) (o : Popularity)
    (at_ : (sorted (listedWith least (some new) others))[rank]? = some o) (unlike : normalForm o.query ≠ key) :
    ∃ rank' ≤ rank, (sorted (listedWith least old others))[rank']? = some o := by
  have inside := (mem_listed_with least (some new) others o).1 ((sorted_perm _).mem_iff.1 (List.mem_of_getElem? at_))
  have other : o ∈ others := inside.resolve_left fun mine => unlike (Option.some.inj mine.1 ▸ raise.after)
  obtain ⟨rank', at'⟩ := sorted_exists _ o ((mem_listed_with least old others o).2 (.inr other))
  refine ⟨rank', ?_, at'⟩
  rw [sorted_rank _ (raise.nodup_old least) rank' o at', sorted_rank _ (raise.nodup_new least) rank o at_]
  exact raise.count_above_le least o

theorem Raise.own_rises (rank : Nat) (p : Popularity) (at_ : (sorted (listedWith least old others))[rank]? = some p)
    (own : normalForm p.query = key) :
    ∃ place ≤ rank, ∃ q : Popularity, (sorted (listedWith least (some new) others))[place]? = some q ∧
      normalForm q.query = key := by
  have inside := (mem_listed_with least old others p).1 ((sorted_perm _).mem_iff.1 (List.mem_of_getElem? at_))
  obtain ⟨found, enough⟩ := inside.resolve_right fun theirs => raise.different p theirs own
  obtain rfl : old = some p := found
  have raised := (raise.before p rfl).2
  have apart := raise.nodup_old least
  have apart' := raise.nodup_new least
  rw [listed_with_enough least p enough] at *
  rw [listed_with_enough least new (enough.trans raised.le)] at *
  obtain ⟨place, there⟩ := sorted_exists (new :: others) new List.mem_cons_self
  refine ⟨place, ?_, new, there, raise.after⟩
  rw [sorted_rank _ apart rank p at_, sorted_rank _ apart' place new there, count_above_own, count_above_own]
  exact List.countP_mono_left fun o _ above => decide_eq_true (above_of_raised raised (of_decide_eq_true above))

theorem Raise.lifted :
    Lifted key (sorted (listedWith least old others)) (sorted (listedWith least (some new) others)) where
  others := raise.others_fall least
  own := raise.own_rises least

end Raise

end Popularity

end ArchiveSearch

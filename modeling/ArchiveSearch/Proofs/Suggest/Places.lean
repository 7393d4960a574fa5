import Mathlib.Data.List.Nodup
import Mathlib.Data.List.Perm.Subperm
import ArchiveSearch.Proofs.Suggest.Ranking
import ArchiveSearch.Proofs.Suggest.Weights

/- The place of a text among the best suggestions. It is the number of other texts of which some candidate goes before
   every candidate of it; among equals those go first that were offered first. So a text keeps its place, or comes
   forward, when none of the candidates that were behind it overtakes it. -/
namespace ArchiveSearch.Suggestion

set_option autoImplicit false

open List (zipIdxLE)

variable {R : Type}

theorem distinct_take_while (key : String) (seen : List String) (cs : List (Suggestion R)) (fresh : key ∉ seen) :
    (distinct seen cs).takeWhile (·.lowered != key) = distinct seen (cs.takeWhile (·.lowered != key)) := by
  induction cs generalizing seen with
  | nil => rfl
  | cons c cs ih =>
      by_cases known : seen.contains c.lowered = true
      · have other : c.lowered ≠ key := by
          rintro rfl
          exact fresh (by simpa using known)
        rw [distinct, if_pos known, List.takeWhile_cons_of_pos (by simpa using other), distinct, if_pos known,
          ih seen fresh]
      · by_cases own : c.lowered = key
        · rw [distinct, if_neg known, List.takeWhile_cons_of_neg (by simpa using own),
            List.takeWhile_cons_of_neg (by simpa using own), distinct]
        · rw [distinct, if_neg known, List.takeWhile_cons_of_pos (by simpa using own),
            List.takeWhile_cons_of_pos (by simpa using own), distinct, if_neg known,
            ih (c.lowered :: seen) (by simp [Ne.symm own, fresh])]

theorem distinct_texts (cs : List (Suggestion R)) (text : String) :
    text ∈ (distinct [] cs).map lowered ↔ text ∈ cs.map lowered := by
  constructor
  · exact fun kept => ((distinct_sublist [] cs).map lowered).subset kept
  · intro mem
    obtain ⟨c, inside, rfl⟩ := List.mem_map.1 mem
    have every : cs.Pairwise fun _ _ => True := List.pairwise_of_forall fun _ _ => trivial
    obtain ⟨s, kept, same, -⟩ := (distinct_best [] cs _ (fun _ => trivial) every c inside).resolve_left List.not_mem_nil
    exact List.mem_map.2 ⟨s, kept, same⟩

theorem distinct_length_le (cs others : List (Suggestion R)) (part : cs.map lowered ⊆ others.map lowered) :
    (distinct [] cs).length ≤ (distinct [] others).length := by
  have texts : (distinct [] cs).map lowered ⊆ (distinct [] others).map lowered := fun text kept =>
    (distinct_texts others text).2 (part ((distinct_texts cs text).1 kept))
  simpa using (List.subperm_of_subset (distinct_nodup [] cs) texts).length_le

theorem place_iff (key : String) (listed : List (Suggestion R)) (texts : (listed.map lowered).Nodup) (i : Nat) :
    (listed.map lowered)[i]? = some key ↔
      key ∈ listed.map lowered ∧ (listed.takeWhile (·.lowered != key)).length = i := by
  induction listed generalizing i with
  | nil => simp
  | cons s listed ih =>
      rw [List.map_cons, List.nodup_cons] at texts
      by_cases own : s.lowered = key
      · have once : key ∉ listed.map lowered := own ▸ texts.1
        rw [List.takeWhile_cons_of_neg (by simpa using own), List.map_cons, own]
        cases i with
        | zero => simp
        | succ i =>
            simp only [List.getElem?_cons_succ, List.length_nil]
            exact iff_of_false (fun found => once (List.mem_of_getElem? found)) (by omega)
      · rw [List.takeWhile_cons_of_pos (by simpa using own), List.map_cons, List.length_cons]
        cases i with
        | zero => simp [own]
        | succ i =>
            rw [List.getElem?_cons_succ, ih texts.2 i, List.mem_cons, or_iff_right (Ne.symm own)]
            exact and_congr_right fun _ => Nat.succ_inj.symm

section Sorted

variable {le : Suggestion R → Suggestion R → Bool}

theorem numbers_apart (s t : Suggestion R × Nat) (first : zipIdxLE le s t = true) (next : zipIdxLE le t s = true) :
    s.2 = t.2 := by
  unfold zipIdxLE at first next
  by_cases before : le s.1 t.1 = true
  · by_cases behind : le t.1 s.1 = true
    · rw [if_pos before, if_pos behind, decide_eq_true_eq] at first
      rw [if_pos behind, if_pos before, decide_eq_true_eq] at next
      omega
    · rw [if_neg behind] at next
      cases next
  · rw [if_neg before] at first
    cases first

theorem numbered_antisymm (cs : List (Suggestion R)) (s t : Suggestion R × Nat) (mem : s ∈ cs.zipIdx)
    (mem' : t ∈ cs.zipIdx) (first : zipIdxLE le s t = true) (next : zipIdxLE le t s = true) : s = t := by
  have number := numbers_apart s t first next
  rw [List.mem_zipIdx_iff_getElem?] at mem mem'
  rw [number, mem'] at mem
  exact Prod.ext (Option.some.inj mem).symm number

variable (trans : ∀ s t u : Suggestion R, le s t = true → le t u = true → le s u = true)
  (total : ∀ s t : Suggestion R, (le s t || le t s) = true) (key : String) (cs : List (Suggestion R))

def numbered (le : Suggestion R → Suggestion R → Bool) (cs : List (Suggestion R)) : List (Suggestion R × Nat) :=
  cs.zipIdx.mergeSort (zipIdxLE le)

def ahead (le : Suggestion R → Suggestion R → Bool) (key : String) (cs : List (Suggestion R)) :
    List (Suggestion R × Nat) :=
  (numbered le cs).takeWhile (·.1.lowered != key)

theorem ahead_sorted :
    (cs.mergeSort le).takeWhile (·.lowered != key) = (ahead le key cs).map Prod.fst := by
  rw [← List.mergeSort_zipIdx, List.takeWhile_map]
  rfl

theorem ahead_other (u : Suggestion R × Nat) (mem : u ∈ ahead le key cs) : u.1.lowered ≠ key := by
  simpa using List.all_eq_true.1 List.all_takeWhile u mem

theorem ahead_offered (u : Suggestion R × Nat) (mem : u ∈ ahead le key cs) : u ∈ cs.zipIdx :=
  List.mem_mergeSort.1 ((List.takeWhile_sublist _).subset mem)

include trans total

theorem numbered_pairwise : (numbered le cs).Pairwise fun s t => zipIdxLE le s t = true :=
  List.pairwise_mergeSort (List.zipIdxLE_trans trans) (List.zipIdxLE_total total) _

theorem ahead_before (u t : Suggestion R × Nat) (mem : u ∈ ahead le key cs) (offered : t ∈ cs.zipIdx)
    (own : t.1.lowered = key) : zipIdxLE le u t = true := by
  have ordered := numbered_pairwise trans total cs
  have inside : t ∈ numbered le cs := List.mem_mergeSort.2 offered
  rw [← List.takeWhile_append_dropWhile (p := fun s : Suggestion R × Nat => s.1.lowered != key)
    (l := numbered le cs)] at ordered inside
  have behind := (List.mem_append.1 inside).resolve_left fun before => ahead_other key cs t before own
  exact (List.pairwise_append.1 ordered).2.2 u mem t behind

theorem before_ahead (some_ : key ∈ cs.map lowered) :
    ∃ s ∈ cs.zipIdx, s.1.lowered = key ∧
      ∀ v ∈ cs.zipIdx, v.1.lowered ≠ key → zipIdxLE le v s = true → v ∈ ahead le key cs := by
  have ordered := numbered_pairwise trans total cs
  have parts := List.takeWhile_append_dropWhile (p := fun s : Suggestion R × Nat => s.1.lowered != key)
    (l := numbered le cs)
  have split : ∀ v ∈ cs.zipIdx, v ∈ ahead le key cs ∨ v ∈ (numbered le cs).dropWhile (·.1.lowered != key) := by
    intro v offered
    have inside : v ∈ numbered le cs := List.mem_mergeSort.2 offered
    rw [← parts] at inside
    exact List.mem_append.1 inside
  cases behind : (numbered le cs).dropWhile (·.1.lowered != key) with
  | nil =>
      obtain ⟨c, mem, own⟩ := List.mem_map.1 some_
      obtain ⟨i, at_⟩ := List.mem_iff_getElem?.1 mem
      have offered : (c, i) ∈ cs.zipIdx := List.mem_zipIdx_iff_getElem?.2 at_
      rw [behind] at split
      exact absurd own (ahead_other key cs (c, i) ((split (c, i) offered).resolve_right List.not_mem_nil))
  | cons s rest =>
      have own : s.1.lowered = key := by
        have first := List.head_dropWhile_not (fun s : Suggestion R × Nat => s.1.lowered != key)
          (l := numbered le cs) (by rw [behind]; exact List.cons_ne_nil _ _)
        simpa [behind] using first
      have offered : s ∈ cs.zipIdx :=
        List.mem_mergeSort.1 ((List.dropWhile_sublist _).subset (behind ▸ List.mem_cons_self))
      refine ⟨s, offered, own, fun v mem other before => ?_⟩
      rw [← parts, behind] at ordered
      rcases split v mem with here | later
      · exact here
      · rw [behind] at later
        rcases List.mem_cons.1 later with rfl | after
        · exact absurd own other
        · have next := (List.pairwise_cons.1 (List.pairwise_append.1 ordered).2.1).1 v after
          exact absurd (numbered_antisymm cs v s mem offered before next ▸ own) other

end Sorted

def Raised (le : Suggestion R → Suggestion R → Bool) (key : String) (cs others : List (Suggestion R)) : Prop :=
  ∀ s ∈ cs.zipIdx, s.1.lowered = key → ∃ t ∈ others.zipIdx, t.1.lowered = key ∧
    ∀ u ∈ others.zipIdx, u.1.lowered ≠ key → zipIdxLE le u t = true →
      ∃ v ∈ cs.zipIdx, v.1.lowered = u.1.lowered ∧ zipIdxLE le v s = true

theorem raised_place {a : Arithmetic R} (orderly : a.Orderly) (key : String) (most : Nat)
    (cs others : List (Suggestion R)) (raised : Raised (mayPrecede a) key cs others) (i : Nat)
    (shown : ((best a most cs).map lowered)[i]? = some key) :
    ∃ j ≤ i, ((best a most others).map lowered)[j]? = some key := by
  have trans := orderly.may_precede_trans
  have total := orderly.may_precede_total
  unfold best at *
  rw [List.map_take, List.getElem?_take] at shown
  split at shown
  case isFalse => cases shown
  case isTrue room =>
    obtain ⟨kept, place⟩ := (place_iff key _ (distinct_nodup [] _) i).1 shown
    have offered : key ∈ cs.map lowered := by
      rw [distinct_texts] at kept
      exact ((List.mergeSort_perm cs _).map lowered).mem_iff.1 kept
    obtain ⟨s, mem, own, first⟩ := before_ahead trans total key cs offered
    obtain ⟨t, mem', own', behind⟩ := raised s mem own
    have kept' : key ∈ (distinct [] (others.mergeSort (mayPrecede a))).map lowered := by
      rw [distinct_texts, ((List.mergeSort_perm others _).map lowered).mem_iff]
      exact List.mem_map.2 ⟨t.1, List.fst_mem_of_mem_zipIdx mem', own'⟩
    have part : ((ahead (mayPrecede a) key others).map Prod.fst).map lowered ⊆
        ((ahead (mayPrecede a) key cs).map Prod.fst).map lowered := by
      intro text there
      rw [List.map_map, List.mem_map] at *
      obtain ⟨u, before, rfl⟩ := there
      have other := ahead_other key others u before
      obtain ⟨v, inside, same, earlier⟩ := behind u (ahead_offered key others u before) other
        (ahead_before trans total key others u t before mem' own')
      exact ⟨v, first v inside (same ▸ other) earlier, same⟩
    have short := distinct_length_le _ _ part
    rw [← ahead_sorted, ← ahead_sorted, ← distinct_take_while key [] _ List.not_mem_nil,
      ← distinct_take_while key [] _ List.not_mem_nil, place] at short
    refine ⟨_, short, ?_⟩
    rw [List.map_take, List.getElem?_take, if_pos (short.trans_lt room)]
    exact (place_iff key _ (distinct_nodup [] _) _).2 ⟨kept', rfl⟩

end ArchiveSearch.Suggestion

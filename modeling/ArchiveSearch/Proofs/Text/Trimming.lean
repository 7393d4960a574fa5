import Mathlib.Data.List.DropRight
import ArchiveSearch.Text.Blank
import ArchiveSearch.Text.Case

namespace ArchiveSearch.Text

set_option autoImplicit false

theorem solid_kept (c : Char) (solid : isBlank c = false) (cs : List Char) (mem : c ∈ cs) :
    c ∈ cs.dropWhile isBlank := by
  induction cs with
  | nil => exact mem
  | cons first rest ih =>
      rw [List.dropWhile_cons]
      split
      · rename_i blank
        rcases List.mem_cons.1 mem with rfl | later
        · rw [solid] at blank
          cases blank
        · exact ih later
      · exact mem

theorem trim_full (s : String) (full : isAllBlank s = false) : (trim s).toList ≠ [] := by
  rw [isAllBlank, List.all_eq_false] at full
  obtain ⟨c, mem, blank⟩ := full
  have solid := Bool.eq_false_iff.2 blank
  have start : c ∈ (trimStart s.toList).reverse := List.mem_reverse.2 (solid_kept c solid _ mem)
  rw [trim, String.toList_ofList, trimEnd]
  exact List.ne_nil_of_mem (List.mem_reverse.2 (solid_kept c solid _ start))

theorem trim_blank (s : String) (blank : isAllBlank s = true) : trim s = "" := by
  have nothing : trimStart s.toList = [] := List.dropWhile_eq_nil_iff.2 (List.all_eq_true.1 blank)
  rw [trim, nothing]
  rfl

theorem lower_full (s : String) (full : s.toList ≠ []) : (lower s).isEmpty = false := by
  cases chars : s.toList with
  | nil => exact absurd chars full
  | cons c rest =>
      rw [lower, chars, lowerFrom, String.isEmpty_eq_false_iff, Ne, String.ofList_eq_empty_iff,
        List.append_eq_nil_iff]
      rintro ⟨nothing, -⟩
      -- The image of a character is never empty.
      repeat' split at nothing
      all_goals cases nothing

theorem lower_trim_is_empty (s : String) : (lower (trim s)).isEmpty = isAllBlank s := by
  cases blank : isAllBlank s with
  | true =>
      rw [trim_blank s blank]
      rfl
  | false => exact lower_full _ (trim_full s blank)

theorem trim_end_head (first : Char) (rest : List Char) (solid : isBlank first = false) :
    ∃ kept, trimEnd (first :: rest) = first :: kept := by
  have stays : ∀ cs : List Char, ∃ kept, (cs ++ [first]).dropWhile isBlank = kept ++ [first] := by
    intro cs
    induction cs with
    | nil => exact ⟨[], by simp [solid]⟩
    | cons c cs ih =>
        by_cases blank : isBlank c = true
        · obtain ⟨kept, same⟩ := ih
          exact ⟨kept, by simpa [blank] using same⟩
        · exact ⟨c :: cs, by simp [blank]⟩
  obtain ⟨kept, same⟩ := stays rest.reverse
  refine ⟨kept.reverse, ?_⟩
  rw [trimEnd, List.reverse_cons, same, List.reverse_append]
  rfl

theorem trim_end_again (cs : List Char) : trimEnd (trimEnd cs) = trimEnd cs :=
  List.rdropWhile_idempotent isBlank cs

theorem trim_again (s : String) : trim (trim s) = trim s := by
  rw [trim, trim, String.toList_ofList]
  congr 1
  cases started : trimStart s.toList with
  | nil => rfl
  | cons first rest =>
      have solid : isBlank first = false := by
        have head := List.head?_dropWhile_not isBlank s.toList
        rw [show s.toList.dropWhile isBlank = first :: rest from started] at head
        simpa using head
      obtain ⟨kept, ended⟩ := trim_end_head first rest solid
      have again : trimStart (trimEnd (first :: rest)) = trimEnd (first :: rest) := by
        rw [ended, trimStart, List.dropWhile_cons_of_neg (by simp [solid])]
      rw [again, trim_end_again]

end ArchiveSearch.Text

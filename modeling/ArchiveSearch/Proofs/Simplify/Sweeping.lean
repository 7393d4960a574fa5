import ArchiveSearch.Query.Simplify

/- Sweeps, place by place: at every place that a sweep stops at, its pattern finds nothing, or a stretch that is
   cut out, or one that is kept. A sweep that changes nothing has found nothing to cut. -/
namespace ArchiveSearch.Simplify

set_option autoImplicit false

open Text (Cursor)

def lastOr (before : Option Char) (u : List Char) : Option Char :=
  u.getLast?.or before

@[simp]
theorem last_or_nil (before : Option Char) : lastOr before [] = before :=
  rfl

@[simp]
theorem last_or_cons (before : Option Char) (c : Char) (u : List Char) :
    lastOr before (c :: u) = lastOr (some c) u := by
  rw [lastOr, lastOr, List.getLast?_cons]
  cases u.getLast? <;> rfl

theorem last_or_append (before : Option Char) (u v : List Char) :
    lastOr before (u ++ v) = lastOr (lastOr before u) v := by
  induction u generalizing before with
  | nil => rfl
  | cons c u ih => rw [List.cons_append, last_or_cons, last_or_cons, ih]

theorem last_or_some (before : Option Char) (u : List Char) (some_ : u ≠ []) : lastOr before u = u.getLast? := by
  obtain ⟨c, u, rfl⟩ := List.exists_cons_of_ne_nil some_
  rw [lastOr, List.getLast?_cons]
  rfl

def Fits (find : Cursor → Option Verdict) : Prop :=
  ∀ at_ v, find at_ = some v →
    ∃ x rest, at_.rest = x ++ rest ∧ x ≠ [] ∧ (v = .delete x.length ∨ v = .keep x.length)

inductive Swept (find : Cursor → Option Verdict) : Option Char → List Char → List Char → Prop
  | done (before : Option Char) : Swept find before [] []
  | pass (before : Option Char) (c : Char) (rest out : List Char) (nothing : find ⟨before, c :: rest⟩ = none)
      (later : Swept find (some c) rest out) : Swept find before (c :: rest) (c :: out)
  | cut (before : Option Char) (x rest out : List Char) (some_ : x ≠ [])
      (found : find ⟨before, x ++ rest⟩ = some (.delete x.length))
      (later : Swept find (lastOr before x) rest out) : Swept find before (x ++ rest) out
  | kept (before : Option Char) (x rest out : List Char) (some_ : x ≠ [])
      (found : find ⟨before, x ++ rest⟩ = some (.keep x.length))
      (later : Swept find (lastOr before x) rest out) : Swept find before (x ++ rest) (x ++ out)

variable (find : Cursor → Option Verdict)

theorem sweep_from_idle (copying : Bool) (before : Option Char) (cs : List Char) :
    sweepFrom find 0 copying before cs = sweepFrom find 0 false before cs := by
  cases cs <;> rfl

theorem sweep_from_pending (copying : Bool) (before : Option Char) (x rest : List Char) :
    sweepFrom find x.length copying before (x ++ rest) =
      (if copying then x else []) ++ sweepFrom find 0 false (lastOr before x) rest := by
  induction x generalizing before with
  | nil =>
      rw [List.length_nil, sweep_from_idle]
      cases copying <;> rfl
  | cons c x ih =>
      rw [List.length_cons, List.cons_append, sweepFrom, ih, last_or_cons]
      cases copying <;> rfl

theorem sweep_swept (fits : Fits find) (before : Option Char) (cs : List Char) :
    Swept find before cs (sweepFrom find 0 false before cs) := by
  match cs with
  | [] => exact .done before
  | c :: rest =>
      rw [sweepFrom]
      cases found : find ⟨before, c :: rest⟩ with
      | none => exact .pass before c rest _ found (sweep_swept fits (some c) rest)
      | some v =>
          obtain ⟨x, past, split, some_, verdict⟩ := fits _ v found
          obtain ⟨d, x, rfl⟩ := List.exists_cons_of_ne_nil some_
          obtain ⟨rfl, rfl⟩ := List.cons.inj split
          have shorter : past.length < (c :: (x ++ past)).length := by
            rw [List.length_cons, List.length_append]
            omega
          have later := sweep_swept fits (lastOr before (c :: x)) past
          rw [last_or_cons] at later
          rcases verdict with rfl | rfl
          · have cut := Swept.cut before (c :: x) past _ (List.cons_ne_nil c x) found (by rwa [last_or_cons])
            simpa [sweep_from_pending find false (some c) x past] using cut
          · have kept := Swept.kept before (c :: x) past _ (List.cons_ne_nil c x) found (by rwa [last_or_cons])
            simpa [sweep_from_pending find true (some c) x past] using kept
  termination_by cs.length

inductive Passed (find : Cursor → Option Verdict) : Option Char → List Char → List Char → Prop
  | nil (before : Option Char) (ahead : List Char) : Passed find before [] ahead
  | pass (before : Option Char) (c : Char) (s ahead : List Char)
      (nothing : find ⟨before, c :: (s ++ ahead)⟩ = none) (later : Passed find (some c) s ahead) :
      Passed find before (c :: s) ahead
  | kept (before : Option Char) (x s ahead : List Char) (some_ : x ≠ [])
      (found : find ⟨before, x ++ (s ++ ahead)⟩ = some (.keep x.length))
      (later : Passed find (lastOr before x) s ahead) : Passed find before (x ++ s) ahead

theorem swept_first_cut (before : Option Char) (cs out : List Char) (swept : Swept find before cs out) :
    (out = cs ∧ Passed find before cs []) ∨
      ∃ s x rest out', cs = s ++ (x ++ rest) ∧ out = s ++ out' ∧ x ≠ [] ∧ Passed find before s (x ++ rest) ∧
        find ⟨lastOr before s, x ++ rest⟩ = some (.delete x.length) ∧
        Swept find (lastOr (lastOr before s) x) rest out' := by
  induction swept with
  | done before => exact .inl ⟨rfl, .nil before []⟩
  | pass before c rest out nothing later ih =>
      rcases ih with ⟨rfl, passed⟩ | ⟨s, x, past, out', rfl, rfl, some_, passed, found, behind⟩
      · exact .inl ⟨rfl, .pass before c out [] (by rwa [List.append_nil]) passed⟩
      · exact .inr ⟨c :: s, x, past, out', rfl, rfl, some_, .pass before c s _ nothing passed,
          by rwa [last_or_cons], by rwa [last_or_cons]⟩
  | cut before x rest out some_ found later _ =>
      exact .inr ⟨[], x, rest, out, rfl, rfl, some_, .nil before _, found, later⟩
  | kept before y rest out some_ found later ih =>
      rcases ih with ⟨rfl, passed⟩ | ⟨s, x, past, out', rfl, rfl, someX, passed, cut, behind⟩
      · exact .inl ⟨rfl, .kept before y out [] some_ (by rwa [List.append_nil]) passed⟩
      · exact .inr ⟨y ++ s, x, past, out', by simp, by simp, someX, .kept before y s _ some_ found passed,
          by rwa [last_or_append], by rwa [last_or_append]⟩

theorem swept_length (before : Option Char) (cs out : List Char) (swept : Swept find before cs out) :
    out.length ≤ cs.length := by
  induction swept with
  | done => exact Nat.le_refl _
  | pass before c rest out _ _ ih => simpa using ih
  | cut before x rest out _ _ _ ih =>
      rw [List.length_append]
      omega
  | kept before x rest out _ _ _ ih => simpa using ih

theorem swept_fixed (before : Option Char) (cs : List Char) (swept : Swept find before cs cs) :
    Passed find before cs [] := by
  rcases swept_first_cut find before cs cs swept with ⟨_, passed⟩ | ⟨s, x, rest, out, split, made, some_, _, _, later⟩
  · exact passed
  · have shorter := swept_length find _ _ _ later
    have same := congrArg List.length (split.symm.trans made)
    have positive := List.length_pos_iff.mpr some_
    simp only [List.length_append] at same
    omega

inductive Place (ahead : List Char) (before : Option Char) : List Char → List Char → Prop
  | nothing (u v : List Char) (nothing : find ⟨lastOr before u, v ++ ahead⟩ = none) : Place ahead before u v
  | kept (u x past : List Char) (some_ : x ≠ [])
      (found : find ⟨lastOr before u, x ++ past ++ ahead⟩ = some (.keep x.length)) : Place ahead before u (x ++ past)
  | inside (u x x' past : List Char) (someX : x ≠ []) (someX' : x' ≠ [])
      (found : find ⟨lastOr before u, x ++ (x' ++ past) ++ ahead⟩ = some (.keep (x ++ x').length)) :
      Place ahead before (u ++ x) (x' ++ past)

theorem place_behind (ahead : List Char) (before : Option Char) (x u v : List Char)
    (place : Place find ahead (lastOr before x) u v) : Place find ahead before (x ++ u) v := by
  cases place with
  | nothing _ _ nothing => exact .nothing _ _ (by rwa [last_or_append])
  | kept _ y past some_ found => exact .kept _ y past some_ (by rwa [last_or_append])
  | inside u y y' past someY someY' found =>
      rw [← List.append_assoc]
      exact .inside _ y y' past someY someY' (by rwa [last_or_append])

theorem passed_places (before : Option Char) (s ahead : List Char) (passed : Passed find before s ahead)
    (u v : List Char) (split : s = u ++ v) (some_ : v ≠ []) : Place find ahead before u v := by
  induction passed generalizing u with
  | nil =>
      rw [eq_comm, List.append_eq_nil_iff] at split
      exact absurd split.2 some_
  | pass before c s ahead nothing later ih =>
      cases u with
      | nil =>
          rw [List.nil_append] at split
          subst split
          exact .nothing [] _ nothing
      | cons d u =>
          obtain ⟨rfl, rest_⟩ := List.cons.inj split
          exact place_behind find ahead before [c] u v (ih u rest_)
  | kept before x s ahead someX found later ih =>
      rcases List.append_eq_append_iff.mp split with ⟨more, rfl, right⟩ | ⟨x', rfl, rfl⟩
      · exact place_behind find ahead before x more v (ih more right)
      · by_cases start : u = []
        · subst start
          exact .kept [] x' s someX (by simpa using found)
        · by_cases ends : x' = []
          · subst ends
            have here := place_behind find ahead before u [] s (by simpa using ih [] rfl)
            rwa [List.append_nil] at here
          · exact .inside [] u x' s start ends (by simpa using found)

end ArchiveSearch.Simplify

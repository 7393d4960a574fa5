import ArchiveSearch.Files.Opening
import ArchiveSearch.Proofs.Outcome

namespace ArchiveSearch.Files

set_option autoImplicit false

theorem lookup_without (f : Files) (place other : List String) :
    (f.filter fun x => x.1 != place).lookup other = if other = place then none else f.lookup other := by
  induction f with
  | nil => simp
  | cons x f ih =>
      by_cases here : x.1 = place
      · rw [List.filter_cons_of_neg (by simp [here]), ih, List.lookup_cons]
        by_cases asked : other = place
        · rw [if_pos asked, if_pos asked]
        · rw [if_neg asked, if_neg asked, here, beq_eq_false_iff_ne.2 asked]
      · rw [List.filter_cons_of_pos (by simp [here]), List.lookup_cons, List.lookup_cons, ih]
        by_cases asked : other = place
        · rw [if_pos asked, if_pos asked, asked, beq_eq_false_iff_ne.2 (Ne.symm here)]
        · rw [if_neg asked, if_neg asked]

theorem lookup_put (f : Files) (place : List String) (node : FileNode) (other : List String) :
    (f.put place node).lookup other = if other = place then some node else f.lookup other := by
  rw [put, List.lookup_append, lookup_without]
  by_cases asked : other = place
  · rw [if_pos asked, if_pos asked, asked, List.lookup_cons_self, Option.none_or]
  · rw [if_neg asked, if_neg asked, List.lookup_cons, beq_eq_false_iff_ne.2 asked, List.lookup_nil, Option.or_none]

theorem put_again (f : Files) (place : List String) (first second : FileNode) :
    (f.put place first).put place second = f.put place second := by
  simp [put, List.filter_append, List.filter_filter]

section Put

variable (f : Files) (place : List String) (node : FileNode) (free : f.node? place ≠ some .directory)

include free

theorem node_put_here : (f.put place node).node? place = some node := by
  have inside : ¬(place = [] ∨ place = root) := fun always => free (if_pos always)
  rw [node?, if_neg inside, lookup_put, if_pos rfl]

theorem directory_put (other : List String) (there : f.node? other = some .directory) :
    (f.put place node).node? other = some .directory := by
  have apart : other ≠ place := by
    rintro rfl
    exact free there
  rw [node?, lookup_put, if_neg apart]
  exact there

theorem walk_put (here : List String) (names : List String) (goal : List String)
    (leads : f.walk here names = .ok goal) : (f.put place node).walk here names = .ok goal := by
  induction names generalizing here with
  | nil => exact leads
  | cons name rest ih =>
      rw [walk] at leads ⊢
      cases found : f.node? here with
      | none =>
          rw [found] at leads
          cases leads
      | some between =>
          rw [found] at leads
          cases between with
          | directory =>
              rw [directory_put f place node free here found]
              exact ih _ leads
          | text content => cases leads
          | database d => cases leads

theorem follow_put (path : String) (goal : List String) (leads : f.follow path = .ok goal) :
    (f.put place node).follow path = .ok goal :=
  walk_put f place node free _ _ goal leads

end Put

theorem locate_ok (f : Files) (path : String) (place : List String) (found : f.locate path = .ok place) :
    path ≠ "" ∧ f.follow path = .ok place := by
  rw [locate] at found
  by_cases unnamed : path = ""
  · rw [if_pos unnamed] at found
    cases found
  · rw [if_neg unnamed] at found
    cases leads : f.follow path with
    | error fault =>
        rw [leads] at found
        cases found
    | ok goal =>
        rw [leads] at found
        refine ⟨unnamed, ?_⟩
        dsimp only at found
        split at found
        · split at found <;> cases found
          rfl
        · cases found
          rfl

theorem is_directory_iff (f : Files) (path : String) : f.isDirectory path = true ↔
    path ≠ "" ∧ ∃ place, f.follow path = .ok place ∧ f.node? place = some .directory := by
  constructor
  · intro there
    rw [isDirectory, at?] at there
    cases found : f.locate path with
    | error fault => simp [found] at there
    | ok place =>
        obtain ⟨named, leads⟩ := locate_ok f path place found
        refine ⟨named, place, leads, ?_⟩
        rw [found] at there
        dsimp only at there
        split at there
        · assumption
        · cases there
  · rintro ⟨named, place, leads, there⟩
    have found : f.locate path = .ok place := by
      rw [locate, if_neg named, leads]
      dsimp only
      rw [there]
      exact ite_self _
    rw [isDirectory, at?, found]
    dsimp only
    rw [there]

theorem is_directory_put (f : Files) (place : List String) (node : FileNode) (free : f.node? place ≠ some .directory)
    (path : String) (there : f.isDirectory path = true) : (f.put place node).isDirectory path = true := by
  obtain ⟨named, goal, leads, directory⟩ := (is_directory_iff f path).1 there
  exact (is_directory_iff _ path).2
    ⟨named, goal, follow_put f place node free path goal leads, directory_put f place node free goal directory⟩

theorem make_directory_existing (f : Files) (path : String) (there : f.isDirectory path = true) :
    f.makeDirectory path = .error .exists_ := by
  rw [isDirectory, at?] at there
  rw [makeDirectory]
  cases found : f.locate path with
  | error fault => simp [found] at there
  | ok place =>
      rw [found] at there
      dsimp only at there ⊢
      cases node : f.node? place with
      | none => simp [node] at there
      | some _ => rfl

theorem make_directories_existing (f : Files) (path : String) (there : f.isDirectory path = true) :
    f.makeDirectories path = .ok f := by
  have kept : f.orExisting path (.error .exists_) = .ok f := if_pos there
  rw [makeDirectories]
  cases (Path.pieces path).length with
  | zero =>
      rw [makeDirectoriesFrom, make_directory_existing f path there]
      exact kept
  | succ depth =>
      rw [makeDirectoriesFrom, make_directory_existing f path there]
      exact kept

theorem or_existing_directory (f g : Files) (path : String) (made : f.orExisting path (f.makeDirectory path) = .ok g) :
    g.isDirectory path = true := by
  cases tried : f.makeDirectory path with
  | error fault =>
      rw [tried, orExisting] at made
      by_cases there : f.isDirectory path = true
      · rw [if_pos there] at made
        cases made
        exact there
      · rw [if_neg there] at made
        cases made
  | ok h =>
      rw [tried, orExisting] at made
      cases made
      rw [makeDirectory] at tried
      cases found : f.locate path with
      | error fault =>
          rw [found] at tried
          cases tried
      | ok place =>
          rw [found] at tried
          dsimp only at tried
          cases nothing : f.node? place with
          | some node => simp [nothing] at tried
          | none =>
              obtain ⟨named, leads⟩ := locate_ok f path place found
              have free : f.node? place ≠ some .directory := by simp [nothing]
              simp only [nothing, Option.isSome_none, Bool.false_eq_true, if_false] at tried
              cases tried
              exact (is_directory_iff _ path).2 ⟨named, place, follow_put f place _ free path place leads,
                node_put_here f place _ free⟩

theorem make_directories_directory (f g : Files) (path : String) (made : f.makeDirectories path = .ok g) :
    g.isDirectory path = true := by
  rw [makeDirectories] at made
  cases depth : (Path.pieces path).length with
  | zero =>
      rw [depth, makeDirectoriesFrom] at made
      exact or_existing_directory f g path made
  | succ depth' =>
      rw [depth, makeDirectoriesFrom] at made
      split at made
      · split at made
        · cases made
        · -- the directory above was made first, if the path names one
          dsimp only at made
          split at made
          · obtain ⟨h, -, made⟩ := (bind_ok_iff _ _ _).1 made
            exact or_existing_directory h g path made
          · obtain ⟨h, -, made⟩ := (bind_ok_iff _ _ _).1 made
            exact or_existing_directory h g path made
      · exact or_existing_directory f g path made

theorem database_ok (f : Files) (path : String) (d : Database) (filed : isUnfiled path = false)
    (found : f.database path = .ok d) :
    ∃ place, f.follow path = .ok place ∧ f.node? place ≠ some .directory := by
  rw [database, if_neg (by simp [filed])] at found
  cases leads : f.follow path with
  | error fault =>
      rw [leads] at found
      cases found
  | ok place =>
      refine ⟨place, rfl, fun directory => ?_⟩
      rw [leads] at found
      dsimp only at found
      rw [directory] at found
      cases found

theorem keep_at (f : Files) (path : String) (d : Database) (place : List String) (filed : isUnfiled path = false)
    (leads : f.follow path = .ok place) : f.keep path d = f.put place (.database d) := by
  rw [keep, if_neg (by simp [filed]), leads]

theorem open_for_records_ok (f g : Files) (path : String) (d : Database)
    (opened : f.openForRecords path = (.ok d, g)) :
    ∃ h : Files, (∀ parent ∈ directoryOf path, h.isDirectory parent = true) ∧ h.database path = .ok d ∧
      g = h.keep path d := by
  have opening : ∀ h : Files, h.openIn path (storeFault path) = (.ok d, g) →
      h.database path = .ok d ∧ g = h.keep path d := by
    intro h opened
    rw [openIn] at opened
    cases found : h.database path with
    | error fault =>
        rw [found] at opened
        cases opened
    | ok e =>
        rw [found] at opened
        cases opened
        exact ⟨rfl, rfl⟩
  rw [openForRecords] at opened
  cases above : directoryOf path with
  | none =>
      rw [above] at opened
      exact ⟨f, (fun _ mem => by cases mem), opening f opened⟩
  | some parent =>
      rw [above] at opened
      dsimp only at opened
      cases made : f.makeDirectories parent with
      | error fault =>
          rw [made] at opened
          cases opened
      | ok h =>
          rw [made] at opened
          refine ⟨h, fun other mem => ?_, opening h opened⟩
          cases mem
          exact make_directories_directory f h parent made

theorem reopened (f g : Files) (path : String) (d e : Database) (filed : isUnfiled path = false)
    (opened : f.openForRecords path = (.ok d, g)) :
    (g.keep path e).openForRecords path = (.ok e, g.keep path e) := by
  obtain ⟨h, directories, found, rfl⟩ := open_for_records_ok f g path d opened
  obtain ⟨place, leads, free⟩ := database_ok h path d filed found
  have followed := follow_put h place (.database d) free path place leads
  rw [keep_at h path d place filed leads, keep_at _ path e place filed followed, put_again]
  have leads' := follow_put h place (.database e) free path place leads
  have here := node_put_here h place (.database e) free
  have again : (h.put place (.database e)).openIn path (storeFault path) = (.ok e, h.put place (.database e)) := by
    rw [openIn, database, if_neg (by simp [filed]), leads']
    dsimp only
    rw [here]
    dsimp only
    rw [keep_at _ path e place filed leads', put_again]
  rw [openForRecords]
  cases above : directoryOf path with
  | none => exact again
  | some parent =>
      have there := is_directory_put h place (.database e) free parent (directories parent above)
      dsimp only
      rw [make_directories_existing _ parent there]
      exact again

theorem keep_opened (f g : Files) (path : String) (d : Database) (filed : isUnfiled path = false)
    (opened : f.openForRecords path = (.ok d, g)) : g.keep path d = g := by
  obtain ⟨h, -, found, rfl⟩ := open_for_records_ok f g path d opened
  obtain ⟨place, leads, free⟩ := database_ok h path d filed found
  have followed := follow_put h place (.database d) free path place leads
  rw [keep_at h path d place filed leads, keep_at _ path d place filed followed, put_again]

end ArchiveSearch.Files

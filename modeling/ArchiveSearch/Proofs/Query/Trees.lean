import ArchiveSearch.Proofs.Query.Naming

namespace ArchiveSearch

set_option autoImplicit false

mutual
def FilterTree.leaves : FilterTree → List Filter
  | .leaf _ filter => [filter]
  | .operator _ _ children => leavesAll children
  | .group _ children => leavesAll children
def FilterTree.leavesAll : List FilterTree → List Filter
  | [] => []
  | child :: rest => child.leaves ++ leavesAll rest
end

namespace Condition

mutual
def leaves : Condition → List Parts
  | .leaf parts => [parts]
  | .join _ children => leavesAll children
def leavesAll : List Condition → List Parts
  | [] => []
  | child :: rest => child.leaves ++ leavesAll rest
end

end Condition

namespace FilterTree

variable (today : Date) (expected found : Option ContentType)

theorem condition_from_leaf (id : Option String) (filter : Filter) (c : Condition)
    (compiled : conditionFrom today expected (.leaf id filter) = .ok (c, found)) :
    ∃ p, filter.parts today = .ok p ∧ c = .leaf p := by
  cases expected with
  | none =>
      obtain ⟨p, parts, same⟩ := (map_ok_iff _ _ _).mp compiled
      exact ⟨p, parts, (Prod.mk.inj same).1.symm⟩
  | some other =>
      rw [conditionFrom] at compiled
      split at compiled
      · obtain ⟨p, parts, same⟩ := (map_ok_iff _ _ _).mp compiled
        exact ⟨p, parts, (Prod.mk.inj same).1.symm⟩
      · cases compiled

theorem condition_from_operator_eq (id : Option String) (connective : Connective) (children : List FilterTree) :
    conditionFrom today expected (.operator id connective children) =
      (conditionsFrom today expected children).map fun all => (.join connective all.1, all.2) := by
  rw [conditionFrom]
  cases conditionsFrom today expected children <;> rfl

theorem condition_from_group_eq (id : Option String) (children : List FilterTree) :
    conditionFrom today expected (.group id children) =
      (conditionsFrom today expected children).map fun all => (.join .and all.1, all.2) := by
  rw [conditionFrom]
  cases conditionsFrom today expected children <;> rfl

theorem conditions_from_cons_eq (child : FilterTree) (rest : List FilterTree) :
    conditionsFrom today expected (child :: rest) =
      child.conditionFrom today expected >>= fun first =>
        (conditionsFrom today first.2 rest).map fun more => (first.1 :: more.1, more.2) := by
  rw [conditionsFrom]
  cases child.conditionFrom today expected with
  | error e => rfl
  | ok first =>
      cases later : conditionsFrom today first.2 rest <;> simp only [later, bind, Except.bind, Except.map]

theorem condition_from_operator (id : Option String) (connective : Connective) (children : List FilterTree)
    (c : Condition) (compiled : conditionFrom today expected (.operator id connective children) = .ok (c, found)) :
    ∃ cs, conditionsFrom today expected children = .ok (cs, found) ∧ c = .join connective cs := by
  rw [condition_from_operator_eq] at compiled
  obtain ⟨⟨cs, last⟩, all, same⟩ := (map_ok_iff _ _ _).mp compiled
  cases same
  exact ⟨cs, all, rfl⟩

theorem condition_from_group (id : Option String) (children : List FilterTree) (c : Condition)
    (compiled : conditionFrom today expected (.group id children) = .ok (c, found)) :
    ∃ cs, conditionsFrom today expected children = .ok (cs, found) ∧ c = .join .and cs := by
  rw [condition_from_group_eq] at compiled
  obtain ⟨⟨cs, last⟩, all, same⟩ := (map_ok_iff _ _ _).mp compiled
  cases same
  exact ⟨cs, all, rfl⟩

theorem conditions_from_cons (child : FilterTree) (rest : List FilterTree) (cs : List Condition)
    (compiled : conditionsFrom today expected (child :: rest) = .ok (cs, found)) :
    ∃ first between more, child.conditionFrom today expected = .ok (first, between) ∧
      conditionsFrom today between rest = .ok (more, found) ∧ cs = first :: more := by
  rw [conditions_from_cons_eq] at compiled
  obtain ⟨⟨first, between⟩, here, others⟩ := (bind_ok_iff _ _ _).mp compiled
  obtain ⟨⟨more, last⟩, later, same⟩ := (map_ok_iff _ _ _).mp others
  cases same
  exact ⟨first, between, more, here, later, rfl⟩

mutual
theorem condition_from_leaves (expected found : Option ContentType) (tree : FilterTree) (c : Condition)
    (compiled : tree.conditionFrom today expected = .ok (c, found)) :
    List.Forall₂ (fun filter p => filter.parts today = .ok p) tree.leaves c.leaves := by
  cases tree with
  | leaf id filter =>
      obtain ⟨p, parts, rfl⟩ := condition_from_leaf today expected found id filter c compiled
      exact .cons parts .nil
  | operator id connective children =>
      obtain ⟨cs, all, rfl⟩ := condition_from_operator today expected found id connective children c compiled
      exact conditions_from_leaves expected found children cs all
  | group id children =>
      obtain ⟨cs, all, rfl⟩ := condition_from_group today expected found id children c compiled
      exact conditions_from_leaves expected found children cs all
theorem conditions_from_leaves (expected found : Option ContentType) (children : List FilterTree)
    (cs : List Condition) (compiled : conditionsFrom today expected children = .ok (cs, found)) :
    List.Forall₂ (fun filter p => filter.parts today = .ok p) (leavesAll children)
      (Condition.leavesAll cs) := by
  cases children with
  | nil =>
      cases compiled
      exact .nil
  | cons child rest =>
      obtain ⟨first, between, more, here, later, rfl⟩ :=
        conditions_from_cons today expected found child rest cs compiled
      exact List.rel_append (condition_from_leaves expected between child first here)
        (conditions_from_leaves between found rest more later)
end

theorem leaves_compiled (expected found : Option ContentType) (tree : FilterTree) (c : Condition)
    (compiled : tree.conditionFrom today expected = .ok (c, found)) :
    ∀ p ∈ c.leaves, ∃ filter ∈ tree.leaves, filter.parts today = .ok p :=
  map_each_ok_mem _ _ _ ((map_each_ok_iff _ _ _).mpr (condition_from_leaves today expected found tree c compiled))

theorem leaves_named (expected found : Option ContentType) (tree : FilterTree) (c : Condition)
    (compiled : tree.conditionFrom today expected = .ok (c, found)) : ∀ p ∈ c.leaves, p.Named := by
  intro p member
  obtain ⟨filter, _, parts⟩ := leaves_compiled today expected found tree c compiled p member
  exact filter.parts_named today p parts

end FilterTree

end ArchiveSearch

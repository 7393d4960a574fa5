import ArchiveSearch.Proofs.Filter.Compilation
import ArchiveSearch.Proofs.Query.Trees

namespace ArchiveSearch

set_option autoImplicit false

def Filter.faultIn? (category : ContentType) (f : Filter) : Option SearchError :=
  if category = f.contentType then ((f.fields.map Prod.snd).find? Column.isMissing).map .invalidField
  else some (.incompatibleContentTypes category.name f.contentType.name)

def categoryOf (fixed : Option ContentType) (filters : List Filter) : Option ContentType :=
  fixed.or (filters.head?.map Filter.contentType)

def firstFault? (fixed : Option ContentType) (filters : List Filter) : Option SearchError :=
  (categoryOf fixed filters).bind fun category => filters.findSome? (Filter.faultIn? category)

theorem category_of_append (fixed : Option ContentType) (xs ys : List Filter) :
    categoryOf fixed (xs ++ ys) = categoryOf (categoryOf fixed xs) ys := by
  rw [categoryOf, categoryOf, categoryOf, List.head?_append, Option.map_or, Option.or_assoc]

theorem category_of_cons (fixed : Option ContentType) (x : Filter) (xs : List Filter) :
    categoryOf fixed (x :: xs) = some (fixed.getD x.contentType) := by
  cases fixed <;> rfl

theorem first_fault_append (fixed : Option ContentType) (xs ys : List Filter) :
    firstFault? fixed (xs ++ ys) = (firstFault? fixed xs).or (firstFault? (categoryOf fixed xs) ys) := by
  unfold firstFault?
  rw [category_of_append]
  cases xs with
  | nil => cases fixed <;> rfl
  | cons x xs =>
      have known : categoryOf (some (fixed.getD x.contentType)) ys = some (fixed.getD x.contentType) := rfl
      rw [category_of_cons, known, Option.bind_some, Option.bind_some, Option.bind_some, List.findSome?_append]

def Walks {α : Type} (fixed : Option ContentType) (filters : List Filter) (x : Outcome (α × Option ContentType)) :
    Prop :=
  match firstFault? fixed filters with
  | some error => x = .error error
  | none => ∃ a, x = .ok (a, categoryOf fixed filters)

section Walks

variable {α β : Type} {fixed : Option ContentType} {xs ys : List Filter} {x : Outcome (α × Option ContentType)}

theorem walks_nothing (a : α) : Walks fixed [] (.ok (a, fixed)) := by
  cases fixed <;> exact ⟨a, rfl⟩

theorem walks_map (walk : Walks fixed xs x) (f : α → β) : Walks fixed xs (x.map fun found => (f found.1, found.2)) := by
  unfold Walks at walk ⊢
  split at walk
  · rw [walk]
    rfl
  · obtain ⟨a, rfl⟩ := walk
    exact ⟨f a, rfl⟩

theorem walks_bind {next : α × Option ContentType → Outcome (β × Option ContentType)} (walk : Walks fixed xs x)
    (rest : ∀ a, Walks (categoryOf fixed xs) ys (next (a, categoryOf fixed xs))) :
    Walks fixed (xs ++ ys) (x >>= next) := by
  unfold Walks at walk
  rw [Walks, first_fault_append, category_of_append]
  split at walk
  case h_1 error fault =>
    rw [fault, walk]
    rfl
  case h_2 fault =>
    obtain ⟨a, rfl⟩ := walk
    rw [fault, Option.none_or]
    exact rest a

end Walks

namespace FilterTree

theorem leaf_walks (today : Date) (far : Date.first.ordinal + 3652 ≤ today.ordinal) (fixed : Option ContentType)
    (id : Option String) (f : Filter) : Walks fixed [f] (conditionFrom today fixed (.leaf id f)) := by
  have needs := f.parts_needs today far
  have fault : firstFault? fixed [f] = f.faultIn? (fixed.getD f.contentType) := by
    rw [firstFault?, category_of_cons, Option.bind_some, List.findSome?_singleton]
  rw [Walks, fault, category_of_cons]
  -- A first filter fixes its own category, and fits it.
  have fitting : fixed.getD f.contentType = f.contentType →
      conditionFrom today fixed (.leaf id f) = (f.parts today).map fun p => (.leaf p, some f.contentType) := by
    intro same
    cases fixed with
    | none => rfl
    | some other =>
        obtain rfl : other = f.contentType := same
        rw [conditionFrom, if_pos rfl]
  unfold Filter.faultIn?
  by_cases same : fixed.getD f.contentType = f.contentType
  · rw [if_pos same, fitting same, same]
    unfold Needs at needs
    split at needs
    case h_1 missing =>
      obtain ⟨p, made⟩ := needs
      rw [missing, made]
      exact ⟨.leaf p, rfl⟩
    case h_2 field missing =>
      rw [missing, needs]
      rfl
  · rw [if_neg same]
    cases fixed with
    | none => exact absurd rfl same
    | some other =>
        have apart : ¬ other = f.contentType := same
        rw [conditionFrom, if_neg apart]
        rfl

mutual
theorem tree_walks (today : Date) (far : Date.first.ordinal + 3652 ≤ today.ordinal) (fixed : Option ContentType)
    (tree : FilterTree) : Walks fixed tree.leaves (conditionFrom today fixed tree) := by
  cases tree with
  | leaf id f => exact leaf_walks today far fixed id f
  | operator id connective children =>
      rw [condition_from_operator_eq]
      exact walks_map (forest_walks today far fixed children) fun found => Condition.join connective found
  | group id children =>
      rw [condition_from_group_eq]
      exact walks_map (forest_walks today far fixed children) fun found => Condition.join .and found
theorem forest_walks (today : Date) (far : Date.first.ordinal + 3652 ≤ today.ordinal) (fixed : Option ContentType)
    (children : List FilterTree) : Walks fixed (leavesAll children) (conditionsFrom today fixed children) := by
  cases children with
  | nil => exact walks_nothing []
  | cons child rest =>
      rw [conditions_from_cons_eq]
      exact walks_bind (tree_walks today far fixed child) fun first =>
        walks_map (forest_walks today far _ rest) (first :: ·)
end

end FilterTree

theorem identifier_iff_present (field : String) :
    Column.isIdentifier field.toList = true ↔ Column.isMissing field = false := by
  unfold Column.isMissing Column.ofField?
  split <;> simp_all

theorem fault_in_none_iff (category : ContentType) (f : Filter) :
    f.faultIn? category = none ↔
      f.contentType = category ∧ ∀ field ∈ f.fields.map Prod.snd, Column.isIdentifier field.toList = true := by
  unfold Filter.faultIn?
  by_cases same : category = f.contentType
  · rw [if_pos same, Option.map_eq_none_iff, List.find?_eq_none]
    simp only [identifier_iff_present, Bool.not_eq_true, same, true_and]
  · rw [if_neg same]
    simp only [Ne.symm same, false_and, reduceCtorEq]

structure FilterTree.Uniform (tree : FilterTree) : Prop where
  category : ∀ f ∈ tree.leaves, ∀ g ∈ tree.leaves, f.contentType = g.contentType
  fields : ∀ f ∈ tree.leaves, ∀ field ∈ f.fields.map Prod.snd, Column.isIdentifier field.toList = true

theorem first_fault_none_iff (tree : FilterTree) : firstFault? none tree.leaves = none ↔ tree.Uniform := by
  cases leaves : tree.leaves with
  | nil =>
      refine ⟨fun _ => ⟨?_, ?_⟩, fun _ => rfl⟩ <;> simp [leaves]
  | cons first rest =>
      rw [firstFault?, category_of_cons, Option.bind_some, Option.getD_none, List.findSome?_eq_none_iff]
      simp only [fault_in_none_iff]
      constructor
      · intro sound
        rw [← leaves] at sound
        exact ⟨fun f mem g mem' => (sound f mem).1.trans (sound g mem').1.symm, fun f mem => (sound f mem).2⟩
      · rintro ⟨category, fields⟩ f mem
        rw [leaves] at category fields
        exact ⟨category f mem first List.mem_cons_self, fields f mem⟩

-- A tree compiles, as a condition and as a query, exactly if it is uniform; the query is against the table of its
-- filters. Any other tree is refused for the first filter with a fault among filters of the first one's category.
theorem compiled_unless_faulty (today : Date) (far : Date.first.ordinal + 3652 ≤ today.ordinal) (tree : FilterTree) :
    (tree.Uniform → ∃ category condition,
      (∀ f ∈ tree.leaves, f.contentType = category) ∧ (tree.leaves = [] → category = .alumni) ∧
      tree.compileCondition today = .ok condition ∧
      tree.compile today = .ok
        { text := "SELECT " ++ category.table ++ ".* FROM " ++ category.table ++ " WHERE " ++ condition.text
          params := condition.params }) ∧
    (¬ tree.Uniform → ∃ category before f after error,
      tree.leaves.head?.map Filter.contentType = some category ∧ tree.leaves = before ++ f :: after ∧
      (∀ g ∈ before, g.faultIn? category = none) ∧ f.faultIn? category = some error ∧
      tree.compileCondition today = .error error ∧ tree.compile today = .error error) := by
  have walk := FilterTree.tree_walks today far none tree
  rw [Walks] at walk
  constructor
  · intro uniform
    rw [(first_fault_none_iff tree).2 uniform] at walk
    obtain ⟨c, made⟩ := walk
    refine ⟨(categoryOf none tree.leaves).getD .alumni, c.query, ?_, ?_, ?_, ?_⟩
    · intro f mem
      cases leaves : tree.leaves with
      | nil =>
          rw [leaves] at mem
          cases mem
      | cons first rest => exact uniform.category f mem first (leaves ▸ List.mem_cons_self)
    · intro empty
      rw [empty]
      rfl
    · rw [FilterTree.compileCondition, FilterTree.condition, made]
      rfl
    · rw [FilterTree.compile, FilterTree.condition, made]
      rfl
  · intro mixed
    cases fault : firstFault? none tree.leaves with
    | none => exact absurd ((first_fault_none_iff tree).1 fault) mixed
    | some error =>
        rw [fault] at walk
        obtain ⟨category, known, found⟩ := Option.bind_eq_some_iff.1 fault
        obtain ⟨before, f, after, leaves, here, sound⟩ := List.findSome?_eq_some_iff.1 found
        refine ⟨category, before, f, after, error, known, leaves, sound, here, ?_, ?_⟩
        · rw [FilterTree.compileCondition, FilterTree.condition, walk]
          rfl
        · rw [FilterTree.compile, FilterTree.condition, walk]
          rfl

def portraits : FilterTree :=
  .operator none .or [.leaf none ((Filter.empty .alumni).withBoolean "deceased" false),
    .group none [.leaf none (Filter.empty .photos)]]

def retired : FilterTree :=
  .group none [.leaf none (Filter.empty .faculty), .leaf none ((Filter.empty .faculty).withBoolean "emeritus" true)]

theorem portraits_refused :
    Date.first.ordinal + 3652 ≤ Filter.leapDay.ordinal ∧
      (∃ f ∈ portraits.leaves, f.faultIn? .alumni = some (.incompatibleContentTypes "alumni" "photos")) ∧
      portraits.compile Filter.leapDay = .error (.incompatibleContentTypes "alumni" "photos") ∧
      ∃ condition, retired.compileCondition Filter.leapDay = .ok condition ∧ retired.compile Filter.leapDay =
        .ok { text := "SELECT faculty.* FROM faculty WHERE " ++ condition.text, params := condition.params } := by
  have far : Date.first.ordinal + 3652 ≤ Filter.leapDay.ordinal := by decide +kernel
  have refused := (compiled_unless_faulty Filter.leapDay far portraits).2
  have compiled := (compiled_unless_faulty Filter.leapDay far retired).1
  have mixed : ¬ portraits.Uniform := by
    rintro ⟨category, -⟩
    exact absurd (category _ List.mem_cons_self _ (List.mem_cons_of_mem _ List.mem_cons_self)) (by decide)
  have uniform : retired.Uniform := (first_fault_none_iff retired).1 (by decide +kernel)
  obtain ⟨category, before, f, after, error, known, leaves, -, fault, -, made⟩ := refused mixed
  obtain ⟨table, condition, about, -, asked, selected⟩ := compiled uniform
  obtain rfl : ContentType.alumni = category := Option.some.inj known
  obtain rfl : ContentType.faculty = table := about _ List.mem_cons_self
  have shown : portraits.compile Filter.leapDay = .error (.incompatibleContentTypes "alumni" "photos") := rfl
  obtain rfl : error = .incompatibleContentTypes "alumni" "photos" := Except.error.inj (made.symm.trans shown)
  exact ⟨far, ⟨f, leaves ▸ List.mem_append_right _ List.mem_cons_self, fault⟩, made, condition, asked, selected⟩

end ArchiveSearch

import Mathlib.Data.List.Forall2

namespace ArchiveSearch

set_option autoImplicit false

theorem bind_ok_iff {ε α β : Type} (x : Except ε α) (f : α → Except ε β) (b : β) :
    x >>= f = .ok b ↔ ∃ a, x = .ok a ∧ f a = .ok b := by
  cases x with
  | error e => simp [bind, Except.bind]
  | ok a => simp [bind, Except.bind]

theorem map_ok_iff {ε α β : Type} (f : α → β) (x : Except ε α) (b : β) :
    x.map f = .ok b ↔ ∃ a, x = .ok a ∧ f a = b := by
  cases x with
  | error e => simp [Except.map]
  | ok a => simp [Except.map]

theorem map_each_ok_iff {ε α β : Type} (f : α → Except ε β) (xs : List α) (ys : List β) :
    xs.mapM f = .ok ys ↔ List.Forall₂ (fun x y => f x = .ok y) xs ys := by
  induction xs generalizing ys with
  | nil =>
      cases ys with
      | nil => simp [pure, Except.pure]
      | cons y ys => simp [pure, Except.pure]
  | cons x xs ih =>
      rw [List.mapM_cons, bind_ok_iff]
      constructor
      · rintro ⟨y, first, rest⟩
        obtain ⟨zs, others, made⟩ := (bind_ok_iff _ _ _).mp rest
        cases made
        exact .cons first ((ih zs).mp others)
      · intro related
        cases related with
        | @cons _ y _ zs first others =>
            exact ⟨y, first, (bind_ok_iff _ _ _).mpr ⟨zs, (ih zs).mpr others, rfl⟩⟩

theorem map_each_ok_mem {ε α β : Type} (f : α → Except ε β) (xs : List α) (ys : List β)
    (made : xs.mapM f = .ok ys) (y : β) (member : y ∈ ys) : ∃ x ∈ xs, f x = .ok y := by
  have related := (map_each_ok_iff f xs ys).mp made
  induction related with
  | nil => cases member
  | cons first _ ih =>
      rcases List.mem_cons.mp member with rfl | later
      · exact ⟨_, List.mem_cons_self, first⟩
      · obtain ⟨x, inside, same⟩ := ih ((map_each_ok_iff _ _ _).mpr ‹_›) later
        exact ⟨x, List.mem_cons_of_mem _ inside, same⟩

theorem map_each_ok_of_mem {ε α β : Type} (f : α → Except ε β) (xs : List α) (ys : List β) (made : xs.mapM f = .ok ys)
    (x : α) (member : x ∈ xs) : ∃ y ∈ ys, f x = .ok y := by
  have related := (map_each_ok_iff f xs ys).mp made
  clear made
  induction related with
  | nil => cases member
  | cons first _ ih =>
      rcases List.mem_cons.mp member with rfl | later
      · exact ⟨_, List.mem_cons_self, first⟩
      · obtain ⟨y, inside, same⟩ := ih later
        exact ⟨y, List.mem_cons_of_mem _ inside, same⟩

theorem map_each_ok_of_forall {ε α β : Type} (f : α → Except ε β) (xs : List α)
    (each : ∀ x ∈ xs, ∃ y, f x = .ok y) : ∃ ys, xs.mapM f = .ok ys := by
  induction xs with
  | nil => exact ⟨[], rfl⟩
  | cons x xs ih =>
      obtain ⟨y, first⟩ := each x List.mem_cons_self
      obtain ⟨ys, rest⟩ := ih fun other mem => each other (List.mem_cons_of_mem _ mem)
      exact ⟨y :: ys, (map_each_ok_iff f (x :: xs) _).mpr (.cons first ((map_each_ok_iff f xs ys).mp rest))⟩

inductive EndsAlike {ε α β : Type} (R : α → β → Prop) : Except ε α → Except ε β → Prop
  | error (e : ε) : EndsAlike R (.error e) (.error e)
  | ok {a : α} {b : β} (related : R a b) : EndsAlike R (.ok a) (.ok b)

namespace EndsAlike

variable {ε α β γ δ : Type} {R : α → β → Prop} {S : γ → δ → Prop}

theorem refl (x : Except ε α) : EndsAlike Eq x x := by
  cases x with
  | error e => exact .error e
  | ok a => exact .ok rfl

theorem of_map (f : α → γ) (g : β → γ) (x : Except ε α) (y : Except ε β) (same : x.map f = y.map g) :
    EndsAlike (fun a b => f a = g b) x y := by
  cases x with
  | error e =>
      cases y with
      | error e' =>
          cases same
          exact .error e
      | ok b => cases same
  | ok a =>
      cases y with
      | error e => cases same
      | ok b => exact .ok (Except.ok.inj same)

theorem map {x : Except ε α} {y : Except ε β} (alike : EndsAlike R x y) (f : α → γ) (g : β → δ)
    (related : ∀ a b, R a b → S (f a) (g b)) : EndsAlike S (x.map f) (y.map g) := by
  cases alike with
  | error e => exact .error e
  | ok pair => exact .ok (related _ _ pair)

theorem map_eq {x : Except ε α} {y : Except ε β} (alike : EndsAlike R x y) (f : α → γ) (g : β → γ)
    (same : ∀ a b, R a b → f a = g b) : x.map f = y.map g := by
  cases alike with
  | error e => rfl
  | ok related => exact congrArg Except.ok (same _ _ related)

theorem bind {x : Except ε α} {y : Except ε β} {f : α → Except ε γ} {g : β → Except ε δ}
    (first : EndsAlike R x y) (rest : ∀ a b, R a b → EndsAlike S (f a) (g b)) : EndsAlike S (x >>= f) (y >>= g) := by
  cases first with
  | error e => exact .error e
  | ok related => exact rest _ _ related

theorem bind_same {f : α → Except ε γ} {g : α → Except ε δ} (x : Except ε α)
    (rest : ∀ a, EndsAlike S (f a) (g a)) : EndsAlike S (x >>= f) (x >>= g) :=
  (refl x).bind fun a _ same => same ▸ rest a

theorem map_each {P : γ → δ → Prop} {f : γ → Except ε α} {g : δ → Except ε β} {xs : List γ} {ys : List δ}
    (paired : List.Forall₂ P xs ys) (each : ∀ x y, P x y → EndsAlike R (f x) (g y)) :
    EndsAlike (List.Forall₂ R) (xs.mapM f) (ys.mapM g) := by
  induction paired with
  | nil => exact .ok .nil
  | cons pair _ ih =>
      rw [List.mapM_cons, List.mapM_cons]
      exact (each _ _ pair).bind fun a b first => ih.bind fun as bs others => .ok (.cons first others)

end EndsAlike

end ArchiveSearch

import ArchiveSearch.Proofs.Formula.Conditions

namespace ArchiveSearch.Formula

set_option autoImplicit false

open Piece (tokensAll SnugAll)

inductive Peels : List Piece → List Piece → Prop
  | nil : Peels [] []
  | token (t : Token) (ps qs : List Piece) (rest : Peels ps qs) : Peels (.token t :: ps) (.token t :: qs)
  | group (inner inner' ps qs : List Piece) (within : Peels inner inner') (rest : Peels ps qs) :
      Peels (.group inner :: ps) (.group inner' :: qs)
  | peel (inner : List Piece) (q : Piece) (ps qs : List Piece) (within : Peels [.group inner] [q])
      (rest : Peels ps qs) : Peels (.group [.group inner] :: ps) (q :: qs)

theorem peels_append (a a' b b' : List Piece) (first : Peels a a') (second : Peels b b') :
    Peels (a ++ b) (a' ++ b') := by
  induction first with
  | nil => exact second
  | token t ps qs _ ih => exact .token t _ _ ih
  | group inner inner' ps qs within _ _ ih => exact .group inner inner' _ _ within ih
  | peel inner q ps qs within _ _ ih => exact .peel inner q _ _ within ih

theorem peels_tokens (ts : List Token) : Peels (ts.map .token) (ts.map .token) := by
  induction ts with
  | nil => exact .nil
  | cons t ts ih => exact .token t _ _ ih

theorem peels_split (a b cs : List Piece) (peels : Peels (a ++ b) cs) :
    ∃ a' b', cs = a' ++ b' ∧ Peels a a' ∧ Peels b b' := by
  induction a generalizing cs with
  | nil => exact ⟨[], cs, rfl, .nil, peels⟩
  | cons p a ih =>
      cases peels with
      | token t _ qs rest =>
          obtain ⟨a', b', rfl, first, second⟩ := ih qs rest
          exact ⟨.token t :: a', b', rfl, .token t _ _ first, second⟩
      | group inner inner' _ qs within rest =>
          obtain ⟨a', b', rfl, first, second⟩ := ih qs rest
          exact ⟨.group inner' :: a', b', rfl, .group _ _ _ _ within first, second⟩
      | peel inner q _ qs within rest =>
          obtain ⟨a', b', rfl, first, second⟩ := ih qs rest
          exact ⟨q :: a', b', rfl, .peel _ _ _ _ within first, second⟩

theorem peels_snug (ps qs : List Piece) (peels : Peels ps qs) (snug : SnugAll ps) : qs = ps := by
  induction peels with
  | nil => rfl
  | token t ps qs _ ih => rw [ih snug.2]
  | group inner inner' ps qs _ _ ihWithin ih => rw [ihWithin snug.1.2, ih snug.2]
  | peel inner q ps qs _ _ _ _ => exact absurd rfl (snug.1.1 inner)

theorem peels_group (ps qs inner : List Piece) (peels : Peels ps qs) (one : ps = [.group inner]) :
    ∃ inner', qs = [.group inner'] := by
  induction peels generalizing inner with
  | nil => cases one
  | token => cases one
  | group _ inner' _ qs _ rest _ _ =>
      cases one
      cases rest
      exact ⟨inner', rfl⟩
  | peel inner₁ q _ qs _ rest ih _ =>
      cases one
      cases rest
      exact ih inner₁ rfl

def Alike (ps qs : List Piece) : Prop :=
  ∀ atoms before held, ∃ done now, Sums atoms ps before held done now ∧ Sums atoms qs before held done now

theorem alike_value (ps qs : List Piece) (alike : Alike ps qs) (atoms : List Piece → Option Bool) :
    value atoms qs = value atoms ps := by
  obtain ⟨done, now, first, second⟩ := alike atoms (some false) (some true)
  rw [value_eq, value_eq, first.last, second.last]

theorem alike_refl (ps : List Piece) (condition : Condition ps) : Alike ps ps := by
  intro atoms before held
  obtain ⟨done, now, sums⟩ := condition_sums atoms ps condition before held
  exact ⟨done, now, sums, sums⟩

theorem alike_closed (ps qs : List Piece) (closed : Closed ps) (closed' : Closed qs)
    (same : ∀ atoms, value atoms qs = value atoms ps) : Alike ps qs := by
  intro atoms before held
  have second := closed_sums atoms qs closed' before held
  rw [same] at second
  exact ⟨_, _, closed_sums atoms ps closed before held, second⟩

theorem condition_peeled (ps qs : List Piece) (condition : Condition ps) (peels : Peels ps qs) :
    Condition qs ∧ Alike ps qs := by
  induction condition generalizing qs with
  | atom o atom =>
      have same := peels_snug o qs peels atom.snug
      subst same
      exact ⟨.atom qs atom, alike_refl qs (.atom qs atom)⟩
  | constant b =>
      have snug : SnugAll (constant b) := by
        cases b <;> exact ⟨trivial, trivial, trivial, trivial⟩
      have same := peels_snug _ qs peels snug
      subst same
      exact ⟨.constant b, alike_refl _ (.constant b)⟩
  | group pieces inner ih =>
      cases peels with
      | group _ inner' _ _ within rest =>
          cases rest
          obtain ⟨condition', alike⟩ := ih inner' within
          refine ⟨.group inner' condition', alike_closed _ _ (group_closed _) (group_closed _) fun atoms => ?_⟩
          rw [value_group, value_group, alike_value pieces inner' alike]
      | peel inner₁ q _ _ within rest =>
          cases rest
          obtain ⟨condition', alike⟩ := ih [q] within
          obtain ⟨inner', same⟩ := peels_group _ _ inner₁ within rfl
          cases same
          refine ⟨condition', alike_closed _ _ (group_closed _) (group_closed _) fun atoms => ?_⟩
          rw [value_group atoms [.group inner₁], alike_value _ _ alike]
  | joined left right t connects first second ihFirst ihSecond =>
      obtain ⟨left', rest, rfl, peelsLeft, peelsRest⟩ := peels_split left _ qs peels
      cases peelsRest with
      | token _ _ right' peelsRight =>
          obtain ⟨conditionLeft, alikeLeft⟩ := ihFirst left' peelsLeft
          obtain ⟨conditionRight, alikeRight⟩ := ihSecond right' peelsRight
          refine ⟨.joined left' right' t connects conditionLeft conditionRight, fun atoms before held => ?_⟩
          obtain ⟨done, now, sums, sums'⟩ := alikeLeft atoms before held
          rcases connects with conjoins | disjoins
          · obtain ⟨last, now', others, others'⟩ := alikeRight atoms done now
            exact ⟨last, now',
              sums_joined _ _ _ _ _ _ _ _ _ _ (fun rest => sums.beforeAnd t rest conjoins) others,
              sums_joined _ _ _ _ _ _ _ _ _ _ (fun rest => sums'.beforeAnd t rest conjoins) others'⟩
          · obtain ⟨last, now', others, others'⟩ := alikeRight atoms (either done now) (some true)
            exact ⟨last, now',
              sums_joined _ _ _ _ _ _ _ _ _ _ (fun rest => sums.beforeOr t rest disjoins) others,
              sums_joined _ _ _ _ _ _ _ _ _ _ (fun rest => sums'.beforeOr t rest disjoins) others'⟩

end ArchiveSearch.Formula

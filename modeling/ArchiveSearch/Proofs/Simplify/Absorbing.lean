import ArchiveSearch.Proofs.Simplify.Joints

/- Constants beside an operand, in a squeezed condition: the sweep for true operands makes the same of the text with and
   without one, wherever the operand stands and even if it is such a constant itself, and the sweep behind it does so for a
   false operand at the end of a disjunct. What stands before the operand matters only by the state in which the sweep gets
   there. -/
namespace ArchiveSearch.Simplify

set_option autoImplicit false

open Text (isBlank)

structure Regular (x : List Char) : Prop where
  begins : ∀ w, Follows w → Begins (x ++ w)
  unlike : ∀ w rest, Follows w → x ++ w ≠ '1' :: '=' :: '1' :: rest
  leaves : ∀ w, Follows w → sweep andTrue (x ++ w) = sweep andTrue x ++ sweep andTrue w
  ends : Finished (sweep andTrue x)

theorem false_regular : Regular (spelledConstant false) := by
  have alone : sweep andTrue (spelledConstant false) = spelledConstant false := sweep_false [] (by nofun)
  refine ⟨fun w _ => begins_other '0' _ (by decide) (by decide), fun w rest _ same => ?_, fun w follows => ?_, ?_⟩
  · exact absurd (List.cons.inj same).1 (by decide)
  · rw [alone, sweep_false w follows]
  · rw [alone]
    exact ⟨'1', rfl, .inr rfl⟩

theorem strange_regular (x : List Char) (c : Char) (ends : x.getLast? = some c) (strange : Strange c)
    (begins : ∀ w, Follows w → Begins (x ++ w)) (unlike : ∀ rest, x ≠ '1' :: '=' :: '1' :: rest) : Regular x where
  begins := begins
  unlike w rest _ same := by
    match x with
    | [] => cases ends
    | [d] =>
        obtain rfl : d = c := Option.some.inj ends
        exact (strange.2 '1' (by decide)).1 (List.cons.inj same).1
    | [d, e] =>
        obtain rfl : e = c := Option.some.inj ends
        exact (strange.2 '=' (by decide)).1 (List.cons.inj (List.cons.inj same).2).1
    | d :: e :: f :: x =>
        simp only [List.cons_append, List.cons.injEq] at same
        obtain ⟨rfl, rfl, rfl, -⟩ := same
        exact unlike x rfl
  leaves w follows := by
    rw [sweep_apart andTrue and_true_fits x w (and_true_apart x w c ends strange follows), sweep_follows _ w follows]
  ends := ⟨c, sweep_strange_last c strange x ends, .inl strange⟩

inductive Conjunct (x : List Char) : Prop
  | true (same : x = spelledConstant true)
  | regular (regular : Regular x)

theorem conjunct_begins (x w : List Char) (conjunct : Conjunct x) (follows : Follows w) : Begins (x ++ w) := by
  cases conjunct with
  | true same =>
      subst same
      exact true_begins w
  | regular regular => exact regular.begins w follows

def Free (l p : List Char) : Prop :=
  ∀ y, Begins y → sweep andTrue (l ++ y) = p ++ sweep andTrue y

def Joined (l p : List Char) : Prop :=
  Finished p ∧ ∀ y, Begins y → sweep andTrue (l ++ y) = p ++ sweep andTrue (joint .and ++ y)

def Met (u p : List Char) : Prop :=
  Finished p ∧ ∀ w, Follows w → sweep andTrue (u ++ w) = p ++ sweep andTrue w

def Arrives (l : List Char) : Prop :=
  (∃ p, Free l p) ∨ ∃ p, Joined l p

inductive Left : List Char → Prop
  | start : Left []
  | opening (l : List Char) : Left (l ++ ['('])
  | behind (l x : List Char) (connective : Connective) (left : Left l) (conjunct : Conjunct x) :
      Left (l ++ (x ++ joint connective))

theorem arrives_meets (l x : List Char) (arrives : Arrives l) (conjunct : Conjunct x) :
    (∃ p, Met (l ++ x) p) ∨ x = spelledConstant true ∧ ∃ p, Free l p := by
  rcases arrives with ⟨p, free⟩ | ⟨p, ends, joined⟩
  · cases conjunct with
    | true same => exact .inr ⟨same, p, free⟩
    | regular regular =>
        refine .inl ⟨p ++ sweep andTrue x, finished_append p _ regular.ends, fun w follows => ?_⟩
        rw [List.append_assoc, free _ (regular.begins w follows), regular.leaves w follows, List.append_assoc]
  · cases conjunct with
    | true same =>
        subst same
        refine .inl ⟨p, ends, fun w follows => ?_⟩
        rw [List.append_assoc, joined _ (conjunct_begins _ w (.true rfl) follows), ← List.append_assoc (joint .and),
          sweep_true_after w follows]
    | regular regular =>
        have ends' := finished_append p _ (finished_append (joint .and) _ regular.ends)
        refine .inl ⟨p ++ (joint .and ++ sweep andTrue x), ends', fun w follows => ?_⟩
        have begins := regular.begins w follows
        rw [List.append_assoc, joined _ begins, sweep_and _ begins fun rest => regular.unlike w rest follows,
          regular.leaves w follows]
        simp only [List.append_assoc]

theorem left_arrives (l : List Char) (left : Left l) : Arrives l := by
  induction left with
  | start => exact .inl ⟨[], fun y _ => rfl⟩
  | opening l =>
      have wall : Wall '(' := ⟨by decide, by decide, by decide⟩
      refine .inl ⟨sweep andTrue l ++ ['('], fun y _ => ?_⟩
      rw [List.append_assoc, List.singleton_append, sweep_wall andTrue and_true_bounded l y '(' wall, List.append_assoc]
      rfl
  | behind l x connective left conjunct ih =>
      rcases arrives_meets l x ih conjunct with ⟨p, ends, met⟩ | ⟨rfl, p, free⟩
      · cases connective with
        | and =>
            refine .inr ⟨p, ends, fun y begins => ?_⟩
            rw [← List.append_assoc, List.append_assoc (l ++ x), met _ (joint_follows .and y)]
        | or =>
            refine .inl ⟨p ++ joint .or, fun y begins => ?_⟩
            rw [← List.append_assoc, List.append_assoc (l ++ x), met _ (joint_follows .or y), sweep_or y begins,
              List.append_assoc]
      · cases connective with
        | and =>
            refine .inl ⟨p, fun y begins => ?_⟩
            rw [List.append_assoc, List.append_assoc, free _ (true_begins _), ← List.append_assoc,
              sweep_true_before y begins.solid]
        | or =>
            refine .inl ⟨p ++ (spelledConstant true ++ joint .or), fun y begins => ?_⟩
            have disjoined : Disjoined (joint .or ++ y) := .disjunct _
            rw [List.append_assoc, List.append_assoc, free _ (true_begins _), sweep_true_disjoined _ disjoined,
              sweep_or y begins]
            simp only [List.append_assoc]

section Operand

variable (l x w : List Char) (left : Left l) (conjunct : Conjunct x)

include left conjunct

theorem true_after_absorbed (follows : Follows w) :
    sweep andTrue (l ++ (x ++ (joint .and ++ spelledConstant true ++ w))) = sweep andTrue (l ++ (x ++ w)) := by
  have follows' : Follows (joint .and ++ spelledConstant true ++ w) := by
    rw [List.append_assoc]
    exact joint_follows .and _
  rcases arrives_meets l x (left_arrives l left) conjunct with ⟨p, -, met⟩ | ⟨rfl, p, free⟩
  · rw [← List.append_assoc l x, ← List.append_assoc l x, met _ follows', met w follows, sweep_true_after w follows]
  · rw [free _ (conjunct_begins _ _ conjunct follows'), free _ (conjunct_begins _ w conjunct follows),
      List.append_assoc (joint .and), ← List.append_assoc (spelledConstant true),
      sweep_true_before _ (true_begins w).solid]

theorem true_before_absorbed (follows : Follows w) :
    sweep andTrue (l ++ (spelledConstant true ++ joint .and ++ (x ++ w))) = sweep andTrue (l ++ (x ++ w)) := by
  have begins := conjunct_begins x w conjunct follows
  have begins' : Begins (spelledConstant true ++ joint .and ++ (x ++ w)) := by
    rw [List.append_assoc]
    exact true_begins _
  have cut := sweep_true_before (x ++ w) begins.solid
  rcases left_arrives l left with ⟨p, free⟩ | ⟨p, -, joined⟩
  · rw [free _ begins', free _ begins, cut]
  · have after := sweep_true_after _ (joint_follows .and (x ++ w))
    rw [joined _ begins', joined _ begins, ← after]
    simp only [List.append_assoc]

theorem disjoined_met :
    ∃ p, Finished p ∧ ∀ w, Disjoined w → sweep andTrue (l ++ (x ++ w)) = p ++ sweep andTrue w := by
  rcases arrives_meets l x (left_arrives l left) conjunct with ⟨p, ends, met⟩ | ⟨rfl, p, free⟩
  · exact ⟨p, ends, fun w disjoined => by rw [← List.append_assoc, met w (disjoined_follows w disjoined)]⟩
  · refine ⟨p ++ spelledConstant true, finished_append p _ ⟨'1', rfl, .inr rfl⟩, fun w disjoined => ?_⟩
    rw [free _ (true_begins w), sweep_true_disjoined w disjoined, List.append_assoc]

end Operand

theorem false_after_absorbed (l x w : List Char) (left : Left l) (conjunct : Conjunct x) (disjoined : Disjoined w) :
    sweep orFalseAfter (sweep andTrue (l ++ (x ++ (joint .or ++ spelledConstant false ++ w)))) =
      sweep orFalseAfter (sweep andTrue (l ++ (x ++ w))) := by
  obtain ⟨p, ends, met⟩ := disjoined_met l x left conjunct
  have follows := disjoined_follows w disjoined
  have kept : sweep andTrue (joint .or ++ spelledConstant false ++ w) =
      joint .or ++ spelledConstant false ++ sweep andTrue w := by
    rw [List.append_assoc, sweep_or _ (false_regular.begins w follows), sweep_false w follows, List.append_assoc]
  have disjoined' : Disjoined (joint .or ++ spelledConstant false ++ w) := .disjunct _
  rw [met _ disjoined', met w disjoined, kept, sweep_false_after p _ ends (sweep_disjoined w disjoined)]

end ArchiveSearch.Simplify

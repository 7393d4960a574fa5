import ArchiveSearch.Proofs.Simplify.Fixpoint
import ArchiveSearch.Proofs.Simplify.Layouts

/- The head of a text that simplifying leaves as it is, whatever stands behind it: nothing that a sweep looks for can begin
   in it, it holds no parenthesis and no quote, and it is squeezed already. -/
namespace ArchiveSearch.Simplify

set_option autoImplicit false

open Text (Cursor Keyword Spells isBlank foldChar)

def Keeps (head : List Char) (pass : List Char → List Char) : Prop :=
  ∀ tail, ∃ left, pass (head ++ tail) = head ++ left

theorem Keeps.then (head : List Char) (first second : List Char → List Char) (keeps : Keeps head first)
    (keeps' : Keeps head second) : Keeps head (second ∘ first) := by
  intro tail
  obtain ⟨left, made⟩ := keeps tail
  obtain ⟨left', made'⟩ := keeps' left
  exact ⟨left', by rw [Function.comp_apply, made, made']⟩

theorem Keeps.iterate (head : List Char) (pass : List Char → List Char) (keeps : Keeps head pass) (n : Nat) :
    Keeps head pass^[n] := by
  induction n with
  | zero => exact fun tail => ⟨tail, rfl⟩
  | succ n ih =>
      rw [Function.iterate_succ]
      exact keeps.then head pass _ ih

def mayBegin (letters v : List Char) : Bool :=
  (v.zip letters).all fun pair => foldChar pair.1 == foldChar pair.2

theorem may_begin_spelled (letters v tail w rest : List Char) (split : v ++ tail = w ++ rest)
    (spelled : w.map foldChar = letters.map foldChar) : mayBegin letters v = true := by
  induction v generalizing letters w with
  | nil => rfl
  | cons c v ih =>
      rw [List.cons_append] at split
      cases letters with
      | nil => rfl
      | cons d letters =>
          cases w with
          | nil => simp at spelled
          | cons c' w =>
              obtain ⟨rfl, behind⟩ := List.cons.inj split
              obtain ⟨same, others⟩ := List.cons.inj spelled
              rw [mayBegin, List.zip_cons_cons, List.all_cons, Bool.and_eq_true, beq_iff_eq]
              exact ⟨same, ih letters w behind others⟩

def mayOpen (v : List Char) : Bool :=
  v.head?.any isBlank && (mayBegin ['A', 'N', 'D'] (v.dropWhile isBlank) || mayBegin ['O', 'R'] (v.dropWhile isBlank)) ||
    mayBegin ['1', '=', '1'] v || mayBegin ['0', '=', '1'] v || mayBegin ['A', 'N', 'D'] v

def Calm (opens : List Char → Bool) : List Char → Prop
  | [] => True
  | c :: rest => opens (c :: rest) = false ∧ Calm opens rest

instance (opens : List Char → Bool) : (head : List Char) → Decidable (Calm opens head)
  | [] => isTrue trivial
  | c :: rest =>
      haveI := instDecidableCalm opens rest
      inferInstanceAs (Decidable (opens (c :: rest) = false ∧ Calm opens rest))

theorem may_begin_behind_blanks (word : Keyword) (b v tail w rest : List Char) (blank : ∀ c ∈ b, isBlank c = true)
    (spelled : Spells word w) (split : v ++ tail = b ++ (w ++ rest)) :
    mayBegin word.letters (v.dropWhile isBlank) = true := by
  induction v generalizing b with
  | nil => rfl
  | cons c v ih =>
      cases b with
      | nil =>
          have solid := spells_solid word w rest spelled
          rw [List.nil_append] at split
          rw [← split] at solid
          rw [List.dropWhile_cons_of_neg (by simpa [Solid] using solid)]
          exact may_begin_spelled word.letters (c :: v) tail w rest split ((Text.spells_iff word w).1 spelled)
      | cons d b =>
          obtain ⟨rfl, behind⟩ := List.cons.inj split
          obtain ⟨here, later⟩ := List.forall_mem_cons.1 blank
          rw [List.dropWhile_cons_of_pos here]
          exact ih b later behind

theorem may_open_appended (joint constant : Keyword) (v tail x rest : List Char) (after : Option Char)
    (joins : joint = .and ∨ joint = .or) (some_ : v ≠ []) (split : v ++ tail = x ++ rest)
    (appended : Appended joint constant x after) : mayOpen v = true := by
  obtain ⟨b, w, b', t, rfl, blanks, spelled, -⟩ := appended
  simp only [List.append_assoc] at split
  have word := may_begin_behind_blanks joint b v tail w _ blanks.2 spelled split
  have first : v.head?.any isBlank = true := by
    obtain ⟨c, v, rfl⟩ := List.exists_cons_of_ne_nil some_
    obtain ⟨d, b, rfl⟩ := List.exists_cons_of_ne_nil blanks.1
    obtain ⟨rfl, -⟩ := List.cons.inj split
    exact blanks.2 c List.mem_cons_self
  rw [mayOpen, first]
  rcases joins with rfl | rfl
  · rw [show mayBegin ['A', 'N', 'D'] _ = true from word]
    rfl
  · rw [show mayBegin ['O', 'R'] _ = true from word, Bool.or_true]
    rfl

theorem may_open_spelled (word : Keyword) (v tail w rest : List Char)
    (first : word = .oneIsOne ∨ word = .zeroIsOne ∨ word = .and) (split : v ++ tail = w ++ rest)
    (spelled : Spells word w) : mayOpen v = true := by
  have begins := may_begin_spelled word.letters v tail w rest split ((Text.spells_iff word w).1 spelled)
  rw [mayOpen]
  rcases first with rfl | rfl | rfl
  · rw [show mayBegin ['1', '=', '1'] v = true from begins, Bool.or_true]
    rfl
  · rw [show mayBegin ['0', '=', '1'] v = true from begins, Bool.or_true]
    rfl
  · rw [show mayBegin ['A', 'N', 'D'] v = true from begins, Bool.or_true]

def Opens (find : Cursor → Option Verdict) : Prop :=
  ∀ before v tail verdict, v ≠ [] → find ⟨before, v ++ tail⟩ = some verdict → mayOpen v = true

theorem and_true_opens : Opens andTrue := by
  intro before v tail verdict some_ found
  obtain ⟨x, rest, split, -, appended | prepended⟩ := and_true_found _ _ found
  · exact may_open_appended .and _ v tail x rest _ (.inl rfl) some_ split appended
  · obtain ⟨t, b, w, b', rfl, -, spelled, -⟩ := prepended
    rw [List.append_assoc] at split
    exact may_open_spelled .oneIsOne v tail t _ (.inl rfl) split spelled

theorem or_false_after_opens : Opens orFalseAfter := by
  intro before v tail verdict some_ found
  obtain ⟨x, rest, split, appended, -⟩ := or_false_after_found _ _ found
  exact may_open_appended .or _ v tail x rest _ (.inr rfl) some_ split appended

theorem or_false_before_opens : Opens orFalseBefore := by
  intro before v tail verdict some_ found
  rcases or_false_before_found _ _ found with ⟨y, x, rest, split, behind, -⟩ | ⟨x, rest, split, prepended, -⟩
  · obtain ⟨w, b, rfl, -, spelled, -⟩ := behind
    rw [List.append_assoc] at split
    exact may_open_spelled .and v tail w _ (.inr (.inr rfl)) split spelled
  · obtain ⟨t, b, w, b', rfl, -, spelled, -⟩ := prepended
    rw [List.append_assoc] at split
    exact may_open_spelled .zeroIsOne v tail t _ (.inr (.inl rfl)) split spelled

theorem sweep_from_calm (find : Cursor → Option Verdict) (opens : Opens find) (before : Option Char)
    (head tail : List Char) (calm : Calm mayOpen head) :
    sweepFrom find 0 false before (head ++ tail) = head ++ sweepFrom find 0 false (lastOr before head) tail := by
  induction head generalizing before with
  | nil => rfl
  | cons c head ih =>
      have nothing : find ⟨before, c :: (head ++ tail)⟩ = none := by
        cases found : find ⟨before, c :: (head ++ tail)⟩ with
        | none => rfl
        | some verdict =>
            have opened := opens before (c :: head) tail verdict (List.cons_ne_nil c head) found
            rw [calm.1] at opened
            cases opened
      rw [List.cons_append, sweepFrom, nothing, last_or_cons, List.cons_append]
      exact congrArg (c :: ·) (ih (some c) calm.2)

theorem drop_neutral_keeps (head : List Char) (calm : Calm mayOpen head) : Keeps head dropNeutral := by
  have sweeps : ∀ find, Opens find → Keeps head (sweep find) := fun find opens tail =>
    ⟨_, sweep_from_calm find opens none head tail calm⟩
  exact (((sweeps _ and_true_opens).then head _ _ (sweeps _ or_false_after_opens)).then head _ _
    (sweeps _ or_false_before_opens))

theorem drop_doubled_keeps (head : List Char) (flat : ∀ c ∈ head, c ≠ '(' ∧ c ≠ ')') : Keeps head dropDoubled := by
  intro tail
  have behind : ∀ i c, Outside (head ++ tail) i c → c = '(' ∨ c = ')' → head.length ≤ i := by
    intro i c outside parenthesis
    by_contra before
    have inside := Nat.lt_of_not_le before
    have here := outside.1
    rw [List.getElem?_append_left inside] at here
    obtain ⟨opening, closing⟩ := flat c (List.mem_of_getElem? here)
    exact parenthesis.elim opening closing
  have kept : dropFrom (outerAt (head ++ tail)) 0 head = head := by
    rw [dropFrom, List.filter_eq_self.2, List.zipIdx_map_fst]
    rintro ⟨c, i⟩ mem
    have inside : i < head.length := by
      simpa using List.snd_lt_of_mem_zipIdx mem
    have stays : i ∉ outerAt (head ++ tail) := by
      intro dropped
      obtain ⟨pair, member, -, ends⟩ := (outer_at_iff _ i).1 dropped
      obtain ⟨opening, closing⟩ := pairs_outside _ pair member
      rcases ends with rfl | rfl
      · exact absurd (behind _ _ opening (.inl rfl)) (Nat.not_le_of_lt inside)
      · exact absurd (behind _ _ closing (.inr rfl)) (Nat.not_le_of_lt inside)
    simpa using stays
  rw [drop_doubled_from, drop_from_append, kept]
  exact ⟨_, rfl⟩

theorem squeeze_from_append (gap : Bool) (before : Option Char) (head tail : List Char) (last : Char)
    (solid : isBlank last = false) (unquoted : ∀ c ∈ head ++ [last], c ≠ '\'' ∧ c ≠ '"') :
    squeezeFrom none gap before (head ++ last :: tail) =
      squeezeFrom none gap before (head ++ [last]) ++ squeezeFrom none false (some last) tail := by
  have open_ : ∀ c, c ≠ '\'' ∧ c ≠ '"' → Query.quoteAfter none c = none := fun c apart => by
    simp [Query.quoteAfter, apart]
  induction head generalizing gap before with
  | nil =>
      have closed := open_ last (unquoted last (by simp))
      by_cases fits : (gap && spaceFits before last) = true
      · simp [squeezeFrom, solid, closed, fits]
      · simp [squeezeFrom, solid, closed, fits]
  | cons c head ih =>
      obtain ⟨here, later⟩ := List.forall_mem_cons.1 unquoted
      rw [List.cons_append, List.cons_append, squeezeFrom, squeezeFrom, open_ c here]
      by_cases blank : isBlank c = true
      · rw [if_pos blank, if_pos blank, ih true before later]
      · by_cases fits : (gap && spaceFits before c) = true
        · simp only [if_neg blank, if_pos fits, ih false (some c) later, List.cons_append]
        · simp only [if_neg blank, if_neg fits, ih false (some c) later, List.cons_append]

structure Settled (head : List Char) : Prop where
  calm : Calm mayOpen head
  flat : ∀ c ∈ head, c ≠ '(' ∧ c ≠ ')'
  unquoted : ∀ c ∈ head, c ≠ '\'' ∧ c ≠ '"'
  squeezed : squeeze head = head
  solid : head.getLast?.any (!isBlank ·) = true

theorem squeeze_keeps (head : List Char) (settled : Settled head) : Keeps head squeeze := by
  intro tail
  have unquoted := settled.unquoted
  have squeezed := settled.squeezed
  obtain ⟨last, final, solid⟩ := (Option.any_eq_true _ _).1 settled.solid
  obtain ⟨init, rfl⟩ := List.getLast?_eq_some_iff.1 final
  refine ⟨squeezeFrom none false (some last) tail, ?_⟩
  rw [squeeze, List.append_assoc, List.singleton_append,
    squeeze_from_append false none init tail last (by simpa using solid) unquoted, ← squeeze, squeezed]

theorem simplify_keeps (head tail : List Char) (settled : Settled head) (text : String)
    (split : text.toList = head ++ tail) : ∃ left, (simplify text).toList = head ++ left := by
  have squeezing := squeeze_keeps head settled
  have round_ : Keeps head round :=
    ((drop_neutral_keeps head settled.calm).then head _ _ (drop_doubled_keeps head settled.flat)).then head _ _ squeezing
  obtain ⟨n, iterated, -⟩ := rounds_iterate ⟨squeeze text.toList, squeeze_idempotent text.toList⟩
  rw [simplify, String.toList_ofList, iterated, split]
  exact (squeezing.then head _ _ (round_.iterate head _ n)) tail

end ArchiveSearch.Simplify

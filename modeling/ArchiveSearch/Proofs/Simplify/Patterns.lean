import ArchiveSearch.Proofs.Text.Folding
import ArchiveSearch.Query.Simplify

namespace ArchiveSearch.Simplify

set_option autoImplicit false

open Text (Cursor Keyword Spells isBlank isBoundary foldChar)

def Blanks (b : List Char) : Prop :=
  b ≠ [] ∧ ∀ c ∈ b, isBlank c = true

-- A connective and a constant behind an operand, with the blanks before them. A word ends behind the constant.
def Appended (joint constant : Keyword) (x : List Char) (after : Option Char) : Prop :=
  ∃ b w b' t, x = b ++ (w ++ (b' ++ t)) ∧ Blanks b ∧ Spells joint w ∧ Blanks b' ∧ Spells constant t ∧
    isBoundary t.getLast? after = true

-- A constant and a connective before an operand, with the blanks after them. A word begins at the constant.
def Prepended (joint constant : Keyword) (before : Option Char) (x : List Char) : Prop :=
  ∃ t b w b', x = t ++ (b ++ (w ++ b')) ∧ isBoundary before t.head? = true ∧ Spells constant t ∧ Blanks b ∧
    Spells joint w ∧ Blanks b'

def AndNext (y : List Char) (after : Option Char) : Prop :=
  ∃ b w, y = b ++ w ∧ Blanks b ∧ Spells .and w ∧ isBoundary w.getLast? after = true

def AndLast (before : Option Char) (y : List Char) : Prop :=
  ∃ w b, y = w ++ b ∧ isBoundary before w.head? = true ∧ Spells .and w ∧ Blanks b

def AndAhead (v : List Char) : Prop :=
  ∃ y past, v = y ++ past ∧ AndNext y past.head?

def AndBehind (u : List Char) : Prop :=
  ∃ past y, u = past ++ y ∧ AndLast past.getLast? y

def Solid (after : Option Char) : Prop :=
  after.all (fun c => !isBlank c) = true

theorem spells_solid (word : Keyword) (x rest : List Char) (spelled : Spells word x) :
    Solid (x ++ rest).head? := by
  obtain ⟨c, x, rfl⟩ := List.exists_cons_of_ne_nil (Text.spells_ne_nil word x spelled)
  exact Text.spells_all (fun c => !isBlank c) (by decide) word _ spelled c List.mem_cons_self

theorem many_blanks (before : Option Char) (b rest : List Char) (blank : ∀ c ∈ b, isBlank c = true)
    (solid : Solid rest.head?) :
    Cursor.manyFrom isBlank before (b ++ rest) = ⟨b.getLast?.or before, rest⟩ := by
  induction b generalizing before with
  | nil =>
      cases rest with
      | nil => rfl
      | cons c rest =>
          have stops : isBlank c = false := by simpa [Solid] using solid
          simp [Cursor.manyFrom, stops]
  | cons c b ih =>
      have later := ih (some c) fun d member => blank d (List.mem_cons_of_mem _ member)
      rw [List.cons_append, Cursor.manyFrom, if_pos (blank c List.mem_cons_self), later, List.getLast?_cons]
      cases b.getLast? <;> rfl

theorem blanks_split (cs : List Char) :
    ∃ b rest, cs = b ++ rest ∧ (∀ c ∈ b, isBlank c = true) ∧ Solid rest.head? := by
  induction cs with
  | nil => exact ⟨[], [], rfl, by simp, rfl⟩
  | cons c cs ih =>
      by_cases blank : isBlank c = true
      · obtain ⟨b, rest, rfl, all, solid⟩ := ih
        exact ⟨c :: b, rest, rfl, List.forall_mem_cons.mpr ⟨blank, all⟩, solid⟩
      · exact ⟨[], c :: cs, rfl, by simp, by simpa [Solid] using blank⟩

theorem blanks_step (before : Option Char) (b rest : List Char) (blanks : Blanks b)
    (solid : Solid rest.head?) : Cursor.blanks ⟨before, b ++ rest⟩ = some ⟨b.getLast?, rest⟩ := by
  obtain ⟨c, b, rfl⟩ := List.exists_cons_of_ne_nil blanks.1
  have here := blanks.2 c List.mem_cons_self
  have later := many_blanks (some c) b rest (fun d member => blanks.2 d (List.mem_cons_of_mem _ member)) solid
  rw [Cursor.blanks, Cursor.some', List.cons_append, Cursor.one, if_pos here, Option.bind_some, Cursor.many,
    later, List.getLast?_cons]
  cases b.getLast? <;> rfl

theorem blanks_found (before : Option Char) (cs : List Char) (last : Cursor)
    (found : Cursor.blanks ⟨before, cs⟩ = some last) :
    ∃ b, cs = b ++ last.rest ∧ Blanks b ∧ last.before = b.getLast? ∧ Solid last.rest.head? := by
  obtain ⟨b, rest, rfl, blank, solid⟩ := blanks_split cs
  cases b with
  | nil =>
      cases rest with
      | nil => cases found
      | cons c rest =>
          have stops : isBlank c = false := by simpa [Solid] using solid
          simp [Cursor.blanks, Cursor.some', Cursor.one, stops] at found
  | cons c b =>
      have blanks : Blanks (c :: b) := ⟨List.cons_ne_nil _ _, blank⟩
      rw [blanks_step before _ rest blanks solid] at found
      cases found
      exact ⟨c :: b, rfl, blanks, rfl, solid⟩

theorem word_cons (d : Char) (w : List Char) (before : Option Char) (c : Char) (cs : List Char) :
    Cursor.word (d :: w) ⟨before, c :: cs⟩ =
      if foldChar c = foldChar d then Cursor.word w ⟨some c, cs⟩ else none := by
  by_cases same : foldChar c = foldChar d <;> simp [Cursor.word, Cursor.one, same]

theorem word_step (w x : List Char) (before : Option Char) (rest : List Char)
    (same : x.map foldChar = w.map foldChar) :
    Cursor.word w ⟨before, x ++ rest⟩ = some ⟨x.getLast?.or before, rest⟩ := by
  induction w generalizing x before with
  | nil =>
      cases x with
      | nil => rfl
      | cons c x => simp at same
  | cons d w ih =>
      cases x with
      | nil => simp at same
      | cons c x =>
          rw [List.map_cons, List.map_cons, List.cons.injEq] at same
          rw [List.cons_append, word_cons, if_pos same.1, ih x (some c) same.2, List.getLast?_cons]
          cases x.getLast? <;> rfl

theorem word_found (w : List Char) (before : Option Char) (cs : List Char) (last : Cursor)
    (found : Cursor.word w ⟨before, cs⟩ = some last) :
    ∃ x, cs = x ++ last.rest ∧ x.map foldChar = w.map foldChar ∧ last.before = x.getLast?.or before := by
  induction w generalizing before cs with
  | nil =>
      cases found
      exact ⟨[], rfl, rfl, rfl⟩
  | cons d w ih =>
      cases cs with
      | nil => cases found
      | cons c cs =>
          rw [word_cons] at found
          by_cases same : foldChar c = foldChar d
          · rw [if_pos same] at found
            obtain ⟨x, rfl, folded, behind⟩ := ih (some c) cs found
            refine ⟨c :: x, rfl, by rw [List.map_cons, List.map_cons, folded, same], ?_⟩
            rw [behind, List.getLast?_cons]
            cases x.getLast? <;> rfl
          · rw [if_neg same] at found
            cases found

theorem boundary_found (at_ last : Cursor) :
    Cursor.boundary at_ = some last ↔ isBoundary at_.before at_.rest.head? = true ∧ last = at_ := by
  rw [Cursor.boundary]
  by_cases edge : isBoundary at_.before at_.rest.head? = true
  · simp [edge, eq_comm]
  · simp [edge]

theorem spelled_step (word : Keyword) (x : List Char) (before : Option Char) (rest : List Char)
    (spelled : Spells word x) : Cursor.word word.letters ⟨before, x ++ rest⟩ = some ⟨x.getLast?, rest⟩ := by
  rw [word_step word.letters x before rest ((Text.spells_iff word x).mp spelled)]
  obtain ⟨last, same⟩ := Option.ne_none_iff_exists'.mp
    (mt List.getLast?_eq_none_iff.mp (Text.spells_ne_nil word x spelled))
  rw [same]
  rfl

theorem spelled_found (word : Keyword) (before : Option Char) (cs : List Char) (last : Cursor)
    (found : Cursor.word word.letters ⟨before, cs⟩ = some last) :
    ∃ x, cs = x ++ last.rest ∧ Spells word x ∧ last.before = x.getLast? := by
  obtain ⟨x, split, folded, behind⟩ := word_found word.letters before cs last found
  have spelled := (Text.spells_iff word x).mpr folded
  refine ⟨x, split, spelled, ?_⟩
  obtain ⟨c, same⟩ := Option.ne_none_iff_exists'.mp
    (mt List.getLast?_eq_none_iff.mp (Text.spells_ne_nil word x spelled))
  rw [behind, same]
  rfl

def overAppended (joint constant : Keyword) (at_ : Cursor) : Option Cursor :=
  Cursor.blanks at_ >>= Cursor.word joint.letters >>= Cursor.blanks >>= Cursor.word constant.letters >>=
    Cursor.boundary

def overPrepended (joint constant : Keyword) (at_ : Cursor) : Option Cursor :=
  Cursor.boundary at_ >>= Cursor.word constant.letters >>= Cursor.blanks >>= Cursor.word joint.letters >>=
    Cursor.blanks

theorem over_appended (joint constant : Keyword) (before : Option Char) (x rest : List Char)
    (appended : Appended joint constant x rest.head?) :
    ∃ behind, overAppended joint constant ⟨before, x ++ rest⟩ = some ⟨behind, rest⟩ := by
  obtain ⟨b, w, b', t, rfl, blanks, spelled, blanks', constant_, edge⟩ := appended
  refine ⟨t.getLast?, ?_⟩
  simp only [overAppended, List.append_assoc, Option.bind_eq_bind,
    blanks_step before b _ blanks (spells_solid joint w _ spelled), Option.bind_some,
    spelled_step joint w _ _ spelled, blanks_step _ b' _ blanks' (spells_solid constant t rest constant_),
    spelled_step constant t _ rest constant_]
  exact (boundary_found _ _).mpr ⟨edge, rfl⟩

theorem over_appended_found (joint constant : Keyword) (at_ last : Cursor)
    (found : overAppended joint constant at_ = some last) :
    ∃ x, at_.rest = x ++ last.rest ∧ Appended joint constant x last.rest.head? := by
  simp only [overAppended, Option.bind_eq_bind, Option.bind_eq_some_iff] at found
  obtain ⟨fourth, ⟨third, ⟨second, ⟨first, step₁, step₂⟩, step₃⟩, step₄⟩, step₅⟩ := found
  obtain ⟨b, split₁, blanks, _, _⟩ := blanks_found _ _ _ step₁
  obtain ⟨w, split₂, spelled, _⟩ := spelled_found _ _ _ _ step₂
  obtain ⟨b', split₃, blanks', _, _⟩ := blanks_found _ _ _ step₃
  obtain ⟨t, split₄, constant_, behind⟩ := spelled_found _ _ _ _ step₄
  obtain ⟨edge, rfl⟩ := (boundary_found _ _).mp step₅
  rw [behind] at edge
  refine ⟨b ++ (w ++ (b' ++ t)), ?_, b, w, b', t, rfl, blanks, spelled, blanks', constant_, edge⟩
  rw [split₁, split₂, split₃, split₄]
  simp only [List.append_assoc]

theorem over_prepended (joint constant : Keyword) (before : Option Char) (x rest : List Char)
    (prepended : Prepended joint constant before x) :
    ∃ last, overPrepended joint constant ⟨before, x ++ rest⟩ = some last := by
  obtain ⟨t, b, w, b', rfl, edge, constant_, blanks, spelled, blanks'⟩ := prepended
  obtain ⟨more, past, rfl, blank, solid⟩ := blanks_split rest
  have all : Blanks (b' ++ more) := by
    refine ⟨List.append_ne_nil_of_left_ne_nil blanks'.1 more, ?_⟩
    intro c member
    exact (List.mem_append.mp member).elim (blanks'.2 c) (blank c)
  have begins : isBoundary before (t ++ (b ++ (w ++ (b' ++ (more ++ past))))).head? = true := by
    rw [List.head?_append_of_ne_nil _ (Text.spells_ne_nil constant t constant_)]
    exact edge
  have last := blanks_step w.getLast? (b' ++ more) past all solid
  rw [List.append_assoc] at last
  refine ⟨⟨(b' ++ more).getLast?, past⟩, ?_⟩
  simp only [overPrepended, List.append_assoc, Option.bind_eq_bind,
    (boundary_found ⟨before, t ++ (b ++ (w ++ (b' ++ (more ++ past))))⟩ _).mpr ⟨begins, rfl⟩, Option.bind_some,
    spelled_step constant t _ _ constant_, blanks_step _ b _ blanks (spells_solid joint w _ spelled),
    spelled_step joint w _ _ spelled]
  exact last

theorem over_prepended_found (joint constant : Keyword) (at_ last : Cursor)
    (found : overPrepended joint constant at_ = some last) :
    ∃ x, at_.rest = x ++ last.rest ∧ Prepended joint constant at_.before x := by
  simp only [overPrepended, Option.bind_eq_bind, Option.bind_eq_some_iff] at found
  obtain ⟨fourth, ⟨third, ⟨second, ⟨first, step₁, step₂⟩, step₃⟩, step₄⟩, step₅⟩ := found
  obtain ⟨edge, rfl⟩ := (boundary_found _ _).mp step₁
  obtain ⟨t, split₁, constant_, _⟩ := spelled_found _ _ _ _ step₂
  obtain ⟨b, split₂, blanks, _, _⟩ := blanks_found _ _ _ step₃
  obtain ⟨w, split₃, spelled, _⟩ := spelled_found _ _ _ _ step₄
  obtain ⟨b', split₄, blanks', _, _⟩ := blanks_found _ _ _ step₅
  rw [split₁, List.head?_append_of_ne_nil _ (Text.spells_ne_nil constant t constant_)] at edge
  refine ⟨t ++ (b ++ (w ++ b')), ?_, t, b, w, b', rfl, edge, constant_, blanks, spelled, blanks'⟩
  rw [split₁, split₂, split₃, split₄]
  simp only [List.append_assoc]

theorem distance_append (at_ last : Cursor) (x : List Char) (split : at_.rest = x ++ last.rest) :
    at_.distance last = x.length := by
  rw [Cursor.distance, split, List.length_append]
  omega

def TrueOperand (before : Option Char) (x : List Char) (after : Option Char) : Prop :=
  Appended .and .oneIsOne x after ∨ Prepended .and .oneIsOne before x

theorem and_true_found (at_ : Cursor) (v : Verdict) (found : andTrue at_ = some v) :
    ∃ x rest, at_.rest = x ++ rest ∧ v = .delete x.length ∧ TrueOperand at_.before x rest.head? := by
  rw [andTrue] at found
  split at found
  · rename_i last appended
    cases found
    obtain ⟨x, split, shape⟩ := over_appended_found .and .oneIsOne at_ last appended
    exact ⟨x, last.rest, split, by rw [distance_append at_ last x split], .inl shape⟩
  · obtain ⟨last, prepended, rfl⟩ := Option.map_eq_some_iff.mp found
    obtain ⟨x, split, shape⟩ := over_prepended_found .and .oneIsOne at_ last prepended
    exact ⟨x, last.rest, split, by rw [distance_append at_ last x split], .inr shape⟩

theorem and_true_finds (before : Option Char) (x rest : List Char)
    (operand : TrueOperand before x rest.head?) : andTrue ⟨before, x ++ rest⟩ ≠ none := by
  rw [andTrue]
  rcases operand with appended | prepended
  · obtain ⟨behind, crossed⟩ := over_appended .and .oneIsOne before x rest appended
    have chain : andTrueAfter ⟨before, x ++ rest⟩ = some ⟨behind, rest⟩ := crossed
    simp [chain]
  · obtain ⟨last, crossed⟩ := over_prepended .and .oneIsOne before x rest prepended
    have chain : andTrueBefore ⟨before, x ++ rest⟩ = some last := crossed
    split
    · simp
    · simp [chain]

theorem and_next_found (at_ last : Cursor)
    (found : (Cursor.blanks at_ >>= wordAnd >>= Cursor.boundary) = some last) :
    ∃ y, at_.rest = y ++ last.rest ∧ AndNext y last.rest.head? := by
  simp only [Option.bind_eq_bind, Option.bind_eq_some_iff] at found
  obtain ⟨second, ⟨first, step₁, step₂⟩, step₃⟩ := found
  obtain ⟨b, split₁, blanks, _, _⟩ := blanks_found _ _ _ step₁
  obtain ⟨w, split₂, spelled, behind⟩ := spelled_found .and _ _ _ step₂
  obtain ⟨edge, rfl⟩ := (boundary_found _ _).mp step₃
  rw [behind] at edge
  refine ⟨b ++ w, ?_, b, w, rfl, blanks, spelled, edge⟩
  rw [split₁, split₂, List.append_assoc]

theorem and_next_finds (before : Option Char) (v : List Char) (ahead : AndAhead v) :
    (Cursor.blanks ⟨before, v⟩ >>= wordAnd >>= Cursor.boundary) ≠ none := by
  obtain ⟨_, past, rfl, b, w, rfl, blanks, spelled, edge⟩ := ahead
  have crossed : wordAnd ⟨b.getLast?, w ++ past⟩ = some ⟨w.getLast?, past⟩ := spelled_step .and w _ past spelled
  have last := (boundary_found ⟨w.getLast?, past⟩ _).mpr ⟨edge, rfl⟩
  simp [List.append_assoc, blanks_step before b _ blanks (spells_solid .and w _ spelled), crossed, last]

theorem or_false_after_found (at_ : Cursor) (v : Verdict) (found : orFalseAfter at_ = some v) :
    ∃ x rest, at_.rest = x ++ rest ∧ Appended .or .zeroIsOne x rest.head? ∧
      ((v = .delete x.length ∧ ¬ AndAhead rest) ∨
        ∃ y past, rest = y ++ past ∧ v = .keep (x ++ y).length ∧ AndNext y past.head?) := by
  obtain ⟨last, chain, verdict⟩ := Option.bind_eq_some_iff.mp found
  obtain ⟨x, split, shape⟩ := over_appended_found .or .zeroIsOne at_ last chain
  refine ⟨x, last.rest, split, shape, ?_⟩
  split at verdict
  · rename_i past ahead
    cases verdict
    obtain ⟨y, splitRest, next⟩ := and_next_found last past ahead
    refine .inr ⟨y, past.rest, splitRest, ?_, next⟩
    rw [distance_append at_ past (x ++ y) (by rw [split, splitRest, List.append_assoc])]
  · rename_i nothing
    cases verdict
    refine .inl ⟨by rw [distance_append at_ last x split], ?_⟩
    intro ahead
    exact and_next_finds last.before last.rest ahead nothing

theorem or_false_after_finds (before : Option Char) (x rest : List Char)
    (appended : Appended .or .zeroIsOne x rest.head?) : orFalseAfter ⟨before, x ++ rest⟩ ≠ none := by
  obtain ⟨behind, crossed⟩ := over_appended .or .zeroIsOne before x rest appended
  have chain : (Cursor.blanks ⟨before, x ++ rest⟩ >>= wordOr >>= Cursor.blanks >>= wordFalse >>=
      Cursor.boundary) = some ⟨behind, rest⟩ := crossed
  rw [orFalseAfter, chain]
  simp only [Option.bind_eq_bind, Option.bind_some]
  split <;> simp

theorem or_false_before_found (at_ : Cursor) (v : Verdict) (found : orFalseBefore at_ = some v) :
    (∃ y x rest, at_.rest = y ++ (x ++ rest) ∧ AndLast at_.before y ∧
        Prepended .or .zeroIsOne y.getLast? x ∧ v = .keep (y ++ x).length) ∨
      ∃ x rest, at_.rest = x ++ rest ∧ Prepended .or .zeroIsOne at_.before x ∧ v = .delete x.length := by
  rw [orFalseBefore] at found
  split at found
  · rename_i past chain
    cases found
    simp only [Option.bind_eq_bind, Option.bind_eq_some_iff] at chain
    obtain ⟨third, ⟨second, ⟨first, step₁, step₂⟩, step₃⟩, step₄⟩ := chain
    obtain ⟨edge, same⟩ := (boundary_found _ _).mp step₁
    rw [same] at step₂
    obtain ⟨w, split₁, spelled, _⟩ := spelled_found .and _ _ _ step₂
    obtain ⟨b, split₂, blanks, behind, _⟩ := blanks_found _ _ _ step₃
    obtain ⟨x, split₃, shape⟩ := over_prepended_found .or .zeroIsOne third past step₄
    have split : at_.rest = (w ++ b) ++ (x ++ past.rest) := by
      rw [split₁, split₂, split₃, List.append_assoc]
    rw [split₁, List.head?_append_of_ne_nil _ (Text.spells_ne_nil .and w spelled)] at edge
    rw [behind, ← List.getLast?_append_of_ne_nil w blanks.1] at shape
    refine .inl ⟨w ++ b, x, past.rest, split, ⟨w, b, rfl, edge, spelled, blanks⟩, shape, ?_⟩
    rw [distance_append at_ past (w ++ b ++ x) (by rw [split]; simp only [List.append_assoc])]
  · obtain ⟨last, chain, rfl⟩ := Option.map_eq_some_iff.mp found
    obtain ⟨x, split, shape⟩ := over_prepended_found .or .zeroIsOne at_ last chain
    exact .inr ⟨x, last.rest, split, shape, by rw [distance_append at_ last x split]⟩

theorem or_false_before_finds (before : Option Char) (x rest : List Char)
    (prepended : Prepended .or .zeroIsOne before x) : orFalseBefore ⟨before, x ++ rest⟩ ≠ none := by
  obtain ⟨last, crossed⟩ := over_prepended .or .zeroIsOne before x rest prepended
  have chain : falseOr ⟨before, x ++ rest⟩ = some last := crossed
  rw [orFalseBefore]
  split
  · simp
  · simp [chain]

end ArchiveSearch.Simplify

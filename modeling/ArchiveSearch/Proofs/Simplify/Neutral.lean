import ArchiveSearch.Proofs.Simplify.Cutting
import ArchiveSearch.Proofs.Simplify.Fixpoint

/- The sweeps keep the truth of a condition: what they cut out decides nothing. The sweep for `0=1 OR` looks for an
   `AND` in front only at the places where it stops; that it misses none follows from what it has passed over since
   its last cut. -/
namespace ArchiveSearch.Simplify

set_option autoImplicit false

open Formula (Condition)
open Text (Cursor Spells isBlank isBoundary isWord isWordSide)
open Token (Letter Letters Ends Ended Unquoted scan)

theorem blank_wordless (c : Char) (blank : isBlank c = true) : isWord c = false := by
  have none_ : ([9, 10, 11, 12, 13, 0x20, 0x85, 0xA0, 0x1680, 0x2000, 0x2001, 0x2002, 0x2003, 0x2004, 0x2005, 0x2006,
      0x2007, 0x2008, 0x2009, 0x200A, 0x2028, 0x2029, 0x202F, 0x205F, 0x3000].all fun n =>
        !Text.inRanges Text.wordRanges n) = true := by
    decide +kernel
  have member : c.toNat ∈ [9, 10, 11, 12, 13, 0x20, 0x85, 0xA0, 0x1680, 0x2000, 0x2001, 0x2002, 0x2003, 0x2004,
      0x2005, 0x2006, 0x2007, 0x2008, 0x2009, 0x200A, 0x2028, 0x2029, 0x202F, 0x205F, 0x3000] := by
    simp only [isBlank, Bool.or_eq_true, Bool.and_eq_true, decide_eq_true_eq, beq_iff_eq] at blank
    simp only [List.mem_cons, List.not_mem_nil, or_false]
    omega
  have here := List.all_eq_true.mp none_ _ member
  simpa [isWord] using here

theorem letterless_wordless (c : Char) (letterless : ¬ Letter c) : isWord c = false := by
  by_cases blank : isBlank c = true
  · exact blank_wordless c blank
  · have plain : Token.isWordChar c = false := by
      simpa [Letter, blank] using letterless
    have small : c.toNat < 128 := by
      simp only [Token.isWordChar, Bool.or_eq_false_iff, decide_eq_false_iff_not] at plain
      omega
    have ascii : ∀ n : Fin 128, Token.isWordChar (Char.ofNat n) = false → isWord (Char.ofNat n) = false := by
      decide
    simpa using ascii ⟨c.toNat, small⟩ (by simpa using plain)

theorem side_wordless (c : Option Char) (letterless : ∀ d, c = some d → ¬ Letter d) : isWordSide c = false := by
  cases c with
  | none => rfl
  | some d => exact letterless_wordless d (letterless d rfl)

theorem and_sides (w : List Char) (spelled : Spells .and w) :
    isWordSide w.head? = true ∧ isWordSide w.getLast? = true := by
  have words : ∀ c ∈ w, isWord c = true := by
    have known : (Text.Keyword.and.letters.all fun d => isWord d && isWord d.toLower) = true := by decide
    intro c member
    obtain ⟨d, inside, same⟩ := Text.spelled_letters _ w spelled c member
    have here := List.all_eq_true.mp known d inside
    rw [Bool.and_eq_true] at here
    rcases same with rfl | rfl
    · exact here.1
    · exact here.2
  have some_ := Text.spells_ne_nil .and w spelled
  constructor
  · rw [List.head?_eq_some_head some_]
    exact words _ (List.head_mem some_)
  · rw [List.getLast?_eq_some_getLast some_]
    exact words _ (List.getLast_mem some_)

theorem and_begins (before : Option Char) (w : List Char) (spelled : Spells .and w)
    (wordless : isWordSide before = false) : isBoundary before w.head? = true := by
  rw [isBoundary, wordless, (and_sides w spelled).1]
  rfl

theorem and_ends (w : List Char) (after : Option Char) (spelled : Spells .and w)
    (wordless : isWordSide after = false) : isBoundary w.getLast? after = true := by
  rw [isBoundary, wordless, (and_sides w spelled).2]
  rfl

theorem and_connects (w : List Char) (spelled : Spells .and w) : Token.isKeyword "and" (.word w) = true :=
  (Token.and_spells w).mpr spelled

theorem or_connects (w : List Char) (spelled : Spells .or w) : Token.isKeyword "or" (.word w) = true :=
  (Token.or_spells w).mpr spelled

theorem true_operand_cut (d x r : List Char) (before : Option Char) (operand : TrueOperand before x r.head?) :
    Same (d ++ (x ++ r)) (d ++ r) := by
  intro ps tells condition
  apply rewritten_tells
  rcases operand with appended | prepended
  · obtain ⟨ts, number, w, spelled, located, tokens, _⟩ :=
      appended_located true .and d x r ps tells condition (by decide) appended
    rw [tokens]
    exact Formula.true_after_deleted ps ts _ _ (and_connects w spelled) located
  · obtain ⟨ts, number, mode, w, _, _, spelled, _, located, tokens⟩ :=
      prepended_located true .and d x r ps before tells condition (by decide) prepended
    rw [tokens]
    exact Formula.true_before_deleted ps ts _ _ (and_connects w spelled) located

theorem false_after_cut (d x r : List Char) (appended : Appended .or .zeroIsOne x r.head?)
    (apart : ¬ AndAhead r) : Same (d ++ (x ++ r)) (d ++ r) := by
  intro ps tells condition
  apply rewritten_tells
  obtain ⟨ts, number, w, spelled, located, tokens, ends, unquoted⟩ :=
    appended_located false .or d x r ps tells condition (by decide) appended
  rw [tokens]
  refine Formula.false_after_deleted ps ts _ _ (or_connects w spelled) located fun t first => ?_
  rw [Bool.eq_false_iff]
  intro conjoins
  obtain ⟨w', rfl⟩ := Token.keyword_word "and" t conjoins
  have spelled' := (Token.and_spells w').mp conjoins
  obtain ⟨ts', same⟩ := List.head?_eq_some_iff.mp first
  obtain ⟨gap, past, rfl, blanks, letters, ends'⟩ := Token.scan_first_word number r w' ts' unquoted same
  refine apart ⟨gap ++ w', past, by simp, gap, w', rfl, ⟨?_, blanks⟩, spelled', ?_⟩
  · rintro rfl
    obtain ⟨c, w', rfl⟩ := List.exists_cons_of_ne_nil (Text.spells_ne_nil .and w' spelled')
    exact ends c rfl (letters c List.mem_cons_self)
  · exact and_ends w' _ spelled' (side_wordless _ ends')

theorem false_before_cut (d x r : List Char) (before : Option Char) (prepended : Prepended .or .zeroIsOne before x)
    (apart : ¬ AndBehind d) : Same (d ++ (x ++ r)) (d ++ r) := by
  intro ps tells condition
  apply rewritten_tells
  obtain ⟨ts, number, mode, w, leads, none_, spelled, unquoted, located, tokens⟩ :=
    prepended_located false .or d x r ps before tells condition (by decide) prepended
  rw [tokens]
  refine Formula.false_before_deleted ps ts _ _ (or_connects w spelled) located fun t last => ?_
  rw [Bool.eq_false_iff]
  intro conjoins
  obtain ⟨w', rfl⟩ := Token.keyword_word "and" t conjoins
  have spelled' := (Token.and_spells w').mp conjoins
  obtain ⟨past, gap, rfl, some_, blanks, ended⟩ :=
    Token.leads_last_word d ts number mode leads unquoted none_ w' last
  exact apart ⟨past, w' ++ gap, rfl, w', gap, rfl, and_begins _ w' spelled' (side_wordless _ ended), spelled',
    some_, blanks⟩

theorem swept_same (find : Cursor → Option Verdict)
    (cuts : ∀ d before x rest, find ⟨before, x ++ rest⟩ = some (.delete x.length) → Same (d ++ (x ++ rest)) (d ++ rest))
    (before : Option Char) (cs out : List Char) (swept : Swept find before cs out) (d : List Char) :
    Same (d ++ cs) (d ++ out) := by
  induction swept generalizing d with
  | done => exact same_refl _
  | pass before c rest out _ _ ih => simpa using ih (d ++ [c])
  | cut before x rest out _ found _ ih => exact same_trans _ _ _ (cuts d before x rest found) (ih d)
  | kept before x rest out _ _ _ ih => simpa using ih (d ++ x)

theorem and_true_same (cs : List Char) : Same cs (sweep andTrue cs) := by
  have swept := sweep_swept andTrue and_true_fits none cs
  refine swept_same andTrue (fun d before x rest found => ?_) none cs _ swept []
  obtain ⟨y, past, split, verdict, operand⟩ := and_true_found _ _ found
  obtain ⟨rfl, rfl⟩ := List.append_inj split (Verdict.delete.inj verdict)
  exact true_operand_cut d x rest before operand

theorem or_false_after_same (cs : List Char) : Same cs (sweep orFalseAfter cs) := by
  have swept := sweep_swept orFalseAfter or_false_after_fits none cs
  refine swept_same orFalseAfter (fun d before x rest found => ?_) none cs _ swept []
  obtain ⟨y, past, split, appended, verdict⟩ := or_false_after_found _ _ found
  rcases verdict with ⟨verdict, apart⟩ | ⟨_, _, _, keep, _⟩
  · obtain ⟨rfl, rfl⟩ := List.append_inj split (Verdict.delete.inj verdict)
    exact false_after_cut d x rest appended apart
  · cases keep

theorem or_false_before_keeps (before : Option Char) (y x rest : List Char) (last : AndLast before y)
    (prepended : Prepended .or .zeroIsOne y.getLast? x) : orFalseBefore ⟨before, y ++ (x ++ rest)⟩ ≠ none := by
  obtain ⟨w, b, rfl, edge, spelled, blanks⟩ := last
  obtain ⟨last, crossed⟩ := over_prepended .or .zeroIsOne _ x rest prepended
  rw [List.getLast?_append_of_ne_nil w blanks.1] at crossed
  have begins : isBoundary before (w ++ (b ++ (x ++ rest))).head? = true := by
    rwa [List.head?_append_of_ne_nil _ (Text.spells_ne_nil .and w spelled)]
  have solid : Solid (x ++ rest).head? := by
    obtain ⟨t, gap, or_, gap', rfl, _, constant, _⟩ := prepended
    rw [List.append_assoc]
    exact spells_solid .zeroIsOne t _ constant
  have first := (boundary_found ⟨before, w ++ (b ++ (x ++ rest))⟩ _).mpr ⟨begins, rfl⟩
  have second : wordAnd ⟨before, w ++ (b ++ (x ++ rest))⟩ = some ⟨w.getLast?, b ++ (x ++ rest)⟩ :=
    spelled_step .and w before _ spelled
  have third := blanks_step w.getLast? b (x ++ rest) blanks solid
  have fourth : falseOr ⟨b.getLast?, x ++ rest⟩ = some last := crossed
  rw [List.append_assoc, orFalseBefore, first]
  simp [second, third, fourth]

theorem kept_letters (before : Option Char) (y x : List Char) (last : AndLast before y)
    (prepended : Prepended .or .zeroIsOne y.getLast? x) :
    '0' ∈ y ++ x ∧ ∀ c ∈ (y ++ x).tail, c ≠ 'A' ∧ c ≠ 'a' := by
  obtain ⟨w, b, rfl, _, spelled, blanks⟩ := last
  obtain ⟨t, gap, or_, gap', rfl, _, constant, blanksGap, spelledOr, blanksGap'⟩ := prepended
  rw [Text.spells_zero t constant]
  have blank : ∀ b, Blanks b → ∀ c ∈ b, c ≠ 'A' ∧ c ≠ 'a' := fun b all c member =>
    ⟨blanks_ne_solid b 'A' all.2 (by decide) c member, blanks_ne_solid b 'a' all.2 (by decide) c member⟩
  have orLetters : ∀ c ∈ or_, c ≠ 'A' ∧ c ≠ 'a' := by
    intro c member
    obtain ⟨d, inside, same⟩ := Text.spelled_letters _ or_ spelledOr c member
    simp only [Text.Keyword.or, List.mem_cons, List.not_mem_nil, or_false] at inside
    rcases inside with rfl | rfl <;> rcases same with rfl | rfl <;> decide
  obtain ⟨first, w, rfl, _⟩ := spells_head .and w 'A' _ rfl spelled
  have andLetters : ∀ c ∈ w, c ≠ 'A' ∧ c ≠ 'a' := by
    have tail : List.Forall₂ (fun c d => c = d ∨ c = d.toLower) w ['N', 'D'] := by
      cases spelled with
      | cons _ tail => exact tail
    intro c member
    obtain ⟨d, inside, same⟩ := Text.spelled_letters _ w tail c member
    simp only [List.mem_cons, List.not_mem_nil, or_false] at inside
    rcases inside with rfl | rfl <;> rcases same with rfl | rfl <;> decide
  refine ⟨by simp, fun c member => ?_⟩
  simp only [List.cons_append, List.nil_append, List.tail_cons, List.mem_append, List.mem_cons] at member
  rcases member with (inW | inB) | rfl | rfl | rfl | inGap | inOr | inGap'
  · exact andLetters c inW
  · exact blank b blanks c inB
  · decide
  · decide
  · decide
  · exact blank gap blanksGap c inGap
  · exact orLetters c inOr
  · exact blank gap' blanksGap' c inGap'

-- No `AND` stands right before a cut in what was passed since the last one: it would have been kept with the
-- constant behind it.
theorem passed_apart (before : Option Char) (m w b x rest : List Char)
    (passed : Passed orFalseBefore before (m ++ (w ++ b)) (x ++ rest))
    (begins : isBoundary (lastOr before m) w.head? = true) (spelled : Spells .and w) (blanks : Blanks b)
    (prepended : Prepended .or .zeroIsOne b.getLast? x) : False := by
  have someW := Text.spells_ne_nil .and w spelled
  have last : AndLast (lastOr before m) (w ++ b) := ⟨w, b, rfl, begins, spelled, blanks⟩
  rw [← List.getLast?_append_of_ne_nil w blanks.1] at prepended
  have keeps := or_false_before_keeps _ _ x rest last prepended
  have place := passed_places orFalseBefore before _ _ passed m (w ++ b) rfl
    (List.append_ne_nil_of_left_ne_nil someW b)
  obtain ⟨first, w, rfl, letter⟩ := spells_head .and w 'A' _ rfl spelled
  have zeroless : '0' ∉ first :: w ++ b := by
    intro member
    rcases List.mem_append.mp member with inW | inB
    · obtain ⟨d, inside, same⟩ := Text.spelled_letters _ _ spelled '0' inW
      simp only [Text.Keyword.and, List.mem_cons, List.not_mem_nil, or_false] at inside
      rcases inside with rfl | rfl | rfl <;> exact absurd same (by decide)
    · exact blanks_ne_solid b '0' blanks.2 (by decide) '0' inB rfl
  generalize ahead : first :: w ++ b = v at place keeps zeroless
  cases place with
  | nothing _ _ nothing => exact keeps nothing
  | kept _ z past _ found =>
      rcases or_false_before_found _ _ found with ⟨y, x', past', split, last', other, keep⟩ | ⟨_, _, _, _, delete⟩
      · rw [List.append_assoc, ← List.append_assoc y] at split
        obtain ⟨rfl, _⟩ := List.append_inj split (Verdict.keep.inj keep)
        exact zeroless (List.mem_append_left _ (kept_letters _ y x' last' other).1)
      · cases delete
  | inside u z z' past someZ someZ' found =>
      rcases or_false_before_found _ _ found with ⟨y, x', past', split, last', other, keep⟩ | ⟨_, _, _, _, delete⟩
      · rw [List.append_assoc, List.append_assoc, ← List.append_assoc z, ← List.append_assoc y] at split
        obtain ⟨same, _⟩ := List.append_inj split (Verdict.keep.inj keep)
        have letters := (kept_letters _ y x' last' other).2
        obtain ⟨c, z, rfl⟩ := List.exists_cons_of_ne_nil someZ
        obtain ⟨d, z', rfl⟩ := List.exists_cons_of_ne_nil someZ'
        obtain ⟨rfl, _⟩ := List.cons.inj ahead
        rw [← same] at letters
        have apart := letters first (by simp)
        rcases letter with rfl | rfl
        · exact apart.1 rfl
        · exact apart.2 rfl
      · cases delete

theorem prepended_ends (before before' : Option Char) (x : List Char)
    (prepended : Prepended .or .zeroIsOne before x) : isWordSide (lastOr before' x) = false := by
  obtain ⟨t, gap, w, gap', rfl, _, _, _, _, blanks⟩ := prepended
  rw [last_or_append, last_or_append, last_or_append, last_or_some _ gap' blanks.1,
    List.getLast?_eq_some_getLast blanks.1]
  exact blank_wordless _ (blanks.2 _ (List.getLast_mem blanks.1))

theorem and_behind_apart (before : Option Char) (d s x rest : List Char)
    (passed : Passed orFalseBefore before s (x ++ rest)) (edge : isWordSide before = false) (ended : Ended d)
    (apart : ¬ AndBehind d) (prepended : Prepended .or .zeroIsOne (lastOr before s) x) : ¬ AndBehind (d ++ s) := by
  rintro ⟨past, _, split, w, b, rfl, begins, spelled, blanks⟩
  have letters := spells_letters .and w spelled (by decide)
  have behind : ∀ m, s = m ++ (w ++ b) → isBoundary (lastOr before m) w.head? = true → False := by
    rintro m rfl begins
    rw [last_or_append, last_or_append, last_or_some _ b blanks.1] at prepended
    exact passed_apart before m w b x rest passed begins spelled blanks prepended
  -- No letter is the last character of `d`, so that the word does not begin there and end in `s`.
  have whole : ∀ past m k, w = m ++ k → d = past ++ m → m = [] := by
    rintro past m k rfl rfl
    by_cases some_ : m = []
    · exact some_
    · refine absurd (letters _ (List.mem_append_left k (List.getLast_mem some_))) (ended _ ?_)
      rw [List.getLast?_append_of_ne_nil past some_, List.getLast?_eq_some_getLast some_]
  rcases List.append_eq_append_iff.mp split with ⟨m, rfl, rfl⟩ | ⟨m, rfl, rest_⟩
  · by_cases start : m = []
    · subst start
      exact behind [] rfl (and_begins _ w spelled edge)
    · refine behind m rfl ?_
      rwa [last_or_some before m start, ← List.getLast?_append_of_ne_nil d start]
  · rcases List.append_eq_append_iff.mp rest_ with ⟨k, rfl, rfl⟩ | ⟨k, rfl, rfl⟩
    · by_cases ends : k = []
      · subst ends
        have empty := whole past w [] (by simp) (by simp)
        exact Text.spells_ne_nil .and w spelled empty
      · exact apart ⟨past, w ++ k, rfl, w, k, rfl, begins, spelled, ends,
          fun c member => blanks.2 c (List.mem_append_left _ member)⟩
    · have empty := whole past m k rfl rfl
      subst empty
      exact behind [] rfl (and_begins _ _ spelled edge)

theorem or_false_before_same_from (d : List Char) (before : Option Char) (cs out : List Char)
    (swept : Swept orFalseBefore before cs out) (edge : isWordSide before = false) (ended : Ended d)
    (apart : ¬ AndBehind d) : Same (d ++ cs) (d ++ out) := by
  rcases swept_first_cut orFalseBefore before cs out swept with
    ⟨rfl, _⟩ | ⟨s, x, rest, out', rfl, rfl, some_, passed, found, later⟩
  · exact same_refl _
  · rcases or_false_before_found _ _ found with ⟨_, _, _, _, _, _, keep⟩ | ⟨y, past, split, prepended, verdict⟩
    · cases keep
    · obtain ⟨rfl, rfl⟩ := List.append_inj split (Verdict.delete.inj verdict)
      have apart' := and_behind_apart before d s x rest passed edge ended apart prepended
      intro ps tells condition
      rw [← List.append_assoc] at tells
      obtain ⟨ts, number, mode, _, leads, none_, _, unquoted, _⟩ :=
        prepended_located false .or (d ++ s) x rest ps _ tells condition (by decide) prepended
      have ended' := Token.leads_ended _ ts number mode leads unquoted none_
      have cut := false_before_cut (d ++ s) x rest _ prepended apart'
      have shorter := List.length_pos_iff.mpr some_
      have others := or_false_before_same_from (d ++ s) _ rest out' later (prepended_ends _ _ x prepended) ended' apart'
      rw [← List.append_assoc]
      exact same_trans _ _ _ cut others ps tells condition
  termination_by cs.length
  decreasing_by
    subst_vars
    simp only [List.length_append]
    omega

theorem or_false_before_same (cs : List Char) : Same cs (sweep orFalseBefore cs) := by
  have swept := sweep_swept orFalseBefore or_false_before_fits none cs
  refine or_false_before_same_from [] none cs _ swept rfl (by simp [Ended]) ?_
  rintro ⟨past, _, split, w, b, rfl, _, _, blanks⟩
  simp only [List.nil_eq, List.append_eq_nil_iff] at split
  exact blanks.1 split.2.2

theorem drop_neutral_same (cs : List Char) : Same cs (dropNeutral cs) :=
  same_trans _ _ _ (and_true_same cs)
    (same_trans _ _ _ (or_false_after_same (sweep andTrue cs)) (or_false_before_same _))

end ArchiveSearch.Simplify

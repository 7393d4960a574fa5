import ArchiveSearch.Proofs.Simplify.NormalForm
import ArchiveSearch.Proofs.Simplify.Spared

/- Tidy texts: no literal, no constant behind an equals sign, and blanks only where squeezing leaves them. A reader that
   knows the last character tells them. All that simplifying finds to do in one is to drop doubled parentheses, and where
   no parenthesis opens right behind another there is nothing to do. -/
namespace ArchiveSearch.Simplify

set_option autoImplicit false

open Text (Cursor isBlank)

inductive Edge where
  | start
  | gap
  | opening
  | sign
  | solid
  deriving DecidableEq

-- What is read last after one character more, in a tidy text. Only in a deep one a parenthesis may open right behind
-- another.
def Edge.next (deep : Bool) (e : Edge) (c : Char) : Option Edge :=
  if c = ' ' then
    if e = .solid ∨ e = .sign then some .gap else none
  else if isBlank c = true ∨ Query.quoteAfter none c ≠ none ∨ e = .sign then none
  else if c = '(' then
    if e = .opening ∧ deep = false then none else some .opening
  else if c = ')' then
    if e = .gap then none else some .solid
  else if c = '=' then some .sign
  else some .solid

def reads (deep : Bool) : Edge → List Char → Option Edge
  | e, [] => some e
  | e, c :: rest => (e.next deep c).bind (reads deep · rest)

variable (deep : Bool)

theorem reads_append (e : Edge) (a b : List Char) : reads deep e (a ++ b) = (reads deep e a).bind (reads deep · b) := by
  induction a generalizing e with
  | nil => rfl
  | cons c a ih =>
      rw [List.cons_append, reads, reads]
      cases e.next deep c with
      | none => rfl
      | some m => exact ih m

theorem reads_cons_some (e last : Edge) (c : Char) (rest : List Char) :
    reads deep e (c :: rest) = some last ↔ ∃ m, e.next deep c = some m ∧ reads deep m rest = some last :=
  Option.bind_eq_some_iff

theorem reads_append_some (e last : Edge) (a b : List Char) :
    reads deep e (a ++ b) = some last ↔ ∃ m, reads deep e a = some m ∧ reads deep m b = some last := by
  rw [reads_append]
  exact Option.bind_eq_some_iff

theorem next_some (e m : Edge) (c : Char) (step : e.next deep c = some m) :
    (c = ' ' ∧ (e = .solid ∨ e = .sign) ∧ m = .gap) ∨
      (isBlank c = false ∧ Query.quoteAfter none c = none ∧ e ≠ .sign ∧ m ≠ .start ∧ m ≠ .gap ∧
        (m = .opening ↔ c = '(') ∧ (c = ')' → e ≠ .gap)) := by
  rw [Edge.next] at step
  by_cases space : c = ' '
  · rw [if_pos space] at step
    by_cases behind : e = .solid ∨ e = .sign
    · rw [if_pos behind] at step
      exact .inl ⟨space, behind, (Option.some.inj step).symm⟩
    · rw [if_neg behind] at step
      cases step
  · rw [if_neg space] at step
    by_cases refused : isBlank c = true ∨ Query.quoteAfter none c ≠ none ∨ e = .sign
    · rw [if_pos refused] at step
      cases step
    · rw [if_neg refused] at step
      rw [not_or, not_or, not_not] at refused
      refine .inr ⟨by simpa using refused.1, refused.2.1, refused.2.2, ?_⟩
      by_cases opening : c = '('
      · subst opening
        rw [if_pos rfl] at step
        split at step
        · cases step
        · obtain rfl := Option.some.inj step
          exact ⟨nofun, nofun, ⟨fun _ => rfl, fun _ => rfl⟩, nofun⟩
      · rw [if_neg opening] at step
        by_cases closing : c = ')'
        · subst closing
          rw [if_pos rfl] at step
          split at step
          · cases step
          · rename_i solid
            obtain rfl := Option.some.inj step
            exact ⟨nofun, nofun, ⟨nofun, nofun⟩, fun _ => solid⟩
        · rw [if_neg closing] at step
          by_cases sign : c = '='
          · rw [if_pos sign] at step
            obtain rfl := Option.some.inj step
            exact ⟨nofun, nofun, ⟨nofun, fun same => absurd same opening⟩, fun same => absurd same closing⟩
          · rw [if_neg sign] at step
            obtain rfl := Option.some.inj step
            exact ⟨nofun, nofun, ⟨nofun, fun same => absurd same opening⟩, fun same => absurd same closing⟩

theorem squeeze_from_reads (e last : Edge) (before : Option Char) (cs : List Char) (read : reads deep e cs = some last)
    (ends : last ≠ .gap) (behind : e ≠ .start → e ≠ .opening → before.any (· != '(') = true) :
    squeezeFrom none (decide (e = .gap)) before cs = if e = .gap then ' ' :: cs else cs := by
  induction cs generalizing e before with
  | nil =>
      obtain rfl := Option.some.inj read
      rw [if_neg ends]
      rfl
  | cons c cs ih =>
      obtain ⟨m, step, later⟩ := (reads_cons_some deep e last c cs).mp read
      rcases next_some deep e m c step with
        ⟨rfl, solid, rfl⟩ | ⟨solid, unquoted, unsigned, notStart, notGap, opens, closes⟩
      · have apart : e ≠ .gap ∧ e ≠ .start ∧ e ≠ .opening := by
          rcases solid with rfl | rfl <;> exact ⟨nofun, nofun, nofun⟩
        have rest := ih .gap before later fun _ _ => behind apart.2.1 apart.2.2
        rw [if_neg apart.1, squeezeFrom, if_pos (by decide)]
        exact rest
      · have rest := ih m (some c) later fun _ notOpening => by simpa using mt opens.mpr notOpening
        rw [if_neg notGap, decide_eq_false notGap] at rest
        rw [squeezeFrom, if_neg (by simp [solid]), unquoted, rest]
        by_cases gap : e = .gap
        · have fits : spaceFits before c = true := by
            have first := behind (by simp [gap]) (by simp [gap])
            have second : c ≠ ')' := fun closing => closes closing gap
            simpa [spaceFits, second] using first
          simp [gap, fits]
        · simp [gap]

theorem squeeze_reads (cs : List Char) (read : reads deep .start cs = some .solid) : squeeze cs = cs :=
  squeeze_from_reads deep .start .solid none cs read nofun (by simp)

theorem reads_signless (e last : Edge) (cs : List Char) (read : reads deep e cs = some last) : ¬ ['=', '1'] <:+: cs := by
  rintro ⟨s, t, rfl⟩
  rw [List.append_assoc] at read
  obtain ⟨m, -, behind⟩ := (reads_append_some deep e last s _).mp read
  obtain ⟨signed, first, more⟩ := (reads_cons_some deep m last '=' _).mp behind
  obtain ⟨_, second, -⟩ := (reads_cons_some deep signed last '1' _).mp more
  have one : signed = .sign := by
    rw [Edge.next, if_neg (by decide)] at first
    split at first
    · cases first
    · exact (Option.some.inj first).symm
  rw [one] at second
  cases second

theorem drop_neutral_reads (cs : List Char) (last : Edge) (read : reads deep .start cs = some last) : dropNeutral cs = cs :=
  drop_neutral_signless cs (reads_signless deep .start last cs read)

theorem drop_doubled_reads (cs : List Char) (last : Edge) (read : reads false .start cs = some last) :
    dropDoubled cs = cs := by
  have apart : ∀ i d, cs[i]? = some '(' → cs[i + 1]? = some d → isBlank d = false ∧ d ≠ '(' := by
    intro i d here next
    obtain ⟨inside, rfl⟩ := List.getElem?_eq_some_iff.mp next
    have split : cs = cs.take i ++ '(' :: cs[i + 1] :: cs.drop (i + 2) := by
      obtain ⟨_, opening⟩ := List.getElem?_eq_some_iff.mp here
      rw [← opening, List.getElem_cons_drop, List.getElem_cons_drop, List.take_append_drop]
    rw [split] at read
    obtain ⟨m, -, behind⟩ := (reads_append_some false .start last _ _).mp read
    obtain ⟨opened, first, more⟩ := (reads_cons_some false m last '(' _).mp behind
    obtain ⟨n, second, -⟩ := (reads_cons_some false opened last _ _).mp more
    rcases next_some false m opened '(' first with ⟨space, -⟩ | ⟨-, -, -, -, -, opens, -⟩
    · exact absurd space (by decide)
    · rw [opens.mpr rfl] at second
      rcases next_some false .opening n _ second with ⟨-, none_, -⟩ | ⟨solid, -⟩
      · exact absurd none_ (by simp)
      · refine ⟨solid, fun same => ?_⟩
        rw [same] at second
        cases second
  have none_ : outerAt cs = [] := by
    rw [List.eq_nil_iff_forall_not_mem]
    intro i dropped
    obtain ⟨pair, member, doubled, -⟩ := (outer_at_iff cs i).mp dropped
    have opening := (pairs_outside cs pair member).1.1
    rw [isDoubled] at doubled
    split at doubled
    · rename_i first ends next _
      have inner := (pairs_outside cs (first, ends) (by simpa using doubled)).1.1
      cases here : cs[pair.1 + 1]? with
      | none =>
          rw [nextSolid, List.drop_eq_nil_of_le (List.getElem?_eq_none_iff.mp here)] at next
          cases next
      | some d =>
          obtain ⟨solid, other⟩ := apart pair.1 d opening here
          have ascii : Text.isAsciiBlank d = false := by
            rw [Bool.eq_false_iff]
            intro blank
            rw [ascii_blank d blank] at solid
            cases solid
          rw [next_solid_here cs _ d here ascii, Option.some.injEq] at next
          rw [← next, here] at inner
          exact other (Option.some.inj inner)
    · cases doubled
  rw [drop_doubled_from, none_, dropFrom, List.filter_eq_self.mpr (by simp), List.zipIdx_map_fst]

theorem simplify_flat (text : String) (read : reads false .start text.toList = some .solid) : simplify text = text := by
  have squeezed := squeeze_reads false text.toList read
  have fixed : round text.toList = text.toList := by
    rw [round, drop_neutral_reads false _ _ read, drop_doubled_reads _ _ read, squeezed]
  rw [simplify, rounds_of_fixed _ fixed squeezed, String.ofList_toList]

def Matched (cs : List Char) : Prop :=
  ∃ layout : Layout, layout.text = cs

def isOther (c : Char) : Bool :=
  c != '(' && c != ')'

theorem layout_append (a b : Layout) : ∃ both : Layout, both.text = a.text ++ b.text := by
  induction a with
  | nil => exact ⟨b, rfl⟩
  | char c ordinary rest ih =>
      obtain ⟨both, made⟩ := ih
      exact ⟨.char c ordinary both, by rw [Layout.text, made, Layout.text, List.cons_append]⟩
  | group inner rest _ ih =>
      obtain ⟨both, made⟩ := ih
      exact ⟨.group inner both, by rw [Layout.text, made, Layout.text]; simp⟩

theorem Matched.append (a b : List Char) (first : Matched a) (second : Matched b) : Matched (a ++ b) := by
  obtain ⟨layout, rfl⟩ := first
  obtain ⟨other, rfl⟩ := second
  exact layout_append layout other

theorem Matched.wrap (cs : List Char) (matched : Matched cs) : Matched ('(' :: (cs ++ [')'])) := by
  obtain ⟨layout, rfl⟩ := matched
  exact ⟨.group layout .nil, rfl⟩

theorem matched_flat (cs : List Char) (ordinary : ∀ c ∈ cs, Ordinary c) : Matched cs := by
  induction cs with
  | nil => exact ⟨.nil, rfl⟩
  | cons c cs ih =>
      obtain ⟨here, later⟩ := List.forall_mem_cons.mp ordinary
      obtain ⟨layout, rfl⟩ := ih later
      exact ⟨.char c here layout, rfl⟩

theorem peeled_matched (layout : Layout) (out : List Char) (peeled : Peeled layout out) : Matched out := by
  induction peeled with
  | nil => exact ⟨.nil, rfl⟩
  | char c ordinary rest t _ ih =>
      obtain ⟨left, rfl⟩ := ih
      exact ⟨.char c ordinary left, rfl⟩
  | kept inner rest t t' _ _ ihInner ihRest =>
      have both := (ihInner.wrap t).append _ t' ihRest
      simpa using both
  | dropped inner q rest t t' _ _ _ ihInner ihRest => exact ihInner.append t t' ihRest

theorem peeled_others (layout : Layout) (out : List Char) (peeled : Peeled layout out) :
    out.filter isOther = layout.text.filter isOther := by
  have opening : isOther '(' = false := by decide
  have closing : isOther ')' = false := by decide
  induction peeled with
  | nil => rfl
  | char c ordinary rest t _ ih => rw [Layout.text, List.filter_cons, List.filter_cons, ih]
  | kept inner rest t t' _ _ ihInner ihRest => simp [Layout.text, opening, closing, ihInner, ihRest]
  | dropped inner q rest t t' _ _ _ ihInner ihRest => simp [Layout.text, opening, closing, ihInner, ihRest]

theorem peeled_head (layout : Layout) (out : List Char) (peeled : Peeled layout out) : out.head? ≠ some ')' := by
  induction peeled with
  | nil => nofun
  | char c ordinary rest t _ _ => simpa using ordinary.1.2
  | kept inner rest t t' _ _ _ _ => simp
  | dropped inner q rest t t' _ _ _ ihInner ihRest =>
      cases t with
      | nil => exact ihRest
      | cons c t => exact ihInner

theorem blanked_reads (inner q : Layout) (last : Edge) (blanked : Blanked inner q)
    (read : reads true .opening inner.text = some last) (ends : last ≠ .gap) : last = .solid := by
  cases blanked with
  | here _ rest blank =>
      obtain ⟨_, -, behind⟩ := (reads_cons_some true _ last _ _).mp read
      obtain ⟨m, -, closing⟩ := (reads_append_some true _ last _ _).mp behind
      obtain ⟨closed, step, later⟩ := (reads_cons_some true m last _ _).mp closing
      have solid : closed = .solid := by
        rw [Edge.next, if_neg (by decide)] at step
        split at step
        · cases step
        · rw [if_neg (by decide), if_pos rfl] at step
          split at step
          · cases step
          · exact (Option.some.inj step).symm
      rw [solid] at later
      cases text : rest.text with
      | nil =>
          rw [text] at later
          exact (Option.some.inj later).symm
      | cons c cs =>
          -- A blank behind the parenthesis: another one cannot follow, and the text cannot end there.
          rw [text] at later blank
          obtain ⟨spaced, first, more⟩ := (reads_cons_some true _ last c cs).mp later
          rcases next_some true .solid spaced c first with ⟨-, -, rfl⟩ | ⟨unblank, -⟩
          · cases cs with
            | nil => exact absurd (Option.some.inj more).symm ends
            | cons d cs =>
                obtain ⟨n, second, -⟩ := (reads_cons_some true _ last d cs).mp more
                rcases next_some true .gap n d second with ⟨-, none_, -⟩ | ⟨unblank, -⟩
                · exact absurd none_ (by simp)
                · rw [blank d (by simp)] at unblank
                  cases unblank
          · rw [blank c (by simp)] at unblank
            cases unblank
  | skip c ordinary rest _ blank later =>
      obtain ⟨m, step, -⟩ := (reads_cons_some true _ last c _).mp read
      rcases next_some true .opening m c step with ⟨-, none_, -⟩ | ⟨unblank, -⟩
      · exact absurd none_ (by simp)
      · rw [blank] at unblank
        cases unblank

theorem reads_unwrapped (e opened : Edge) (cs : List Char) (stood : e.next true '(' = some opened)
    (read : reads true .opening cs = some .solid) (begins : cs.head? ≠ some ')') : reads true e cs = some .solid := by
  cases cs with
  | nil => cases read
  | cons c cs =>
      obtain ⟨m, step, later⟩ := (reads_cons_some true _ _ c cs).mp read
      refine (reads_cons_some true _ _ c cs).mpr ⟨m, ?_, later⟩
      have unsigned : e ≠ .sign := by
        rintro rfl
        cases stood
      have notClosing : c ≠ ')' := by simpa using begins
      rw [Edge.next] at step ⊢
      by_cases space : c = ' '
      · rw [if_pos space] at step
        cases step
      · rw [if_neg space] at step ⊢
        simpa [unsigned, notClosing] using step

theorem peeled_reads (layout : Layout) (out : List Char) (peeled : Peeled layout out) (e last : Edge)
    (read : reads true e layout.text = some last) : reads true e out = some last := by
  induction peeled generalizing e last with
  | nil => exact read
  | char c ordinary rest t _ ih =>
      obtain ⟨m, step, later⟩ := (reads_cons_some true e last c _).mp read
      exact (reads_cons_some true e last c t).mpr ⟨m, step, ih m last later⟩
  | kept inner rest t t' _ _ ihInner ihRest =>
      obtain ⟨opened, step, later⟩ := (reads_cons_some true e last '(' _).mp read
      obtain ⟨m, within, behind⟩ := (reads_append_some true opened last _ _).mp later
      obtain ⟨closed, closing, rest_⟩ := (reads_cons_some true m last ')' _).mp behind
      refine (reads_cons_some true e last '(' _).mpr ⟨opened, step, ?_⟩
      refine (reads_append_some true opened last _ _).mpr ⟨m, ihInner opened m within, ?_⟩
      exact (reads_cons_some true m last ')' _).mpr ⟨closed, closing, ihRest closed last rest_⟩
  | dropped inner q rest t t' blanked within _ ihInner ihRest =>
      obtain ⟨opened, step, later⟩ := (reads_cons_some true e last '(' _).mp read
      obtain ⟨m, inside, behind⟩ := (reads_append_some true opened last _ _).mp later
      obtain ⟨closed, closing, rest_⟩ := (reads_cons_some true m last ')' _).mp behind
      have opening : opened = .opening := by
        rcases next_some true e opened '(' step with ⟨space, -⟩ | ⟨-, -, -, -, -, opens, -⟩
        · exact absurd space (by decide)
        · exact opens.mpr rfl
      have notGap : m ≠ .gap := by
        rintro rfl
        cases closing
      subst opening
      obtain rfl := blanked_reads inner q m blanked inside notGap
      obtain rfl : Edge.solid = closed := Option.some.inj closing
      refine (reads_append_some true e last t t').mpr ⟨.solid, ?_, ihRest .solid last rest_⟩
      exact reads_unwrapped e .opening t step (ihInner .opening .solid inside) (peeled_head inner t within)

structure Nested (cs : List Char) : Prop where
  read : reads true .start cs = some .solid
  matched : Matched cs

theorem nested_round (cs : List Char) (nested : Nested cs) :
    Nested (round cs) ∧ (round cs).Sublist cs ∧ (round cs).filter isOther = cs.filter isOther := by
  obtain ⟨read, layout, rfl⟩ := nested
  have peeled := drop_doubled_peeled layout
  have read' := peeled_reads layout _ peeled .start .solid read
  rw [round, drop_neutral_reads true _ _ read, squeeze_reads true _ read']
  exact ⟨⟨read', peeled_matched layout _ peeled⟩, drop_doubled_sublist _, peeled_others layout _ peeled⟩

theorem nested_rounds (n : Nat) (cs : List Char) (nested : Nested cs) :
    Nested (round^[n] cs) ∧ (round^[n] cs).Sublist cs ∧ (round^[n] cs).filter isOther = cs.filter isOther := by
  induction n generalizing cs with
  | zero => exact ⟨nested, .refl cs, rfl⟩
  | succ n ih =>
      obtain ⟨once, shorter, same⟩ := nested_round cs nested
      obtain ⟨more, shorter', same'⟩ := ih (round cs) once
      rw [Function.iterate_succ_apply]
      exact ⟨more, shorter'.trans shorter, same'.trans same⟩

def balanced : Nat → List Char → Bool
  | depth, [] => depth == 0
  | depth, c :: rest =>
      if c = '(' then balanced (depth + 1) rest
      else if c = ')' then depth != 0 && balanced (depth - 1) rest
      else balanced depth rest

theorem layout_balanced (layout : Layout) (depth : Nat) (rest : List Char) :
    balanced depth (layout.text ++ rest) = balanced depth rest := by
  induction layout generalizing depth rest with
  | nil => rfl
  | char c ordinary others ih => rw [Layout.text, List.cons_append, balanced, if_neg ordinary.1.1, if_neg ordinary.1.2, ih]
  | group inner others ihInner ihOthers =>
      have closes : balanced (depth + 1) (')' :: (others.text ++ rest)) = balanced depth (others.text ++ rest) := rfl
      rw [Layout.text, List.cons_append, balanced, if_pos rfl, List.append_assoc, ihInner, List.cons_append, closes,
        ihOthers]

theorem Matched.balanced (cs : List Char) (matched : Matched cs) : balanced 0 cs = true := by
  obtain ⟨layout, rfl⟩ := matched
  have all := layout_balanced layout 0 []
  rwa [List.append_nil] at all

structure Unwrapped (cs out : List Char) : Prop where
  kept : out.Sublist cs
  others : out.filter isOther = cs.filter isOther
  matched : balanced 0 cs = true
  matchedStill : balanced 0 out = true
  single : ∀ outer ∈ pairs out, ∀ inner ∈ pairs out, ¬ Wraps out outer inner

theorem simplify_single (text : String) :
    ∀ outer ∈ pairs (simplify text).toList, ∀ inner ∈ pairs (simplify text).toList,
      ¬ Wraps (simplify text).toList outer inner := by
  obtain ⟨fixed, squeezed⟩ := simplify_fixed text
  exact (normal_of_fixed _ fixed squeezed).noDoubledPair

theorem simplify_nested (text : String) (nested : Nested text.toList) :
    Unwrapped text.toList (simplify text).toList := by
  have squeezed := squeeze_reads true text.toList nested.read
  obtain ⟨n, iterated, -⟩ := rounds_iterate ⟨squeeze text.toList, squeeze_idempotent text.toList⟩
  have made : (simplify text).toList = round^[n] text.toList := by
    rw [simplify, String.toList_ofList, iterated]
    exact congrArg round^[n] squeezed
  have single := simplify_single text
  rw [made] at single ⊢
  obtain ⟨still, shorter, same⟩ := nested_rounds n text.toList nested
  exact ⟨shorter, same, nested.matched.balanced, still.matched.balanced, single⟩

theorem simplify_untouched (text : String) (same : simplify text = text) (matched : Matched text.toList) :
    Unwrapped text.toList (simplify text).toList := by
  have single := simplify_single text
  rw [same] at single ⊢
  exact ⟨.refl _, rfl, matched.balanced, matched.balanced, single⟩

end ArchiveSearch.Simplify

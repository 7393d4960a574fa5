import ArchiveSearch.Proofs.Formula.Peeling
import ArchiveSearch.Proofs.Simplify.Cutting
import ArchiveSearch.Proofs.Simplify.Layouts

namespace ArchiveSearch.Simplify

set_option autoImplicit false

open Formula (Condition Peels Valuation value)
open Piece (tokensAll PlainAll)
open Text (isBlank)
open Token (Unquoted Mode scan step)

theorem flush_plain (make : List Char → Token) (cs : List Char)
    (plain : ∀ w, make w ≠ .opening ∧ make w ≠ .closing) : ∀ t ∈ Token.flush make cs, t ≠ .opening ∧ t ≠ .closing := by
  cases cs with
  | nil => simp [Token.flush]
  | cons c cs => simpa [Token.flush] using plain (c :: cs).reverse

theorem mode_plain (mode : Mode) : ∀ t ∈ mode.tokens, t ≠ .opening ∧ t ≠ .closing := by
  cases mode with
  | word w => exact flush_plain Token.word w (by simp)
  | symbol s => exact flush_plain Token.symbol s (by simp)
  | quoted => simp [Mode.tokens]

theorem step_ordinary (number : Nat) (mode : Mode) (c : Char) (open_ : mode.isQuoted = false)
    (ordinary : Ordinary c) : ∀ t ∈ (step number mode c).1, t ≠ .opening ∧ t ≠ .closing := by
  obtain ⟨⟨opening, closing⟩, plain⟩ := ordinary
  have pending := mode_plain mode
  have extended : ∀ t ∈ (mode.extend number c).1, t ≠ .opening ∧ t ≠ .closing := by
    cases mode with
    | word w =>
        rw [Mode.extend]
        split
        · simp
        · exact pending
    | symbol s =>
        rw [Mode.extend]
        split
        · exact pending
        · simp
    | quoted => cases open_
  rw [step, if_neg (by simp [open_])]
  split
  · exact pending
  · split
    · simpa [or_imp, forall_and] using pending
    · by_cases comma : c = ','
      · simpa [Token.ofMark, opening, closing, comma, or_imp, forall_and] using pending
      · rw [Token.ofMark, if_neg opening, if_neg closing, if_neg comma]
        simp only [plain, or_self, if_false]
        exact extended

theorem tokens_all_map (ts : List Token) : tokensAll (ts.map .token) = ts := by
  induction ts with
  | nil => rfl
  | cons t ts ih => rw [List.map_cons, tokensAll, ih, Piece.tokens, List.singleton_append]

theorem plain_all_map (ts : List Token) (plain : ∀ t ∈ ts, t ≠ .opening ∧ t ≠ .closing) :
    PlainAll (ts.map .token) := by
  induction ts with
  | nil => trivial
  | cons t ts ih => exact ⟨plain t List.mem_cons_self, ih fun u member => plain u (List.mem_cons_of_mem _ member)⟩

theorem nest_map (ts : List Token) (plain : ∀ t ∈ ts, t ≠ .opening ∧ t ≠ .closing) (inner : List Piece)
    (outer : List (List Piece)) (rest : List Token) :
    Piece.nest inner outer (ts ++ rest) = Piece.nest ((ts.map .token).reverse ++ inner) outer rest := by
  have nested := Piece.nest_tokens_all (ts.map .token) (plain_all_map ts plain) inner outer rest
  rwa [tokens_all_map] at nested

def Closes : Nat → List Char → Prop
  | 0, cs => ∃ layout : Layout, cs = layout.text
  | n + 1, cs => ∃ (layout : Layout) (rest : List Char), cs = layout.text ++ ')' :: rest ∧ Closes n rest

theorem closes_char (n : Nat) (c : Char) (cs : List Char) (ordinary : Ordinary c) (closes : Closes n cs) :
    Closes n (c :: cs) := by
  cases n with
  | zero =>
      obtain ⟨layout, rfl⟩ := closes
      exact ⟨.char c ordinary layout, rfl⟩
  | succ n =>
      obtain ⟨layout, rest, rfl, later⟩ := closes
      exact ⟨.char c ordinary layout, rest, rfl, later⟩

theorem closes_group (n : Nat) (cs : List Char) (closes : Closes (n + 1) cs) : Closes n ('(' :: cs) := by
  obtain ⟨inner, rest, rfl, later⟩ := closes
  cases n with
  | zero =>
      obtain ⟨layout, rfl⟩ := later
      exact ⟨.group inner layout, rfl⟩
  | succ n =>
      obtain ⟨layout, rest, rfl, later⟩ := later
      exact ⟨.group inner layout, rest, by simp [Layout.text], later⟩

theorem nested_closes (number : Nat) (mode : Mode) (cs : List Char) (inner : List Piece)
    (outer : List (List Piece)) (ps : List Piece) (unquoted : Unquoted cs) (open_ : mode.isQuoted = false)
    (nested : Piece.nest inner outer (scan number mode cs) = some ps) : Closes outer.length cs := by
  induction cs generalizing number mode inner outer with
  | nil =>
      rw [scan, ← List.append_nil mode.tokens, nest_map _ (mode_plain mode)] at nested
      cases outer with
      | nil => exact ⟨.nil, rfl⟩
      | cons => cases nested
  | cons c cs ih =>
      obtain ⟨plain, later⟩ := List.forall_mem_cons.mp unquoted
      by_cases opening : c = '('
      · subst opening
        rw [scan, Token.step_opening number mode open_] at nested
        simp only [List.append_assoc, nest_map _ (mode_plain mode), List.singleton_append, Piece.nest] at nested
        exact closes_group _ cs (ih number (.word []) [] _ later rfl nested)
      · by_cases closing : c = ')'
        · subst closing
          rw [scan, Token.step_closing number mode open_] at nested
          simp only [List.append_assoc, nest_map _ (mode_plain mode)] at nested
          cases outer with
          | nil => cases nested
          | cons around outer => exact ⟨.nil, cs, rfl, ih number (.word []) _ _ later rfl nested⟩
        · have ordinary : Ordinary c := ⟨⟨opening, closing⟩, plain⟩
          have keeps := Token.step_keeps_unquoted number mode c open_ plain
          rw [scan] at nested
          simp only [nest_map _ (step_ordinary number mode c open_ ordinary)] at nested
          exact closes_char _ c cs ordinary (ih _ _ _ _ later keeps nested)

theorem tells_layout (cs : List Char) (ps : List Piece) (tells : Tells cs ps) (condition : Condition ps) :
    ∃ layout : Layout, cs = layout.text :=
  nested_closes 0 (.word []) cs [] [] ps (tells_unquoted cs ps tells condition) rfl tells

def scanned (number : Nat) (mode : Mode) : List Char → List Token × Nat × Mode
  | [] => ([], number, mode)
  | c :: rest =>
      let first := step number mode c
      let others := scanned first.2.1 first.2.2 rest
      (first.1 ++ others.1, others.2)

theorem scanned_append (number : Nat) (mode : Mode) (a b : List Char) :
    scanned number mode (a ++ b) =
      ((scanned number mode a).1 ++ (scanned (scanned number mode a).2.1 (scanned number mode a).2.2 b).1,
        (scanned (scanned number mode a).2.1 (scanned number mode a).2.2 b).2) := by
  induction a generalizing number mode with
  | nil => rfl
  | cons c a ih =>
      rw [List.cons_append, scanned, ih, scanned]
      simp

theorem scan_scanned (number : Nat) (mode : Mode) (cs : List Char) :
    scan number mode cs = (scanned number mode cs).1 ++ (scanned number mode cs).2.2.tokens := by
  induction cs generalizing number mode with
  | nil => rfl
  | cons c cs ih =>
      rw [scan, scanned]
      simp only [ih, List.append_assoc]

theorem scanned_apart (number : Nat) (mode : Mode) (c : Char) (rest : List Char) (open_ : mode.isQuoted = false)
    (edge : isBlank c = true ∨ c = '(') :
    scanned number mode (c :: rest) =
      (mode.tokens ++ (scanned number (.word []) (c :: rest)).1, (scanned number (.word []) (c :: rest)).2) := by
  rcases edge with blank | rfl
  · have first : ∀ mode : Mode, mode.isQuoted = false → step number mode c = (mode.tokens, number, .word []) := by
      intro mode open_
      simp [step, open_, blank]
    rw [scanned, scanned, first mode open_, first (.word []) rfl]
    simp [Mode.tokens, Token.flush]
  · rw [scanned, scanned, Token.step_opening number mode open_, Token.step_opening number (.word []) rfl]
    simp [Mode.tokens, Token.flush]

theorem scanned_blanks (number : Nat) (b : List Char) (blank : ∀ c ∈ b, isBlank c = true) :
    scanned number (.word []) b = ([], number, .word []) := by
  induction b with
  | nil => rfl
  | cons c b ih =>
      have first : step number (.word []) c = ([], number, .word []) := by
        simp [step, Mode.isQuoted, blank c List.mem_cons_self, Mode.tokens, Token.flush]
      rw [scanned, first, ih fun d member => blank d (List.mem_cons_of_mem _ member)]
      rfl

theorem peeled_first (layout q : Layout) (t : List Char) (peeled : Peeled layout t) (blanked : Blanked layout q) :
    ∃ c t', t = c :: t' ∧ (isBlank c = true ∨ c = '(') := by
  induction peeled generalizing q with
  | nil => cases blanked
  | char c ordinary rest t _ _ =>
      cases blanked with
      | skip _ _ _ _ blank => exact ⟨c, t, rfl, .inl blank⟩
  | kept inner rest t t' => exact ⟨'(', _, rfl, .inr rfl⟩
  | dropped inner q' rest t t' blankedInner _ _ ih _ =>
      obtain ⟨c, more, rfl, edge⟩ := ih q' blankedInner
      exact ⟨c, more ++ t', rfl, edge⟩

structure PeelsTo (number : Nat) (mode : Mode) (cs t : List Char) (ps qs : List Piece) : Prop where
  first : (scanned number mode cs).1 = tokensAll ps
  second : (scanned number mode t).1 = tokensAll qs
  behind : (scanned number mode t).2 = (scanned number mode cs).2
  open_ : (scanned number mode cs).2.2.isQuoted = false
  plain : PlainAll ps
  peels : Peels ps qs

theorem tokens_all_nil (ps : List Piece) (none_ : tokensAll ps = []) : ps = [] := by
  cases ps with
  | nil => rfl
  | cons p ps => cases p <;> simp [tokensAll, Piece.tokens] at none_

-- Read from the start of a word, a layout that holds nothing but a group gives that group, and nothing is being
-- read behind it.
def Lone (number : Nat) (layout : Layout) (ps : List Piece) : Prop :=
  ∀ q, Blanked layout q →
    (∃ inner, ps = [.group inner]) ∧ (scanned number (.word []) layout.text).2.2 = .word []

theorem blank_behind (number : Nat) (rest : Layout) (t : List Char) (ps qs : List Piece)
    (blank : ∀ c ∈ rest.text, isBlank c = true) (later : PeelsTo number (.word []) rest.text t ps qs) :
    ps = [] ∧ (scanned number (.word []) rest.text).2.2 = .word [] := by
  have nothing := later.first
  rw [scanned_blanks number rest.text blank] at nothing ⊢
  exact ⟨tokens_all_nil ps nothing.symm, rfl⟩

theorem peels_char (number : Nat) (mode : Mode) (c : Char) (cs t : List Char) (ps qs : List Piece)
    (open_ : mode.isQuoted = false) (ordinary : Ordinary c)
    (later : PeelsTo (step number mode c).2.1 (step number mode c).2.2 cs t ps qs) :
    PeelsTo number mode (c :: cs) (c :: t) ((step number mode c).1.map .token ++ ps)
      ((step number mode c).1.map .token ++ qs) where
  first := by rw [scanned, Piece.tokens_all_append, tokens_all_map, ← later.first]
  second := by rw [scanned, Piece.tokens_all_append, tokens_all_map, ← later.second]
  behind := later.behind
  open_ := later.open_
  plain := (Piece.plain_all_append _ _).mpr ⟨plain_all_map _ (step_ordinary number mode c open_ ordinary), later.plain⟩
  peels := Formula.peels_append _ _ _ _ (Formula.peels_tokens _) later.peels

theorem scanned_group (number : Nat) (mode : Mode) (cs rest : List Char) (open_ : mode.isQuoted = false)
    (openInner : (scanned number (.word []) cs).2.2.isQuoted = false) :
    scanned number mode ('(' :: (cs ++ ')' :: rest)) =
      (mode.tokens ++ (.opening :: ((scanned number (.word []) cs).1 ++ (scanned number (.word []) cs).2.2.tokens ++
          .closing :: (scanned (scanned number (.word []) cs).2.1 (.word []) rest).1)),
        (scanned (scanned number (.word []) cs).2.1 (.word []) rest).2) := by
  rw [scanned, Token.step_opening number mode open_]
  simp only [scanned_append]
  rw [scanned, Token.step_closing _ _ openInner]
  simp

theorem peels_kept (number : Nat) (mode : Mode) (inner rest t t' : List Char) (ps qs ps' qs' : List Piece)
    (open_ : mode.isQuoted = false) (within : PeelsTo number (.word []) inner t ps qs)
    (later : PeelsTo (scanned number (.word []) inner).2.1 (.word []) rest t' ps' qs') :
    PeelsTo number mode ('(' :: (inner ++ ')' :: rest)) ('(' :: (t ++ ')' :: t'))
      (mode.tokens.map .token ++ .group (ps ++ (scanned number (.word []) inner).2.2.tokens.map .token) :: ps')
      (mode.tokens.map .token ++ .group (qs ++ (scanned number (.word []) inner).2.2.tokens.map .token) :: qs') := by
  have openT : (scanned number (.word []) t).2.2.isQuoted = false := by
    rw [within.behind]
    exact within.open_
  have group := scanned_group number mode inner rest open_ within.open_
  have groupT := scanned_group number mode t t' open_ openT
  rw [within.behind] at groupT
  have pending := plain_all_map _ (mode_plain (scanned number (.word []) inner).2.2)
  exact {
    first := by
      rw [group]
      simp [tokens_all_map, tokensAll, Piece.tokens, within.first, later.first]
    second := by
      rw [groupT]
      simp [tokens_all_map, tokensAll, Piece.tokens, within.second, later.second]
    behind := by rw [group, groupT, later.behind]
    open_ := by
      rw [group]
      exact later.open_
    plain := (Piece.plain_all_append _ _).mpr ⟨plain_all_map _ (mode_plain mode),
      (Piece.plain_all_append _ _).mpr ⟨within.plain, pending⟩, later.plain⟩
    peels := Formula.peels_append _ _ _ _ (Formula.peels_tokens _)
      (.group _ _ _ _ (Formula.peels_append _ _ _ _ within.peels (Formula.peels_tokens _)) later.peels) }

theorem peels_dropped (number : Nat) (mode : Mode) (inner rest t t' : List Char) (group : List Piece)
    (q : Piece) (ps' qs' : List Piece) (open_ : mode.isQuoted = false)
    (edge : ∃ c more, t = c :: more ∧ (isBlank c = true ∨ c = '('))
    (idle : (scanned number (.word []) inner).2.2 = .word [])
    (within : PeelsTo number (.word []) inner t [.group group] [q])
    (later : PeelsTo (scanned number (.word []) inner).2.1 (.word []) rest t' ps' qs') :
    PeelsTo number mode ('(' :: (inner ++ ')' :: rest)) (t ++ t')
      (mode.tokens.map .token ++ .group [.group group] :: ps') (mode.tokens.map .token ++ q :: qs') := by
  have whole := scanned_group number mode inner rest open_ within.open_
  have none_ : (Mode.word []).tokens = [] := rfl
  rw [idle, none_, List.append_nil] at whole
  obtain ⟨c, more, rfl, edge⟩ := edge
  have peeled := scanned_apart number mode c (more ++ t') open_ edge
  rw [← List.cons_append, scanned_append number (.word []), within.behind, idle] at peeled
  exact {
    first := by
      rw [whole, within.first, later.first]
      simp [tokens_all_map, tokensAll, Piece.tokens]
    second := by
      rw [peeled, within.second, later.second]
      simp [tokens_all_map, tokensAll]
    behind := by rw [whole, peeled, later.behind]
    open_ := by
      rw [whole]
      exact later.open_
    plain := (Piece.plain_all_append _ _).mpr ⟨plain_all_map _ (mode_plain mode), within.plain, later.plain⟩
    peels := Formula.peels_append _ _ _ _ (Formula.peels_tokens _) (.peel _ _ _ _ within.peels later.peels) }

theorem peeled_peels (layout : Layout) (t : List Char) (peeled : Peeled layout t) (number : Nat) (mode : Mode)
    (open_ : mode.isQuoted = false) :
    ∃ ps qs, PeelsTo number mode layout.text t ps qs ∧ (mode = .word [] → Lone number layout ps) := by
  induction peeled generalizing number mode with
  | nil =>
      refine ⟨[], [], ⟨rfl, rfl, rfl, open_, trivial, .nil⟩, fun _ q blanked => ?_⟩
      cases blanked
  | char c ordinary rest t _ ih =>
      have keeps := Token.step_keeps_unquoted number mode c open_ ordinary.2
      obtain ⟨ps, qs, later, lone⟩ := ih _ _ keeps
      refine ⟨_, _, peels_char number mode c rest.text t ps qs open_ ordinary later, ?_⟩
      rintro rfl q blanked
      cases blanked with
      | skip _ _ _ _ blank deeper =>
          have passed : step number (.word []) c = ([], number, .word []) := by
            simp [step, Mode.isQuoted, blank, Mode.tokens, Token.flush]
          rw [passed] at lone ⊢
          rw [Layout.text, scanned, passed]
          exact lone rfl q deeper
  | kept inner rest t t' _ _ ihWithin ihLater =>
      obtain ⟨ps, qs, within, _⟩ := ihWithin number (.word []) rfl
      obtain ⟨ps', qs', later, _⟩ := ihLater (scanned number (.word []) inner.text).2.1 (.word []) rfl
      refine ⟨_, _, peels_kept number mode inner.text rest.text t t' ps qs ps' qs' open_ within later, ?_⟩
      rintro rfl q blanked
      cases blanked with
      | here _ _ blank =>
          obtain ⟨rfl, idle⟩ := blank_behind _ rest t' ps' qs' blank later
          rw [Layout.text, scanned_group number (.word []) _ _ rfl within.open_]
          exact ⟨⟨_, rfl⟩, idle⟩
  | dropped inner q rest t t' blanked peeled _ ihWithin ihLater =>
      obtain ⟨ps, qs, within, lone⟩ := ihWithin number (.word []) rfl
      obtain ⟨⟨group, rfl⟩, idle⟩ := lone rfl q blanked
      obtain ⟨group', rfl⟩ := Formula.peels_group _ qs group within.peels rfl
      obtain ⟨ps', qs', later, _⟩ := ihLater (scanned number (.word []) inner.text).2.1 (.word []) rfl
      have edge := peeled_first inner q t peeled blanked
      refine ⟨_, _, peels_dropped number mode inner.text rest.text t t' group _ ps' qs' open_ edge idle within later, ?_⟩
      rintro rfl q' blanked'
      cases blanked' with
      | here _ _ blank =>
          obtain ⟨rfl, idle'⟩ := blank_behind _ rest t' ps' qs' blank later
          rw [Layout.text, scanned_group number (.word []) _ _ rfl within.open_]
          exact ⟨⟨_, rfl⟩, idle'⟩

theorem drop_doubled_same (cs : List Char) : Same cs (dropDoubled cs) := by
  intro ps tells condition
  obtain ⟨layout, rfl⟩ := tells_layout cs ps tells condition
  obtain ⟨ps', qs, both, _⟩ := peeled_peels layout _ (drop_doubled_peeled layout) 0 (.word []) rfl
  have pending := mode_plain (scanned 0 (.word []) layout.text).2.2
  generalize left : (scanned 0 (.word []) layout.text).2.2.tokens = ts at pending
  -- What is still being read at the end is the same in both texts.
  have plain : PlainAll (ps' ++ ts.map .token) := (Piece.plain_all_append _ _).mpr ⟨both.plain, plain_all_map ts pending⟩
  have tokens : scan 0 (.word []) layout.text = tokensAll (ps' ++ ts.map .token) := by
    rw [scan_scanned, both.first, left, Piece.tokens_all_append, tokens_all_map]
  have tokens' : scan 0 (.word []) (dropDoubled layout.text) = tokensAll (qs ++ ts.map .token) := by
    rw [scan_scanned, both.second, both.behind, left, Piece.tokens_all_append, tokens_all_map]
  rw [Tells, tokens, Piece.nest_all _ plain, Option.some.injEq] at tells
  subst tells
  have peels := Formula.peels_append _ _ _ _ both.peels (Formula.peels_tokens ts)
  obtain ⟨condition', alike⟩ := Formula.condition_peeled _ _ condition peels
  refine ⟨qs ++ ts.map .token, ?_, condition', fun v => Formula.alike_value _ _ alike v.atoms⟩
  rw [Tells, tokens']
  exact Piece.nest_all _ (Formula.condition_plain _ condition')

end ArchiveSearch.Simplify

import ArchiveSearch.Proofs.Formula.Constants
import ArchiveSearch.Proofs.Formula.Reading
import ArchiveSearch.Proofs.Simplify.Patterns

namespace ArchiveSearch.Simplify

set_option autoImplicit false

open Formula (Condition Located Rewritten Valuation value)
open Piece (tokensAll)
open Text (Keyword Spells isBlank isBoundary)
open Token (Leads Letters Ends Ended Unquoted Mode scan)

def Tells (cs : List Char) (ps : List Piece) : Prop :=
  Piece.nest [] [] (scan 0 (.word []) cs) = some ps

def Same (cs cs' : List Char) : Prop :=
  ∀ ps, Tells cs ps → Condition ps →
    ∃ qs, Tells cs' qs ∧ Condition qs ∧ ∀ v : Valuation, value v.atoms qs = value v.atoms ps

theorem same_refl (cs : List Char) : Same cs cs :=
  fun ps tells condition => ⟨ps, tells, condition, fun _ => rfl⟩

theorem same_trans (first second third : List Char) (same : Same first second) (same' : Same second third) :
    Same first third := by
  intro ps tells condition
  obtain ⟨qs, tells', condition', values⟩ := same ps tells condition
  obtain ⟨rs, tells'', condition'', values'⟩ := same' qs tells' condition'
  exact ⟨rs, tells'', condition'', fun v => (values' v).trans (values v)⟩

theorem tells_tokens (cs : List Char) (ps : List Piece) (tells : Tells cs ps) :
    tokensAll ps = scan 0 (.word []) cs :=
  (Piece.nested_tokens _ _ tells).1

theorem tells_unquoted (cs : List Char) (ps : List Piece) (tells : Tells cs ps) (condition : Condition ps) :
    Unquoted cs := by
  apply Token.scanned_unquoted 0 (.word []) cs rfl
  intro q
  rw [← tells_tokens cs ps tells]
  exact Formula.condition_unquoted ps condition q

theorem rewritten_tells (cs : List Char) (ps : List Piece) (rewritten : Rewritten ps (scan 0 (.word []) cs)) :
    ∃ qs, Tells cs qs ∧ Condition qs ∧ ∀ v : Valuation, value v.atoms qs = value v.atoms ps := by
  obtain ⟨qs, condition, tokens, values⟩ := rewritten
  refine ⟨qs, ?_, condition, values⟩
  rw [Tells, ← tokens]
  exact Piece.nest_all qs (Formula.condition_plain qs condition)

theorem blanks_scan (number : Nat) (mode : Mode) (b rest : List Char) (open_ : mode.isQuoted = false)
    (blanks : Blanks b) : scan number mode (b ++ rest) = mode.tokens ++ scan number (.word []) rest := by
  obtain ⟨some_, all⟩ := blanks
  induction b generalizing mode with
  | nil => exact absurd rfl some_
  | cons c b ih =>
      have blank := all c List.mem_cons_self
      have first : scan number mode (c :: (b ++ rest)) = mode.tokens ++ scan number (.word []) (b ++ rest) := by
        simp [scan, Token.step, open_, blank]
      rw [List.cons_append, first]
      by_cases last : b = []
      · rw [last, List.nil_append]
      · rw [ih (.word []) rfl last fun d member => all d (List.mem_cons_of_mem _ member)]
        rfl

theorem idle_scan (number : Nat) (mode : Mode) (rest : List Char) (open_ : mode.isQuoted = false)
    (none_ : mode.tokens = []) : scan number mode rest = scan number (.word []) rest := by
  cases mode with
  | word w => rw [Token.flush_nil Token.word w none_]
  | symbol s =>
      rw [Token.flush_nil Token.symbol s none_]
      cases rest with
      | nil => rfl
      | cons c rest => rfl
  | quoted => cases open_

theorem spells_letters (word : Keyword) (w : List Char) (spelled : Spells word w)
    (known : '=' ∉ word.letters) : Letters w := by
  have cases_ : (Text.keywordChars.all fun d =>
      (decide (d ≠ '=') == decide (Token.Letter d)) && (decide (d ≠ '=') == decide (Token.Letter d.toLower))) = true := by
    decide
  intro c member
  obtain ⟨d, inside, same⟩ := Text.spelled_letters word.letters w spelled c member
  have here := List.all_eq_true.mp cases_ d (word.known d inside)
  have apart : d ≠ '=' := fun equal => known (equal ▸ inside)
  simp only [apart, decide_true, ne_eq, not_false_eq_true, Bool.and_eq_true, beq_iff_eq] at here
  rcases same with rfl | rfl
  · exact of_decide_eq_true here.1.symm
  · exact of_decide_eq_true here.2.symm

theorem word_scan (number : Nat) (w b rest : List Char) (letters : Letters w) (some_ : w ≠ []) (blanks : Blanks b) :
    scan number (.word []) (w ++ (b ++ rest)) = .word w :: scan number (.word []) rest := by
  rw [Token.scans_letters number [] w letters, List.append_nil, blanks_scan number _ b rest rfl blanks, Mode.tokens,
    Token.flush_reverse _ w some_]
  rfl

def digit (b : Bool) : Char :=
  if b then '1' else '0'

def constantWord : Bool → Keyword
  | true => .oneIsOne
  | false => .zeroIsOne

theorem constant_spelled (b : Bool) (t : List Char) (spelled : Spells (constantWord b) t) :
    t = [digit b, '=', '1'] := by
  cases b with
  | true => exact Text.spells_one t spelled
  | false => exact Text.spells_zero t spelled

theorem constant_tokens (b : Bool) :
    tokensAll (Formula.constant b) = [.word [digit b], .symbol ['='], .word ['1']] := by
  cases b <;> decide

theorem digit_letter (b : Bool) : Token.Letter (digit b) := by
  cases b <;> decide

theorem constant_scan (b : Bool) (number : Nat) (mode : Mode) (rest : List Char) (open_ : mode.isQuoted = false) :
    ∃ before u, scan number mode (digit b :: '=' :: '1' :: rest) =
        before ++ (.word (u ++ [digit b]) :: .symbol ['='] :: scan number (.word ['1']) rest) ∧
      ((before = [] ∧ mode = .word u.reverse) ∨ (u = [] ∧ before = mode.tokens ∧ ∃ s, mode = .symbol s)) := by
  have further : ∀ cs, scan number (.word (digit b :: cs)) ('=' :: '1' :: rest) =
      .word (cs.reverse ++ [digit b]) :: .symbol ['='] :: scan number (.word ['1']) rest := by
    intro cs
    cases b <;> simp [scan, Token.step, Mode.isQuoted, Mode.extend, Token.flush, digit, Token.isWordChar, isBlank,
      Token.ofMark]
  cases mode with
  | word cs =>
      refine ⟨[], cs.reverse, ?_, .inl ⟨rfl, by simp⟩⟩
      rw [scan, Token.step_letter number cs _ (digit_letter b)]
      exact further cs
  | symbol cs =>
      refine ⟨Token.flush .symbol cs, [], ?_, .inr ⟨rfl, rfl, cs, rfl⟩⟩
      have first : Token.step number (.symbol cs) (digit b) = (Token.flush .symbol cs, number, .word [digit b]) := by
        cases b <;> simp [Token.step, Mode.isQuoted, Mode.extend, digit, Token.isWordChar, isBlank, Token.ofMark]
      rw [scan, first]
      simp [further]
  | quoted => cases open_

theorem unquoted_append (cs more : List Char) : Unquoted (cs ++ more) ↔ Unquoted cs ∧ Unquoted more :=
  List.forall_mem_append

theorem equation_digit (b : Bool) (u letters : List Char) :
    Formula.Equation (u ++ [digit b]) ('1' :: letters) := by
  cases b <;> simp [Formula.Equation, digit]

theorem appended_located (b : Bool) (joint : Keyword) (d x r : List Char) (ps : List Piece)
    (tells : Tells (d ++ (x ++ r)) ps) (condition : Condition ps) (known : '=' ∉ joint.letters)
    (appended : Appended joint (constantWord b) x r.head?) :
    ∃ before number w, Spells joint w ∧ Located b ps (before ++ [Token.word w]) (scan number (.word []) r) ∧
      scan 0 (.word []) (d ++ r) = before ++ scan number (.word []) r ∧ Ends r ∧ Unquoted r := by
  obtain ⟨gap, w, gap', t, rfl, blanks, spelled, blanks', constant_, _⟩ := appended
  have unquoted := tells_unquoted _ ps tells condition
  simp only [unquoted_append] at unquoted
  obtain ⟨unquotedD, _, unquotedR⟩ := unquoted
  obtain ⟨ts, number, mode, leads⟩ := Token.leads_exists d
  have open_ := Token.leads_unquoted d ts number mode leads unquotedD
  have letters := spells_letters joint w spelled known
  have some_ := Text.spells_ne_nil joint w spelled
  obtain ⟨more, past, rfl, _, ends, last⟩ := Token.scan_word number ['1'] r (by simp) unquotedR
  have constants := constant_scan b number (.word []) (more ++ past) rfl
  -- All tokens of the text, with the word that begins at the constant's last digit.
  have tokens : tokensAll ps = (ts ++ mode.tokens ++ [Token.word w]) ++
      (.word [digit b] :: .symbol ['='] :: .word ('1' :: more) :: scan number (.word []) past) := by
    have constant' : scan number (.word []) (digit b :: '=' :: '1' :: (more ++ past)) =
        .word [digit b] :: .symbol ['='] :: scan number (.word ['1']) (more ++ past) := by
      cases b <;> rfl
    rw [tells_tokens _ ps tells, Token.leads_scan d ts number mode leads, constant_spelled b t constant_]
    simp only [List.append_assoc, blanks_scan number mode gap _ open_ blanks,
      word_scan number w gap' _ letters some_ blanks', List.cons_append, List.nil_append]
    rw [constant', last]
    simp
  have equation := equation_digit b [] more
  obtain ⟨b', same, located⟩ := Formula.constant_located ps condition _ _ _ _ equation tokens
  rw [constant_tokens] at same
  simp only [List.nil_append, List.cons.injEq, Token.word.injEq, and_true, true_and] at same
  obtain ⟨rfl, rfl⟩ : b' = b ∧ more = [] := by
    refine ⟨?_, by simpa using same.2⟩
    revert same
    cases b <;> cases b' <;> simp [digit]
  refine ⟨ts ++ mode.tokens, number, w, spelled, located, ?_, ends, unquotedR⟩
  have apart : ∀ s ts', scan number (.word []) past ≠ .symbol s :: ts' := by
    intro s ts' first
    rw [first] at located
    rcases Formula.located_behind b' ps _ _ _ located with closing | connects
    · cases closing
    · obtain ⟨_, word, _⟩ := Token.connects_spells _ connects
      cases word
  rw [List.nil_append, Token.leads_scan d ts number mode leads,
    Token.scan_flush number mode past open_ unquotedR ends apart, List.append_assoc]

theorem prepended_located (b : Bool) (joint : Keyword) (d x r : List Char) (ps : List Piece) (before : Option Char)
    (tells : Tells (d ++ (x ++ r)) ps) (condition : Condition ps) (known : '=' ∉ joint.letters)
    (prepended : Prepended joint (constantWord b) before x) :
    ∃ ts number mode w, Leads d ts number mode ∧ mode.tokens = [] ∧ Spells joint w ∧ Unquoted d ∧
      Located b ps ts (.word w :: scan number (.word []) r) ∧
      scan 0 (.word []) (d ++ r) = ts ++ scan number (.word []) r := by
  obtain ⟨t, gap, w, gap', rfl, _, constant_, blanks, spelled, blanks'⟩ := prepended
  have unquoted := tells_unquoted _ ps tells condition
  simp only [unquoted_append] at unquoted
  obtain ⟨unquotedD, _, unquotedR⟩ := unquoted
  obtain ⟨ts, number, mode, leads⟩ := Token.leads_exists d
  have open_ := Token.leads_unquoted d ts number mode leads unquotedD
  have letters := spells_letters joint w spelled known
  have some_ := Text.spells_ne_nil joint w spelled
  obtain ⟨pending, u, constants, modes⟩ := constant_scan b number mode (gap ++ (w ++ (gap' ++ r))) open_
  have tokens : tokensAll ps = (ts ++ pending) ++
      (.word (u ++ [digit b]) :: .symbol ['='] :: .word ['1'] :: .word w :: scan number (.word []) r) := by
    rw [tells_tokens _ ps tells, Token.leads_scan d ts number mode leads, constant_spelled b t constant_]
    simp only [List.append_assoc, List.cons_append, List.nil_append, constants]
    rw [blanks_scan number (.word ['1']) gap _ rfl blanks, word_scan number w gap' _ letters some_ blanks']
    simp [Mode.tokens, Token.flush]
  obtain ⟨b', same, located⟩ := Formula.constant_located ps condition _ _ _ _ (equation_digit b u []) tokens
  rw [constant_tokens] at same
  simp only [List.cons.injEq, Token.word.injEq, and_true] at same
  obtain rfl : u = [] := by
    have lengths := congrArg List.length same
    simp only [List.length_append, List.length_cons, List.length_nil] at lengths
    exact List.length_eq_zero_iff.mp (by omega)
  obtain rfl : b' = b := by
    revert same
    cases b <;> cases b' <;> simp [digit]
  -- Nothing is being read before the constant, or a symbol would stand before it.
  have nothing : pending = [] ∧ mode.tokens = [] ∧
      scan number mode r = scan number (.word []) r := by
    rcases modes with ⟨rfl, rfl⟩ | ⟨_, rfl, s, rfl⟩
    · exact ⟨rfl, rfl, rfl⟩
    · cases s with
      | nil => exact ⟨rfl, rfl, idle_scan number (.symbol []) r rfl rfl⟩
      | cons c s =>
          rw [Mode.tokens, Token.flush_some _ _ (List.cons_ne_nil c s)] at located
          rcases Formula.located_before b' ps _ _ _ located with opening | connects
          · cases opening
          · obtain ⟨_, word, _⟩ := Token.connects_spells _ connects
            cases word
  obtain ⟨rfl, none_, plain⟩ := nothing
  rw [List.append_nil] at located
  exact ⟨ts, number, mode, w, leads, none_, spelled, unquotedD, located,
    by rw [Token.leads_scan d ts number mode leads, plain]⟩

end ArchiveSearch.Simplify

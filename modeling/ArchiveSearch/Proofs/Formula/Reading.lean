import ArchiveSearch.Proofs.Formula.Conditions
import ArchiveSearch.Proofs.Formula.Scanning
import ArchiveSearch.Text.Word

namespace ArchiveSearch.Token

set_option autoImplicit false

open Text (isBlank)

def Unquoted (cs : List Char) : Prop :=
  ∀ c ∈ cs, c ≠ '\'' ∧ c ≠ '"'

def Ends (rest : List Char) : Prop :=
  ∀ c, rest.head? = some c → ¬ Letter c

def Sign (c : Char) : Prop :=
  isBlank c = false ∧ c ≠ '?' ∧ ofMark c = none ∧ c ≠ '\'' ∧ c ≠ '"' ∧ isWordChar c = false

def Single (t : Token) : Prop :=
  (∀ w, t ≠ .word w) ∧ (∀ s, t ≠ .symbol s) ∧ ∀ q, t ≠ .quoted q

theorem of_mark_single (c : Char) (t : Token) (mark : ofMark c = some t) : Single t := by
  rw [ofMark] at mark
  split at mark
  · cases mark
    simp [Single]
  · split at mark
    · cases mark
      simp [Single]
    · split at mark
      · cases mark
        simp [Single]
      · cases mark

inductive Stepped (number : Nat) (mode : Mode) (c : Char) : List Token × Nat × Mode → Prop
  | blank (blank : isBlank c = true) (alone : step number (.word []) c = ([], number, .word [])) :
      Stepped number mode c (mode.tokens, number, .word [])
  | mark (t : Token) (next : Nat) (letterless : ¬ Letter c) (single : Single t)
      (alone : step number (.word []) c = ([t], next, .word [])) :
      Stepped number mode c (mode.tokens ++ [t], next, .word [])
  | letter (letter : Letter c) : Stepped number mode c (mode.extend number c)
  | sign (sign : Sign c) : Stepped number mode c (mode.extend number c)

theorem step_stepped (number : Nat) (mode : Mode) (c : Char) (unquoted : mode.isQuoted = false)
    (plain : c ≠ '\'' ∧ c ≠ '"') : Stepped number mode c (step number mode c) := by
  have open_ : (Mode.word []).isQuoted = false := rfl
  have none_ : (Mode.word []).tokens = [] := rfl
  by_cases blank : isBlank c = true
  · have alone : step number (.word []) c = ([], number, .word []) := by simp [step, open_, blank, none_]
    have here : Stepped number mode c _ := .blank blank alone
    simpa [step, unquoted, blank] using here
  · by_cases asks : c = '?'
    · subst asks
      have alone : step number (.word []) '?' = ([.placeholder number], number + 1, .word []) := rfl
      have here : Stepped number mode '?' _ := .mark _ _ (by decide) (by simp [Single]) alone
      simpa [step, unquoted, blank] using here
    · cases mark : ofMark c with
      | some t =>
          have letterless : ¬ Letter c := by
            intro letter
            obtain ⟨_, opening, closing, comma, _⟩ := letter_unmarked c letter
            simp [ofMark, opening, closing, comma] at mark
          have alone : step number (.word []) c = ([t], number, .word []) := by
            simp [step, open_, blank, asks, mark, none_]
          have here : Stepped number mode c _ := .mark _ _ letterless (of_mark_single c t mark) alone
          simpa [step, unquoted, blank, asks, mark] using here
      | none =>
          have extends_ : step number mode c = mode.extend number c := by
            simp [step, unquoted, blank, asks, mark, plain]
          rw [extends_]
          by_cases word : isWordChar c = true
          · exact .letter ⟨word, by simpa using blank⟩
          · exact .sign ⟨by simpa using blank, asks, mark, plain.1, plain.2, by simpa using word⟩

theorem step_opening (number : Nat) (mode : Mode) (unquoted : mode.isQuoted = false) :
    step number mode '(' = (mode.tokens ++ [Token.opening], number, .word []) := by
  have solid : isBlank '(' = false := by decide
  simp [step, unquoted, solid, ofMark]

theorem step_closing (number : Nat) (mode : Mode) (unquoted : mode.isQuoted = false) :
    step number mode ')' = (mode.tokens ++ [Token.closing], number, .word []) := by
  have solid : isBlank ')' = false := by decide
  simp [step, unquoted, solid, ofMark]

theorem blank_letterless (c : Char) (blank : isBlank c = true) : ¬ Letter c := by
  simp [Letter, blank]

theorem extend_unquoted (number : Nat) (mode : Mode) (c : Char) (unquoted : mode.isQuoted = false) :
    (mode.extend number c).2.2.isQuoted = false := by
  cases mode with
  | word cs => by_cases word : isWordChar c = true <;> simp [Mode.extend, word, Mode.isQuoted]
  | symbol cs => by_cases word : isWordChar c = true <;> simp [Mode.extend, word, Mode.isQuoted]
  | quoted => cases unquoted

theorem step_keeps_unquoted (number : Nat) (mode : Mode) (c : Char) (unquoted : mode.isQuoted = false)
    (plain : c ≠ '\'' ∧ c ≠ '"') : (step number mode c).2.2.isQuoted = false := by
  have stepped := step_stepped number mode c unquoted plain
  generalize step number mode c = s at stepped
  cases stepped with
  | blank => rfl
  | mark => rfl
  | letter => exact extend_unquoted number mode c unquoted
  | sign => exact extend_unquoted number mode c unquoted

theorem scan_quoted (number : Nat) (quote : Char) (cs rest : List Char) :
    ∃ q, .quoted q ∈ scan number (.quoted quote cs) rest := by
  induction rest generalizing cs with
  | nil => exact ⟨cs.reverse, by simp [scan, Mode.tokens]⟩
  | cons c rest ih =>
      have inside : (Mode.quoted quote cs).isQuoted = true := rfl
      by_cases closes : c = quote
      · exact ⟨cs.reverse, by simp [scan, step, inside, Mode.extend, closes]⟩
      · obtain ⟨q, member⟩ := ih (c :: cs)
        exact ⟨q, by simpa [scan, step, inside, Mode.extend, closes] using member⟩

theorem scanned_unquoted (number : Nat) (mode : Mode) (cs : List Char) (open_ : mode.isQuoted = false)
    (unquoted : ∀ q, .quoted q ∉ scan number mode cs) : Unquoted cs := by
  induction cs generalizing number mode with
  | nil => simp [Unquoted]
  | cons c cs ih =>
      by_cases plain : c ≠ '\'' ∧ c ≠ '"'
      · have keeps := step_keeps_unquoted number mode c open_ plain
        rw [scan] at unquoted
        have later := ih _ _ keeps fun q member => unquoted q (List.mem_append_right _ member)
        exact List.forall_mem_cons.mpr ⟨plain, later⟩
      · have opens : scan number mode (c :: cs) = mode.tokens ++ scan number (.quoted c []) cs := by
          have quote : c = '\'' ∨ c = '"' := by
            by_cases single : c = '\''
            · exact .inl single
            · exact .inr (Classical.byContradiction fun double => plain ⟨single, double⟩)
          rcases quote with rfl | rfl
          · have solid : isBlank '\'' = false := by decide
            simp [scan, step, open_, solid, ofMark]
          · have solid : isBlank '"' = false := by decide
            simp [scan, step, open_, solid, ofMark]
        obtain ⟨q, member⟩ := scan_quoted number c [] cs
        exact absurd (opens ▸ List.mem_append_right _ member) (unquoted q)

theorem scan_symbol (number : Nat) (cs rest : List Char) (some_ : cs ≠ []) (unquoted : Unquoted rest) :
    ∃ s ts, scan number (.symbol cs) rest = .symbol s :: ts := by
  induction rest generalizing cs with
  | nil => exact ⟨cs.reverse, [], by rw [scan, Mode.tokens, flush_some _ cs some_]⟩
  | cons c rest ih =>
      obtain ⟨plain, later⟩ := List.forall_mem_cons.mp unquoted
      have stepped := step_stepped number (.symbol cs) c rfl plain
      have flushed := flush_some Token.symbol cs some_
      rw [scan]
      generalize step number (.symbol cs) c = s at stepped
      cases stepped with
      | blank => exact ⟨cs.reverse, _, by rw [Mode.tokens, flushed]; rfl⟩
      | mark => exact ⟨cs.reverse, _, by rw [Mode.tokens, flushed]; rfl⟩
      | letter letter => exact ⟨cs.reverse, _, by rw [Mode.extend, if_pos letter.1, flushed]; rfl⟩
      | sign sign =>
          obtain ⟨s, ts, same⟩ := ih (c :: cs) (List.cons_ne_nil c cs) later
          exact ⟨s, ts, by simpa [Mode.extend, sign.2.2.2.2.2] using same⟩

theorem word_flush (number : Nat) (cs rest : List Char) (unquoted : Unquoted rest) (ends : Ends rest) :
    scan number (.word cs) rest = flush .word cs ++ scan number (.word []) rest := by
  cases rest with
  | nil => simp [scan, Mode.tokens, flush]
  | cons c rest =>
      have plain := unquoted c List.mem_cons_self
      have stepped := step_stepped number (.word cs) c rfl plain
      rw [scan, scan]
      generalize step number (.word cs) c = s at stepped
      cases stepped with
      | blank _ alone => simp [alone, Mode.tokens]
      | mark _ _ _ _ alone => simp [alone, Mode.tokens]
      | letter letter => exact absurd letter (ends c rfl)
      | sign sign =>
          obtain ⟨solid, asks, mark, _, _, wordless⟩ := sign
          have alone : step number (.word []) c = ([], number, .symbol [c]) := by
            simp [step, Mode.isQuoted, solid, asks, mark, plain, Mode.extend, wordless, flush]
          simp [alone, Mode.extend, wordless]

theorem symbol_flush (number : Nat) (cs rest : List Char) (unquoted : Unquoted rest)
    (ends : ∀ c, rest.head? = some c → ¬ Sign c) :
    scan number (.symbol cs) rest = flush .symbol cs ++ scan number (.word []) rest := by
  cases rest with
  | nil => simp [scan, Mode.tokens, flush]
  | cons c rest =>
      have plain := unquoted c List.mem_cons_self
      have stepped := step_stepped number (.symbol cs) c rfl plain
      rw [scan, scan]
      generalize step number (.symbol cs) c = s at stepped
      cases stepped with
      | blank _ alone => simp [alone, Mode.tokens]
      | mark _ _ _ _ alone => simp [alone, Mode.tokens]
      | letter letter => simp [step_letter number [] c letter, Mode.extend, letter.1]
      | sign sign => exact absurd sign (ends c rfl)

theorem scan_sign (number : Nat) (c : Char) (rest : List Char) (sign : Sign c) (unquoted : Unquoted rest) :
    ∃ s ts, scan number (.word []) (c :: rest) = .symbol s :: ts := by
  obtain ⟨solid, asks, mark, single, double, wordless⟩ := sign
  have alone : step number (.word []) c = ([], number, .symbol [c]) := by
    simp [step, Mode.isQuoted, solid, asks, mark, single, double, Mode.extend, wordless, flush]
  rw [scan, alone]
  exact scan_symbol number [c] rest (List.cons_ne_nil c []) unquoted

theorem scan_flush (number : Nat) (mode : Mode) (rest : List Char) (open_ : mode.isQuoted = false)
    (unquoted : Unquoted rest) (ends : Ends rest)
    (apart : ∀ s ts, scan number (.word []) rest ≠ .symbol s :: ts) :
    scan number mode rest = mode.tokens ++ scan number (.word []) rest := by
  cases mode with
  | word cs => exact word_flush number cs rest unquoted ends
  | symbol cs =>
      refine symbol_flush number cs rest unquoted fun d first sign => ?_
      cases rest with
      | nil => cases first
      | cons _ rest =>
          cases first
          obtain ⟨s, ts, same⟩ := scan_sign number d rest sign fun e member =>
            unquoted e (List.mem_cons_of_mem _ member)
          exact apart s ts same
  | quoted => cases open_

theorem scan_word (number : Nat) (cs rest : List Char) (some_ : cs ≠ []) (unquoted : Unquoted rest) :
    ∃ letters past, rest = letters ++ past ∧ Letters letters ∧ Ends past ∧
      scan number (.word cs) rest = .word (cs.reverse ++ letters) :: scan number (.word []) past := by
  induction rest generalizing cs with
  | nil =>
      refine ⟨[], [], rfl, by simp [Letters], by simp [Ends], ?_⟩
      rw [scan, Mode.tokens, flush_some _ cs some_]
      simp [scan, Mode.tokens, flush]
  | cons c rest ih =>
      by_cases letter : Letter c
      · obtain ⟨letters, past, rfl, all, ends, same⟩ := ih (c :: cs) (List.cons_ne_nil c cs)
          fun d member => unquoted d (List.mem_cons_of_mem _ member)
        refine ⟨c :: letters, past, rfl, List.forall_mem_cons.mpr ⟨letter, all⟩, ends, ?_⟩
        rw [scan, step_letter number cs c letter]
        simpa using same
      · have ends : Ends (c :: rest) := by
          intro d first
          cases first
          exact letter
        refine ⟨[], c :: rest, rfl, by simp [Letters], ends, ?_⟩
        rw [word_flush number cs (c :: rest) unquoted ends, flush_some _ cs some_, List.append_nil]
        rfl

theorem scan_first_word (number : Nat) (rest : List Char) (w : List Char) (ts : List Token)
    (unquoted : Unquoted rest) (scanned : scan number (.word []) rest = .word w :: ts) :
    ∃ b past, rest = b ++ (w ++ past) ∧ (∀ c ∈ b, isBlank c = true) ∧ Letters w ∧ Ends past := by
  induction rest with
  | nil => cases scanned
  | cons c rest ih =>
      obtain ⟨plain, later⟩ := List.forall_mem_cons.mp unquoted
      by_cases letter : Letter c
      · obtain ⟨letters, past, rfl, all, ends, same⟩ := scan_word number [c] rest (List.cons_ne_nil c []) later
        have first : scan number (.word []) (c :: (letters ++ past)) =
            scan number (.word [c]) (letters ++ past) := by
          rw [scan, step_letter number [] c letter]
          rfl
        rw [first, same] at scanned
        cases scanned
        exact ⟨[], past, rfl, by simp, List.forall_mem_cons.mpr ⟨letter, all⟩, ends⟩
      · by_cases sign : Sign c
        · obtain ⟨s, ts, same⟩ := scan_sign number c rest sign later
          rw [same] at scanned
          cases scanned
        · have stepped := step_stepped number (.word []) c rfl plain
          rw [scan] at scanned
          generalize step number (.word []) c = s at stepped scanned
          cases stepped with
          | blank blank =>
              obtain ⟨b, past, rfl, blanks, letters, ends⟩ := ih later scanned
              exact ⟨c :: b, past, rfl, List.forall_mem_cons.mpr ⟨blank, blanks⟩, letters, ends⟩
          | mark t _ _ single =>
              cases scanned
              exact absurd rfl (single.1 w)
          | letter yes => exact absurd yes letter
          | sign yes => exact absurd yes sign

inductive Leads : List Char → List Token → Nat → Mode → Prop
  | start : Leads [] [] 0 (.word [])
  | next (cs : List Char) (ts : List Token) (number : Nat) (mode : Mode) (c : Char)
      (before : Leads cs ts number mode) :
      Leads (cs ++ [c]) (ts ++ (step number mode c).1) (step number mode c).2.1 (step number mode c).2.2

theorem leads_further (cs more : List Char) (ts : List Token) (number : Nat) (mode : Mode)
    (leads : Leads cs ts number mode) : ∃ ts' number' mode', Leads (cs ++ more) ts' number' mode' := by
  induction more generalizing cs ts number mode with
  | nil => exact ⟨ts, number, mode, by rwa [List.append_nil]⟩
  | cons c more ih =>
      have further := ih (cs ++ [c]) _ _ _ (.next cs ts number mode c leads)
      rwa [List.append_assoc] at further

theorem leads_exists (cs : List Char) : ∃ ts number mode, Leads cs ts number mode :=
  leads_further [] cs [] 0 (.word []) .start

theorem leads_scan (cs : List Char) (ts : List Token) (number : Nat) (mode : Mode)
    (leads : Leads cs ts number mode) (rest : List Char) :
    scan 0 (.word []) (cs ++ rest) = ts ++ scan number mode rest := by
  induction leads generalizing rest with
  | start => rfl
  | next cs ts number mode c _ ih =>
      rw [List.append_assoc, ih, List.append_assoc]
      rfl

theorem leads_unquoted (cs : List Char) (ts : List Token) (number : Nat) (mode : Mode)
    (leads : Leads cs ts number mode) (unquoted : Unquoted cs) : mode.isQuoted = false := by
  induction leads with
  | start => rfl
  | next cs ts number mode c _ ih =>
      have before := ih fun d member => unquoted d (List.mem_append_left _ member)
      exact step_keeps_unquoted number mode c before (unquoted c (by simp))

def Ended (cs : List Char) : Prop :=
  ∀ c, cs.getLast? = some c → ¬ Letter c

theorem ended_last (cs : List Char) (c : Char) (letterless : ¬ Letter c) : Ended (cs ++ [c]) := by
  intro d last
  rw [List.getLast?_concat, Option.some.injEq] at last
  exact last ▸ letterless

theorem leads_mode (cs : List Char) (ts : List Token) (number : Nat) (mode : Mode)
    (leads : Leads cs ts number mode) (unquoted : Unquoted cs) :
    (∀ w, mode = .word w → ∃ past, cs = past ++ w.reverse ∧ Ended past) ∧
      ∀ s, mode = .symbol s → Ended cs := by
  induction leads with
  | start =>
      refine ⟨fun w same => ?_, by simp⟩
      cases same
      exact ⟨[], rfl, by simp [Ended]⟩
  | next cs ts number mode c before ih =>
      have plain := unquoted c (by simp)
      have unquotedBefore : Unquoted cs := fun d member => unquoted d (List.mem_append_left _ member)
      obtain ⟨word, symbol⟩ := ih unquotedBefore
      have open_ := leads_unquoted cs ts number mode before unquotedBefore
      have stepped := step_stepped number mode c open_ plain
      generalize step number mode c = s at stepped
      cases stepped with
      | blank blank =>
          refine ⟨fun w same => ?_, by simp⟩
          cases same
          exact ⟨cs ++ [c], by simp, ended_last cs c (blank_letterless c blank)⟩
      | mark t next letterless =>
          refine ⟨fun w same => ?_, by simp⟩
          cases same
          exact ⟨cs ++ [c], by simp, ended_last cs c letterless⟩
      | letter letter =>
          cases mode with
          | word w =>
              obtain ⟨past, split, ended⟩ := word w rfl
              rw [Mode.extend, if_pos letter.1]
              refine ⟨fun w' same => ?_, by simp⟩
              cases same
              exact ⟨past, by simp [split], ended⟩
          | symbol s =>
              rw [Mode.extend, if_pos letter.1]
              refine ⟨fun w' same => ?_, by simp⟩
              cases same
              exact ⟨cs, rfl, symbol s rfl⟩
          | quoted => cases open_
      | sign sign =>
          have wordless := sign.2.2.2.2.2
          have letterless : ¬ Letter c := by simp [Letter, wordless]
          cases mode with
          | word w =>
              rw [Mode.extend, if_neg (by simp [wordless])]
              exact ⟨by simp, fun s' _ => ended_last cs c letterless⟩
          | symbol s =>
              rw [Mode.extend, if_neg (by simp [wordless])]
              exact ⟨by simp, fun s' _ => ended_last cs c letterless⟩
          | quoted => cases open_

theorem flush_nil (make : List Char → Token) (cs : List Char) (none_ : flush make cs = []) : cs = [] := by
  cases cs with
  | nil => rfl
  | cons c cs => cases none_

theorem leads_ended (cs : List Char) (ts : List Token) (number : Nat) (mode : Mode)
    (leads : Leads cs ts number mode) (unquoted : Unquoted cs) (none_ : mode.tokens = []) : Ended cs := by
  obtain ⟨word, symbol⟩ := leads_mode cs ts number mode leads unquoted
  cases mode with
  | word w =>
      obtain ⟨past, split, ended⟩ := word w rfl
      have empty := flush_nil Token.word w none_
      subst empty
      rw [List.reverse_nil, List.append_nil] at split
      exact split ▸ ended
  | symbol s => exact symbol s rfl
  | quoted => cases none_

theorem extend_pending (number : Nat) (mode : Mode) (c : Char) (open_ : mode.isQuoted = false) :
    (mode.extend number c).2.2.tokens ≠ [] := by
  cases mode with
  | word cs => by_cases word : isWordChar c = true <;> simp [Mode.extend, word, Mode.tokens, flush]
  | symbol cs => by_cases word : isWordChar c = true <;> simp [Mode.extend, word, Mode.tokens, flush]
  | quoted => cases open_

theorem leads_last_word (cs : List Char) (ts : List Token) (number : Nat) (mode : Mode)
    (leads : Leads cs ts number mode) (unquoted : Unquoted cs) (none_ : mode.tokens = []) (w : List Char)
    (last : ts.getLast? = some (.word w)) :
    ∃ past b, cs = past ++ (w ++ b) ∧ b ≠ [] ∧ (∀ c ∈ b, isBlank c = true) ∧ Ended past := by
  induction leads with
  | start => cases last
  | next cs ts number mode c before ih =>
      have plain := unquoted c (by simp)
      have unquotedBefore : Unquoted cs := fun d member => unquoted d (List.mem_append_left _ member)
      have open_ := leads_unquoted cs ts number mode before unquotedBefore
      have stepped := step_stepped number mode c open_ plain
      generalize step number mode c = s at stepped none_ last
      cases stepped with
      | blank blank =>
          by_cases still : mode.tokens = []
          · rw [still, List.append_nil] at last
            obtain ⟨past, b, split, _, blanks, ended⟩ := ih unquotedBefore still last
            refine ⟨past, b ++ [c], by simp [split], by simp, ?_, ended⟩
            simpa [or_imp, forall_and] using ⟨blanks, blank⟩
          · obtain ⟨word, _⟩ := leads_mode cs ts number mode before unquotedBefore
            rw [List.getLast?_append_of_ne_nil _ still] at last
            cases mode with
            | word cs' =>
                obtain ⟨past, split, ended⟩ := word cs' rfl
                have some_ : cs' ≠ [] := fun empty => still (by rw [empty]; rfl)
                rw [Mode.tokens, flush_some Token.word cs' some_] at last
                cases last
                exact ⟨past, [c], by simp [split], by simp, by simpa using blank, ended⟩
            | symbol cs' =>
                have some_ : cs' ≠ [] := fun empty => still (by rw [empty]; rfl)
                rw [Mode.tokens, flush_some Token.symbol cs' some_] at last
                cases last
            | quoted => cases open_
      | mark t next letterless single =>
          rw [← List.append_assoc, List.getLast?_concat, Option.some.injEq] at last
          exact absurd last (single.1 w)
      | letter => exact absurd none_ (extend_pending number mode c open_)
      | sign => exact absurd none_ (extend_pending number mode c open_)

end ArchiveSearch.Token

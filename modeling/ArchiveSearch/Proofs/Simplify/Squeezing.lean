import ArchiveSearch.Proofs.Simplify.Cutting

namespace ArchiveSearch.Simplify

set_option autoImplicit false

open Formula (Condition)
open Text (isBlank)
open Token (Unquoted Mode scan)

def Idle (before : Option Char) (mode : Mode) : Prop :=
  before.any (· != '(') = false → mode.tokens = []

theorem idle_behind (number : Nat) (mode : Mode) (c : Char) (open_ : mode.isQuoted = false) :
    Idle (some c) (Token.step number mode c).2.2 := by
  intro opening
  obtain rfl : c = '(' := by simpa using opening
  rw [Token.step_opening number mode open_]
  rfl

theorem squeeze_from_scan (number : Nat) (mode : Mode) (gap : Bool) (before : Option Char) (cs : List Char)
    (unquoted : Unquoted cs) (open_ : mode.isQuoted = false) (idle : Idle before mode) :
    scan number mode (squeezeFrom none gap before cs) =
      if gap then mode.tokens ++ scan number (.word []) cs else scan number mode cs := by
  induction cs generalizing number mode gap before with
  | nil => cases gap <;> simp [squeezeFrom, scan, Mode.tokens, Token.flush]
  | cons c cs ih =>
      obtain ⟨plain, later⟩ := List.forall_mem_cons.mp unquoted
      rw [squeezeFrom]
      by_cases blank : isBlank c = true
      · have passed : ∀ mode : Mode, mode.isQuoted = false →
            scan number mode (c :: cs) = mode.tokens ++ scan number (.word []) cs := fun mode open_ =>
          blanks_scan number mode [c] cs open_ ⟨List.cons_ne_nil c [], by simpa using blank⟩
        rw [if_pos blank, ih number mode true before later open_ idle, if_pos rfl, passed mode open_,
          passed (.word []) rfl]
        cases gap <;> rfl
      · have unopened : Query.quoteAfter none c = none := by simp [Query.quoteAfter, plain]
        -- From the character on, both are read alike.
        have copied : ∀ mode : Mode, mode.isQuoted = false →
            scan number mode (c :: squeezeFrom none false (some c) cs) = scan number mode (c :: cs) := by
          intro mode open_
          have keeps := Token.step_keeps_unquoted number mode c open_ plain
          rw [scan, scan]
          generalize stepped : Token.step number mode c = s at keeps
          have behind := idle_behind number mode c open_
          rw [stepped] at behind
          have rest := ih s.2.1 s.2.2 false (some c) later keeps behind
          rw [if_neg Bool.false_ne_true] at rest
          exact congrArg (s.1 ++ ·) rest
        rw [if_neg blank, unopened]
        cases gap with
        | false => exact copied mode open_
        | true =>
            by_cases fits : spaceFits before c = true
            · have space := blanks_scan number mode [' '] (c :: squeezeFrom none false (some c) cs) open_
                ⟨by simp, List.forall_mem_singleton.2 rfl⟩
              rw [Bool.true_and, if_pos fits, if_pos rfl, ← copied (.word []) rfl]
              exact space
            · rw [Bool.true_and, if_neg fits, if_pos rfl, copied mode open_]
              by_cases closing : c = ')'
              · subst closing
                rw [scan, scan, Token.step_closing number mode open_, Token.step_closing number (.word []) rfl]
                simp [Mode.tokens, Token.flush]
              · have none_ := idle (by simpa [spaceFits, closing] using fits)
                rw [none_, List.nil_append, idle_scan number mode _ open_ none_]

theorem squeeze_same (cs : List Char) : Same cs (squeeze cs) := by
  intro ps tells condition
  refine ⟨ps, ?_, condition, fun _ => rfl⟩
  have unquoted := tells_unquoted cs ps tells condition
  rw [Tells, squeeze, squeeze_from_scan 0 (.word []) false none cs unquoted rfl fun _ => rfl]
  exact tells

end ArchiveSearch.Simplify

import ArchiveSearch.Query.Formula

namespace ArchiveSearch.Piece

set_option autoImplicit false

def word (name : String) : Piece :=
  .token (.word name.toList)

def symbol (name : String) : Piece :=
  .token (.symbol name.toList)

def mark (number : Nat) : Piece :=
  .token (.placeholder number)

mutual
def tokens : Piece → List Token
  | .token t => [t]
  | .group pieces => .opening :: (tokensAll pieces ++ [.closing])
def tokensAll : List Piece → List Token
  | [] => []
  | p :: rest => p.tokens ++ tokensAll rest
end

mutual
def Plain : Piece → Prop
  | .token t => t ≠ .opening ∧ t ≠ .closing
  | .group pieces => PlainAll pieces
def PlainAll : List Piece → Prop
  | [] => True
  | p :: rest => p.Plain ∧ PlainAll rest
end

@[simp]
theorem tokens_all_append (ps qs : List Piece) : tokensAll (ps ++ qs) = tokensAll ps ++ tokensAll qs := by
  induction ps with
  | nil => rfl
  | cons p ps ih => rw [List.cons_append, tokensAll, tokensAll, ih, List.append_assoc]

theorem tokens_all_one (p : Piece) : tokensAll [p] = p.tokens := by
  simp [tokensAll]

@[simp]
theorem plain_all_append (ps qs : List Piece) : PlainAll (ps ++ qs) ↔ PlainAll ps ∧ PlainAll qs := by
  induction ps with
  | nil => simp [PlainAll]
  | cons p ps ih => simp only [List.cons_append, PlainAll, ih, and_assoc]

theorem plain_all_reverse (ps : List Piece) : PlainAll ps.reverse ↔ PlainAll ps := by
  induction ps with
  | nil => rfl
  | cons p ps ih =>
      rw [List.reverse_cons, plain_all_append, ih]
      simp only [PlainAll, and_true]
      exact and_comm

theorem nest_plain (t : Token) (inner : List Piece) (outer : List (List Piece)) (rest : List Token)
    (plain : t ≠ .opening ∧ t ≠ .closing) :
    nest inner outer (t :: rest) = nest (.token t :: inner) outer rest := by
  cases t with
  | opening => exact absurd rfl plain.1
  | closing => exact absurd rfl plain.2
  | word chars => cases outer <;> rfl
  | placeholder index => cases outer <;> rfl
  | symbol chars => cases outer <;> rfl
  | quoted chars => cases outer <;> rfl
  | comma => cases outer <;> rfl

mutual
theorem nest_tokens (p : Piece) (plain : p.Plain) (inner : List Piece) (outer : List (List Piece))
    (rest : List Token) : nest inner outer (p.tokens ++ rest) = nest (p :: inner) outer rest := by
  cases p with
  | token t => exact nest_plain t inner outer rest plain
  | group pieces =>
      rw [tokens, List.cons_append, nest, List.append_assoc, nest_tokens_all pieces plain, List.append_nil,
        List.singleton_append, nest, List.reverse_reverse]
theorem nest_tokens_all (ps : List Piece) (plain : PlainAll ps) (inner : List Piece)
    (outer : List (List Piece)) (rest : List Token) :
    nest inner outer (tokensAll ps ++ rest) = nest (ps.reverse ++ inner) outer rest := by
  cases ps with
  | nil => rfl
  | cons p ps =>
      rw [tokensAll, List.append_assoc, nest_tokens p plain.1, nest_tokens_all ps plain.2]
      simp
end

theorem nest_all (ps : List Piece) (plain : PlainAll ps) : nest [] [] (tokensAll ps) = some ps := by
  simpa [nest] using nest_tokens_all ps plain [] [] []

def readBack : List Piece → List (List Piece) → List Token
  | inner, [] => tokensAll inner.reverse
  | inner, around :: outer => readBack around outer ++ .opening :: tokensAll inner.reverse

theorem read_back_cons (p : Piece) (inner : List Piece) (outer : List (List Piece)) :
    readBack (p :: inner) outer = readBack inner outer ++ p.tokens := by
  cases outer <;> simp [readBack, tokensAll]

theorem nest_some (inner : List Piece) (outer : List (List Piece)) (ts : List Token) (ps : List Piece)
    (nested : nest inner outer ts = some ps) (plain : PlainAll inner) (plainOuter : ∀ x ∈ outer, PlainAll x) :
    tokensAll ps = readBack inner outer ++ ts ∧ PlainAll ps := by
  fun_induction nest inner outer ts with
  | case1 inner =>
      cases nested
      exact ⟨by simp [readBack], (plain_all_reverse inner).mpr plain⟩
  | case2 => cases nested
  | case3 inner outer rest ih =>
      obtain ⟨same, all⟩ := ih nested trivial (List.forall_mem_cons.mpr ⟨plain, plainOuter⟩)
      exact ⟨by simpa [readBack, tokensAll] using same, all⟩
  | case4 inner around outer rest ih =>
      obtain ⟨plainAround, others⟩ := List.forall_mem_cons.mp plainOuter
      obtain ⟨same, all⟩ := ih nested ⟨(plain_all_reverse inner).mpr plain, plainAround⟩ others
      rw [read_back_cons] at same
      exact ⟨by simpa [readBack, tokens] using same, all⟩
  | case5 => cases nested
  | case6 inner outer t rest notOpening _ notClosing ih =>
      have solid : Plain (.token t) := by
        constructor
        · exact fun same => notOpening same
        · intro same
          cases outer with
          | nil => exact notClosing rfl same
          | cons around outer => simp_all
      obtain ⟨same, all⟩ := ih nested ⟨solid, plain⟩ plainOuter
      rw [read_back_cons] at same
      exact ⟨by simpa [tokens] using same, all⟩

theorem nested_tokens (ts : List Token) (ps : List Piece) (nested : nest [] [] ts = some ps) :
    tokensAll ps = ts ∧ PlainAll ps := by
  simpa [readBack, tokensAll] using nest_some [] [] ts ps nested trivial (by simp)

end ArchiveSearch.Piece

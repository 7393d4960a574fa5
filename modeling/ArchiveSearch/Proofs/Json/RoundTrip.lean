import ArchiveSearch.Json.Draft
import ArchiveSearch.Filter.Decoding
import ArchiveSearch.Proofs.Json.Numbers

/- A compact text is read back as the value that was written, but for the order of members: the reader arranges them.
   The value has to be data, and may not nest deeper than texts are read. -/
namespace ArchiveSearch.Json

set_option autoImplicit false

inductive Escaped (c : Char) : List Char → Prop
  | plain (ordinary : ¬ c.toNat < 32) (unquoted : c ≠ '"') (unescaped : c ≠ '\\') : Escaped c [c]
  | simple (e : Char) (other : e ≠ 'u') (image : simpleEscape e = some c) : Escaped c ['\\', e]
  | unit (w x y z : Char) (image : hexUnit w x y z = some c.toNat) (small : c.toNat < 32) :
      Escaped c ['\\', 'u', w, x, y, z]

theorem escapes_checked : (specials.all fun c =>
    match escapedChar c with
    | ['\\', e] => e != 'u' && simpleEscape e == some c
    | ['\\', 'u', w, x, y, z] => hexUnit w x y z == some c.toNat && decide (c.toNat < 32)
    | _ => false) = true := by
  decide

theorem escaped_char_ways (c : Char) : Escaped c (escapedChar c) := by
  by_cases special : c ∈ specials
  · have checked := List.all_eq_true.1 escapes_checked c special
    split at checked
    · rename_i e shown
      rw [shown]
      simp only [Bool.and_eq_true, bne_iff_ne, beq_iff_eq] at checked
      exact .simple e checked.1 checked.2
    · rename_i w x y z shown
      rw [shown]
      simp only [Bool.and_eq_true, beq_iff_eq, decide_eq_true_eq] at checked
      exact .unit w x y z checked.1 checked.2
    · cases checked
  · rw [escaped_char_plain c special]
    refine .plain (fun small => special (mem_specials c small)) ?_ ?_
    · rintro rfl
      exact special (by decide)
    · rintro rfl
      exact special (by decide)

theorem pieces_escaped (c : Char) (text : List Char) (escaped : Escaped c text) (more : List Char) :
    ∃ piece, pieces (text ++ more) = (pieces more).map (fun found => (piece :: found.1, found.2)) ∧
      ∀ others, joinPieces (piece :: others) = (joinPieces others).map (c :: ·) := by
  cases escaped with
  | plain ordinary unquoted unescaped =>
    refine ⟨.char c, ?_, fun others => by rw [joinPieces]⟩
    rw [List.singleton_append, pieces]
    · rw [if_neg (by simp [ordinary, unescaped])]
      cases pieces more <;> rfl
    · exact fun same => unquoted same
    · exact fun _ _ _ _ _ same => absurd same unescaped
    · exact fun _ _ same => absurd same unescaped
  | simple e other image =>
    refine ⟨.char c, ?_, fun others => by rw [joinPieces]⟩
    rw [List.cons_append, List.singleton_append, pieces]
    · rw [image]
      cases pieces more <;> rfl
    · exact fun _ _ _ _ _ same => absurd same other
  | unit w x y z image small =>
    refine ⟨.unit c.toNat, ?_, fun others => ?_⟩
    · simp only [List.cons_append, List.nil_append]
      rw [pieces, image]
      cases pieces more <;> rfl
    · have whole : isLead c.toNat = false ∧ isTrail c.toNat = false := by
        simp [isLead, isTrail]
        omega
      have back : Char.ofNat c.toNat = c := Char.ofNat_toNat c
      cases others with
      | nil => simp [joinPieces, whole, back]
      | cons other others =>
        cases other <;> simp [joinPieces, whole, back]

theorem pieces_read (s rest : List Char) :
    ∃ found, pieces (s.flatMap escapedChar ++ '"' :: rest) = some (found, rest) ∧ joinPieces found = some s := by
  induction s with
  | nil => exact ⟨[], rfl, rfl⟩
  | cons c s ih =>
    obtain ⟨found, read, joined⟩ := ih
    obtain ⟨piece, step, join⟩ := pieces_escaped c _ (escaped_char_ways c) (s.flatMap escapedChar ++ '"' :: rest)
    refine ⟨piece :: found, ?_, ?_⟩
    · rw [List.flatMap_cons, List.append_assoc, step, read]
      rfl
    · rw [join, joined]
      rfl

theorem tokens_first (c : Char) (rest after : List Char) (token : Token) (solid : isGap c = false)
    (read : firstToken c rest = some (token, after)) : tokens (c :: rest) = token :: tokens after := by
  rw [tokens, if_neg (by simp [solid])]
  split
  · rename_i none_
    rw [read] at none_
    cases none_
  · rename_i found
    rw [read] at found
    cases found
    rfl

theorem tokens_string (s : String) (rest : List Char) :
    tokens (stringChars s ++ rest) = .string (some s) :: tokens rest := by
  obtain ⟨found, read, joined⟩ := pieces_read s.toList rest
  simp only [stringChars, List.cons_append, List.append_assoc, List.nil_append]
  refine tokens_first '"' _ rest _ rfl ?_
  rw [firstToken, show mark '"' = none from rfl]
  simp only [beq_self_eq_true, if_true, read, Option.map_some, joined, String.ofList_toList]

theorem number_starts (c : Char) (starts : kindAt c = .number) :
    isGap c = false ∧ mark c = none ∧ c ≠ '"' ∧ ∀ more, word (c :: more) = none := by
  have apart : ∀ d, kindAt d ≠ .number → c ≠ d := fun d other same => other (same ▸ starts)
  refine ⟨?_, ?_, apart '"' (by decide), fun more => ?_⟩
  · simp [isGap, apart ' ' (by decide), apart '\t' (by decide), apart '\n' (by decide), apart '\r' (by decide)]
  · simp [mark, apart '[' (by decide), apart ']' (by decide), apart '\x7b' (by decide), apart '\x7d' (by decide),
      apart ',' (by decide), apart ':' (by decide)]
  · unfold word
    split
    · exact absurd (List.cons.inj ‹_›).1 (apart 'n' (by decide))
    · exact absurd (List.cons.inj ‹_›).1 (apart 't' (by decide))
    · exact absurd (List.cons.inj ‹_›).1 (apart 'f' (by decide))
    · rfl

theorem tokens_number (j : Json) (finite : j.isFinite = true) (kind : j.kind = .number) (rest : List Char)
    (read : number (j.compactChars ++ rest) = some (some j, rest)) :
    tokens (j.compactChars ++ rest) = .scalar (some j) :: tokens rest := by
  obtain ⟨c, more, shown, opened⟩ := opens j finite
  obtain ⟨solid, unmarked, unquoted, unnamed⟩ := number_starts c (opened.trans kind)
  rw [shown, List.cons_append] at read ⊢
  refine tokens_first c _ rest _ solid ?_
  rw [firstToken, unmarked]
  simp only [beq_eq_false_iff_ne.2 unquoted, Bool.false_eq_true, if_false, unnamed, read, Option.map_some]

-- A draft that ends where it stands: it is the whole, or the innermost open container goes on behind it.
def finished (inner : Draft) (frames : List Frame) (rest : List Token) : Draft × List Token :=
  match frames with
  | [] => (inner, rest)
  | _ => assemble .next (put inner frames) rest

def Phase.Takes : Phase → Prop
  | .value => True
  | .valueOrClose => True
  | _ => False

theorem assemble_scalar (phase : Phase) (takes : phase.Takes) (frames : List Frame) (value : Option Json)
    (rest : List Token) : assemble phase frames (.scalar value :: rest) = finished (.scalar value) frames rest := by
  cases phase with
  | value => cases frames <;> rfl
  | valueOrClose => cases frames <;> rfl
  | _ => exact absurd takes id

theorem assemble_string (phase : Phase) (takes : phase.Takes) (frames : List Frame) (text : Option String)
    (rest : List Token) : assemble phase frames (.string text :: rest) = finished (.string text) frames rest := by
  cases phase with
  | value => cases frames <;> rfl
  | valueOrClose => cases frames <;> rfl
  | _ => exact absurd takes id

theorem assemble_open_array (phase : Phase) (takes : phase.Takes) (frames : List Frame) (rest : List Token) :
    assemble phase frames (.openArray :: rest) = assemble .valueOrClose (.array [] :: frames) rest := by
  cases phase with
  | value => rfl
  | valueOrClose => cases frames <;> rfl
  | _ => exact absurd takes id

theorem assemble_open_object (phase : Phase) (takes : phase.Takes) (frames : List Frame) (rest : List Token) :
    assemble phase frames (.openObject :: rest) = assemble .nameOrClose (.object [] :: frames) rest := by
  cases phase with
  | value => rfl
  | valueOrClose => cases frames <;> rfl
  | _ => exact absurd takes id

theorem tokens_mark (c : Char) (rest : List Char) (token : Token) (solid : isGap c = false)
    (marked : mark c = some token) : tokens (c :: rest) = token :: tokens rest :=
  tokens_first c rest rest token solid (by rw [firstToken, marked])

theorem assemble_named (phase : Phase) (opens : phase = .name ∨ phase = .nameOrClose)
    (members : List (Option String × Draft)) (outer : List Frame) (name : String) (text : List Char) :
    assemble phase (.object members :: outer) (tokens (stringChars name ++ ':' :: text)) =
      assemble .value (.member members (some name) :: outer) (tokens text) := by
  rw [tokens_string, tokens_mark ':' text .colon rfl rfl]
  rcases opens with rfl | rfl <;> rfl

theorem items_tail_ends (items : List Json) (rest : List Char) : Ends (itemsTail items ++ rest) := by
  cases items <;> exact ends_cons _ _ rfl (by decide)

theorem members_tail_ends (members : List (String × Json)) (rest : List Char) : Ends (membersTail members ++ rest) := by
  cases members <;> exact ends_cons _ _ rfl (by decide)

mutual
theorem value_assembled (j : Json) (data : j.isData = true) (phase : Phase) (takes : phase.Takes)
    (frames : List Frame) (rest : List Char) (ends : Ends rest) :
    assemble phase frames (tokens (j.compactChars ++ rest)) = finished (Draft.ofValue j) frames (tokens rest) := by
  cases j with
  | null =>
    have first : tokens ((Json.null).compactChars ++ rest) = .scalar (some .null) :: tokens rest :=
      tokens_first 'n' _ rest _ rfl rfl
    rw [first, assemble_scalar phase takes, Draft.ofValue]
  | bool b =>
    have first : tokens ((Json.bool b).compactChars ++ rest) = .scalar (some (.bool b)) :: tokens rest := by
      cases b
      · exact tokens_first 'f' _ rest _ rfl rfl
      · exact tokens_first 't' _ rest _ rfl rfl
    rw [first, assemble_scalar phase takes, Draft.ofValue]
  | integer n =>
    rw [tokens_number (.integer n) rfl rfl rest (integer_restored n data rest ends), assemble_scalar phase takes,
      Draft.ofValue]
  | real x =>
    have finite : x.isFinite = true := data
    rw [tokens_number (.real x) finite rfl rest (real_restored x finite rest ends), assemble_scalar phase takes,
      Draft.ofValue]
  | string s =>
    rw [compactChars, scalarChars, tokens_string, assemble_string phase takes, Draft.ofValue]
  | array items =>
    rw [compactChars, List.cons_append, tokens_mark '[' _ .openArray rfl rfl, assemble_open_array phase takes,
      Draft.ofValue]
    cases items with
    | nil =>
      rw [compactItems, List.singleton_append, tokens_mark ']' _ .closeArray rfl rfl]
      cases frames <;> rfl
    | cons item more =>
      rw [isData, areData, Bool.and_eq_true] at data
      rw [compact_items_cons, List.append_assoc,
        value_assembled item data.1 .valueOrClose trivial _ _ (items_tail_ends more rest)]
      exact items_assembled more data.2 [Draft.ofValue item] frames rest
  | object members =>
    rw [compactChars, List.cons_append, tokens_mark '\x7b' _ .openObject rfl rfl, assemble_open_object phase takes,
      Draft.ofValue]
    cases members with
    | nil =>
      rw [compactMembers, List.singleton_append, tokens_mark '\x7d' _ .closeObject rfl rfl]
      cases frames <;> rfl
    | cons member more =>
      obtain ⟨name, value⟩ := member
      rw [isData, membersData, Bool.and_eq_true] at data
      rw [compact_members_cons, List.append_assoc, List.cons_append, List.append_assoc,
        assemble_named .nameOrClose (.inr rfl),
        value_assembled value data.1 .value trivial _ _ (members_tail_ends more rest)]
      exact members_assembled more data.2 [(some name, Draft.ofValue value)] frames rest
theorem items_assembled (items : List Json) (data : areData items = true) (before : List Draft) (outer : List Frame)
    (rest : List Char) :
    assemble .next (.array before :: outer) (tokens (itemsTail items ++ rest)) =
      finished (.array (before.reverse ++ ofValues items)) outer (tokens rest) := by
  cases items with
  | nil =>
    rw [itemsTail, List.singleton_append, tokens_mark ']' _ .closeArray rfl rfl, ofValues, List.append_nil]
    cases outer <;> rfl
  | cons item more =>
    rw [areData, Bool.and_eq_true] at data
    have next : ∀ tokens, assemble .next (.array before :: outer) (.comma :: tokens) =
        assemble .value (.array before :: outer) tokens := fun _ => rfl
    rw [itemsTail, List.cons_append, tokens_mark ',' _ .comma rfl rfl, next, compact_items_cons, List.append_assoc,
      value_assembled item data.1 .value trivial _ _ (items_tail_ends more rest)]
    refine (items_assembled more data.2 (Draft.ofValue item :: before) outer rest).trans ?_
    rw [List.reverse_cons, List.append_assoc, List.singleton_append, ofValues]
theorem members_assembled (members : List (String × Json)) (data : membersData members = true)
    (before : List (Option String × Draft)) (outer : List Frame) (rest : List Char) :
    assemble .next (.object before :: outer) (tokens (membersTail members ++ rest)) =
      finished (.object (before.reverse ++ ofMembers members)) outer (tokens rest) := by
  cases members with
  | nil =>
    rw [membersTail, List.singleton_append, tokens_mark '\x7d' _ .closeObject rfl rfl, ofMembers, List.append_nil]
    cases outer <;> rfl
  | cons member more =>
    obtain ⟨name, value⟩ := member
    rw [membersData, Bool.and_eq_true] at data
    have next : ∀ tokens, assemble .next (.object before :: outer) (.comma :: tokens) =
        assemble .name (.object before :: outer) tokens := fun _ => rfl
    rw [membersTail, List.cons_append, tokens_mark ',' _ .comma rfl rfl, next, compact_members_cons, List.append_assoc,
      List.cons_append, List.append_assoc, assemble_named .name (.inl rfl),
      value_assembled value data.1 .value trivial _ _ (members_tail_ends more rest)]
    refine (members_assembled more data.2 ((some name, Draft.ofValue value) :: before) outer rest).trans ?_
    rw [List.reverse_cons, List.append_assoc, List.singleton_append, ofMembers]
end

mutual
theorem value_arranged (j : Json) (levels : Nat) (deep : j.depth < levels) :
    (Draft.ofValue j).value? levels = some j.arrange := by
  cases j with
  | null => rfl
  | bool b => rfl
  | integer n => rfl
  | real x => rfl
  | string s => rfl
  | array items =>
    rw [depth] at deep
    rw [Draft.ofValue, Draft.value?, if_neg (by omega), values_arranged items (levels - 1) (by omega), arrange]
    rfl
  | object members =>
    rw [depth] at deep
    rw [Draft.ofValue, Draft.value?, if_neg (by omega), members_arranged members (levels - 1) (by omega), arrange]
    rfl
theorem values_arranged (items : List Json) (levels : Nat) (deep : depthItems items < levels) :
    values? levels (ofValues items) = some (arrangeItems items) := by
  cases items with
  | nil => rfl
  | cons item more =>
    rw [depthItems] at deep
    rw [ofValues, values?, value_arranged item levels (by omega), values_arranged more levels (by omega), arrangeItems]
theorem members_arranged (members : List (String × Json)) (levels : Nat) (deep : depthMembers members < levels) :
    memberValues? levels (ofMembers members) = some (arrangeMembers members) := by
  cases members with
  | nil => rfl
  | cons member more =>
    obtain ⟨name, value⟩ := member
    rw [depthMembers] at deep
    have here := value_arranged value levels (by omega)
    have others := members_arranged more levels (by omega)
    simp only [ofMembers, memberValues?, here, others, arrangeMembers]
end

theorem read_compact (j : Json) (data : j.isData = true) (deep : j.depth < depthLimit) :
    read? j.compact = some j.arrange := by
  have assembled := value_assembled j data .value trivial [] [] ends_nil
  rw [List.append_nil, show tokens [] = [] by rw [tokens]] at assembled
  rw [read?, Draft.ofText, compact, String.toList_ofList, assembled]
  exact value_arranged j depthLimit deep

end ArchiveSearch.Json

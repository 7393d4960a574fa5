import ArchiveSearch.Proofs.Query.Selection
import ArchiveSearch.Query.IndexAdvice
import ArchiveSearch.Search.Database

namespace ArchiveSearch

set_option autoImplicit false

structure Index where
  name : String
  table : String
  columns : List String
  deriving DecidableEq

namespace Index

def columnsOf? : List Piece → Option (List String)
  | [.token (.word column)] => some [String.ofList column]
  | .token (.word column) :: .token .comma :: rest => (columnsOf? rest).map (String.ofList column :: ·)
  | _ => none

def ofPieces? : List Piece → Option Index
  | [create, index, if_, not_, exists_, .token (.word name), on, .token (.word table), .group columns,
      .token (.symbol [';'])] =>
      if create.isKeyword "create" && index.isKeyword "index" && if_.isKeyword "if" && not_.isKeyword "not" &&
          exists_.isKeyword "exists" && on.isKeyword "on" then
        (columnsOf? columns).map fun columns =>
          { name := String.ofList name, table := String.ofList table, columns }
      else none
  | _ => none

def isWord (words : List String) (name : String) : Bool :=
  words.any fun word => sameName word name

def ofText? (words : List String) (statement : String) : Option Index :=
  ((Piece.ofText? statement).bind ofPieces?).filter fun index => !index.columns.any (isWord words)

def isTaken (made : List Index) (name : String) : Bool :=
  made.any fun other => sameName other.name name

def create (made : List Index) (index : Index) : List Index :=
  if isTaken made index.name then made else made ++ [index]

def createAll (words statements : List String) (made : List Index) : Option (List Index) :=
  (statements.mapM (ofText? words)).map fun indexes => indexes.foldl create made

end Index

def columnPieces : List String → List Piece
  | [] => []
  | [column] => [.word column]
  | column :: next :: rest => .word column :: .token .comma :: columnPieces (next :: rest)

theorem columns_of_pieces (columns : List String) (some_ : columns ≠ []) :
    Index.columnsOf? (columnPieces columns) = some columns := by
  induction columns with
  | nil => exact absurd rfl some_
  | cons column rest ih =>
      cases rest with
      | nil => simp [columnPieces, Index.columnsOf?, Piece.word]
      | cons next rest =>
          rw [columnPieces, Piece.word, Index.columnsOf?, ih (List.cons_ne_nil _ _), Option.map_some, String.ofList_toList]

theorem column_pieces_plain (columns : List String) : Piece.PlainAll (columnPieces columns) := by
  induction columns with
  | nil => trivial
  | cons column rest ih =>
      cases rest with
      | nil => simp [columnPieces, Piece.PlainAll, Piece.Plain, Piece.word]
      | cons next rest => simpa [columnPieces, Piece.PlainAll, Piece.Plain, Piece.word] using ih

theorem columns_scan (number : Nat) (columns : List String)
    (each : ∀ column ∈ columns, Token.Letters column.toList ∧ column.toList ≠ []) (some_ : columns ≠ []) :
    Token.Scans number (.word []) (", ".intercalate columns ++ ")").toList
      (Piece.tokensAll (columnPieces columns) ++ [Token.closing]) number (.word []) := by
  induction columns with
  | nil => exact absurd rfl some_
  | cons column rest ih =>
      obtain ⟨⟨letters, nonempty⟩, others⟩ := List.forall_mem_cons.1 each
      obtain ⟨last, before, flushed, scanned⟩ := word_scans column number letters nonempty
      cases rest with
      | nil =>
          have closed : Token.Scans number (.word (last :: before)) ")".toList
              (Token.flush .word (last :: before) ++ [Token.closing]) number (.word []) := fun _ => rfl
          have all := Token.scans_append _ _ _ _ _ _ _ _ _ _ scanned closed
          rw [flushed] at all
          rw [String.toList_append]
          exact all
      | cons next rest =>
          have comma : Token.Scans number (.word (last :: before)) ", ".toList
              (Token.flush .word (last :: before) ++ [Token.comma]) number (.word []) := fun _ => rfl
          have all := Token.scans_append _ _ _ _ _ _ _ _ _ _
            (Token.scans_append _ _ _ _ _ _ _ _ _ _ scanned comma) (ih others (List.cons_ne_nil _ _))
          rw [flushed] at all
          rw [columnPieces, String.intercalate_cons_cons, String.append_assoc, String.toList_append, String.toList_append]
          simpa [Piece.tokensAll, Piece.word, Piece.tokens] using all

def IsPlainName (name : String) : Prop :=
  name.toList ≠ [] ∧ name.toList.all Column.isColumnChar = true

instance (name : String) : Decidable (IsPlainName name) :=
  inferInstanceAs (Decidable (name.toList ≠ [] ∧ name.toList.all Column.isColumnChar = true))

namespace IsPlainName

theorem chars {name : String} (plain : IsPlainName name) : ∀ c ∈ name.toList, Column.isColumnChar c = true :=
  List.all_eq_true.1 plain.2

theorem letters {name : String} (plain : IsPlainName name) : Token.Letters name.toList :=
  fun c mem => column_char_letter c (plain.chars c mem)

theorem append {a b : String} (plain : IsPlainName a) (plain' : IsPlainName b) : IsPlainName (a ++ b) := by
  rw [IsPlainName, String.toList_append]
  refine ⟨List.append_ne_nil_of_left_ne_nil plain.1 _, ?_⟩
  rw [List.all_append, plain.2, plain'.2]
  rfl

theorem of_field {field column : String} (named : Column.ofField? field = some column) : IsPlainName column := by
  refine ⟨fun none_ => ?_, List.all_eq_true.2 (Column.of_field_chars field column named)⟩
  have name := Column.of_field_is_name field column named
  rw [none_] at name
  cases name

theorem table (c : ContentType) : IsPlainName c.table := by
  cases c <;> decide

theorem joined (first : String) (rest : List String) (plain : ∀ name ∈ first :: rest, IsPlainName name) :
    IsPlainName ("_".intercalate (first :: rest)) := by
  induction rest generalizing first with
  | nil => simpa using plain
  | cons second rest ih =>
      obtain ⟨here, others⟩ := List.forall_mem_cons.1 plain
      have joint : IsPlainName "_" := by decide
      rw [String.intercalate_cons_cons]
      exact (here.append joint).append (ih second others)

end IsPlainName

theorem fold_column_char (c : Char) (plain : Column.isColumnChar c = true) : Text.foldChar c = c :=
  of_column_char (fun c => Text.foldChar c = c) (by decide) c plain

theorem same_name_iff (a b : String) (plain : IsPlainName a) (plain' : IsPlainName b) : sameName a b = true ↔ a = b := by
  have kept : ∀ s : String, IsPlainName s → s.toList.map Text.foldChar = s.toList := fun s plain =>
    (List.map_congr_left fun c mem => fold_column_char c (plain.chars c mem)).trans (List.map_id _)
  rw [sameName, beq_iff_eq, kept a plain, kept b plain', String.toList_inj]

namespace IndexAdvice

def index (a : IndexAdvice) : Index :=
  { name := a.name, table := a.table, columns := a.columns }

structure IsPlain (a : IndexAdvice) : Prop where
  table : IsPlainName a.table
  columns : ∀ column ∈ a.columns, IsPlainName column
  some_ : a.columns ≠ []

theorem IsPlain.name {a : IndexAdvice} (plain : a.IsPlain) : IsPlainName a.name := by
  have index : IsPlainName "idx_" := by decide
  have joint : IsPlainName "_" := by decide
  obtain ⟨first, rest, columns⟩ := List.exists_cons_of_ne_nil plain.some_
  have joined := IsPlainName.joined first rest (columns ▸ plain.columns)
  rw [IndexAdvice.name, columns]
  exact ((index.append plain.table).append joint).append joined

theorem statement_words (name table columns : String) :
    "CREATE INDEX IF NOT EXISTS " ++ name ++ " ON " ++ table ++ "(" ++ columns ++ ");" =
      spaced ["CREATE", "INDEX", "IF", "NOT", "EXISTS"] ++ (name ++ " ") ++ spaced ["ON"] ++
        (table ++ ("(" ++ (columns ++ ")"))) ++ ";" := by
  have create : "CREATE INDEX IF NOT EXISTS " = spaced ["CREATE", "INDEX", "IF", "NOT", "EXISTS"] := by decide
  have on : " ON " = " " ++ spaced ["ON"] := by decide
  have last : ");" = ")" ++ ";" := by decide
  rw [on, last, create]
  simp only [String.append_assoc]

theorem text_words (a : IndexAdvice) : a.text =
    spaced ["CREATE", "INDEX", "IF", "NOT", "EXISTS"] ++ (a.name ++ " ") ++ spaced ["ON"] ++
      (a.table ++ ("(" ++ (", ".intercalate a.columns ++ ")"))) ++ ";" :=
  statement_words _ _ _

theorem text_read (a : IndexAdvice) (plain : a.IsPlain) :
    (Piece.ofText? a.text).bind Index.ofPieces? = some a.index := by
  have name := plain.name
  have create := words_read 0 ["CREATE", "INDEX", "IF", "NOT", "EXISTS"] (by decide)
  have named := spaced_reads a.name 0 name.letters name.1
  have on := words_read 0 ["ON"] (by decide)
  have opened : ∀ last before, Token.Scans 0 (.word (last :: before)) "(".toList
      (Token.flush .word (last :: before) ++ [Token.opening]) 0 (.word []) := fun _ _ _ => rfl
  have columns := columns_scan 0 a.columns (fun c mem => ⟨(plain.columns c mem).letters, (plain.columns c mem).1⟩)
    plain.some_
  have table := word_reads a.table ("(" ++ (", ".intercalate a.columns ++ ")")) 0 0 [.group (columnPieces a.columns)]
    plain.table.letters plain.table.1 fun last before => by
      rw [String.toList_append]
      have all := Token.scans_append _ _ _ _ _ _ _ _ _ _ (opened last before) columns
      simpa [Piece.tokensAll, Piece.tokens] using all
  have ends : Token.ReadsToEnd 0 ";" [.symbol ";"] := rfl
  have read := Token.to_end_append _ _ _ _ _ _ (Token.reads_append _ _ _ _ _ _ _ (Token.reads_append _ _ _ _ _ _ _
    (Token.reads_append _ _ _ _ _ _ _ create named) on) table) ends
  have plainAll : Piece.PlainAll (["CREATE", "INDEX", "IF", "NOT", "EXISTS"].map Piece.word ++ [Piece.word a.name] ++
      ["ON"].map Piece.word ++ [Piece.word a.table, .group (columnPieces a.columns)] ++ [Piece.symbol ";"]) := by
    simp [Piece.PlainAll, Piece.Plain, Piece.word, Piece.symbol, column_pieces_plain]
  rw [text_words, Token.to_end_pieces _ _ plainAll read, Option.bind_some]
  simp [Index.ofPieces?, Piece.word, Piece.symbol, Piece.isKeyword, columns_of_pieces a.columns plain.some_, index]
  decide

theorem texts_read (words : List String) (advice : List IndexAdvice) (plain : ∀ a ∈ advice, a.IsPlain) :
    (advice.map text).mapM (Index.ofText? words) =
      if advice.any fun a => a.columns.any (Index.isWord words) then none else some (advice.map index) := by
  induction advice with
  | nil => rfl
  | cons a rest ih =>
      obtain ⟨here, others⟩ := List.forall_mem_cons.1 plain
      have read : Index.ofText? words a.text = if a.columns.any (Index.isWord words) then none else some a.index := by
        rw [Index.ofText?, text_read a here, Option.filter_some]
        by_cases word : a.columns.any (Index.isWord words) = true <;> simp [index, word]
      rw [List.map_cons, List.mapM_cons, read, ih others, List.any_cons]
      by_cases word : a.columns.any (Index.isWord words) = true
      · simp [word]
      · by_cases later : (rest.any fun a => a.columns.any (Index.isWord words)) = true <;> simp [word, later]

end IndexAdvice

namespace Index

theorem created_apart (made indexes : List Index) (plain : ∀ index ∈ made ++ indexes, IsPlainName index.name)
    (apart : ((made ++ indexes).map name).Nodup) : indexes.foldl create made = made ++ indexes := by
  induction indexes generalizing made with
  | nil => rw [List.foldl_nil, List.append_nil]
  | cons index rest ih =>
      have free : isTaken made index.name = false := by
        rw [isTaken, List.any_eq_false]
        intro other mem same
        have equal := (same_name_iff _ _ (plain other (List.mem_append_left _ mem))
          (plain index (List.mem_append_right _ List.mem_cons_self))).1 same
        rw [List.map_append, List.nodup_append] at apart
        exact apart.2.2 _ (List.mem_map_of_mem mem) _ (List.mem_map_of_mem List.mem_cons_self) equal
      rw [List.foldl_cons, create, free]
      have later := ih (made ++ [index]) (by simpa using plain) (by simpa using apart)
      simpa using later

theorem create_taken (made : List Index) (index other : Index) (mem : other ∈ made)
    (same : other.name = index.name) : create made index = made := by
  have taken : isTaken made index.name = true :=
    List.any_eq_true.2 ⟨other, mem, by rw [sameName, same, beq_self_eq_true]⟩
  rw [create, taken, if_pos rfl]

end Index

namespace Filter

theorem distinct_from (kept names : List String) (apart : kept.Nodup) :
    let all := names.foldl (fun kept name => if kept.contains name then kept else kept ++ [name]) kept
    all.Nodup ∧ ∀ name, name ∈ all ↔ name ∈ kept ∨ name ∈ names := by
  induction names generalizing kept with
  | nil => simp [apart]
  | cons first rest ih =>
      rw [List.foldl_cons]
      by_cases known : first ∈ kept
      · have again := ih kept apart
        rw [if_pos (List.contains_iff_mem.2 known)]
        refine ⟨again.1, fun name => ?_⟩
        rw [again.2, List.mem_cons]
        constructor
        · rintro (old | later)
          · exact .inl old
          · exact .inr (.inr later)
        · rintro (old | rfl | later)
          · exact .inl old
          · exact .inl known
          · exact .inr later
      · have longer : (kept ++ [first]).Nodup :=
          List.nodup_append.2 ⟨apart, List.nodup_singleton _, fun name mem other last same =>
            known (List.mem_singleton.1 last ▸ same ▸ mem)⟩
        have again := ih (kept ++ [first]) longer
        rw [if_neg (fun there => known (List.contains_iff_mem.1 there))]
        refine ⟨again.1, fun name => ?_⟩
        rw [again.2, List.mem_append, List.mem_singleton, List.mem_cons, or_assoc]

theorem distinct_nodup (names : List String) : (distinct names).Nodup :=
  (distinct_from [] names List.nodup_nil).1

theorem mem_distinct (names : List String) (name : String) : name ∈ distinct names ↔ name ∈ names := by
  have all := (distinct_from [] names List.nodup_nil).2 name
  rwa [or_iff_right List.not_mem_nil] at all

def lookedInto (f : Filter) : List String :=
  distinct (f.textColumns ++ f.dateColumns ++ f.rangeColumns)

def clashes (f : Filter) : Bool :=
  f.compositeColumns.any fun columns => f.lookedInto.contains ("_".intercalate columns)

theorem columns_plain (f : Filter) (column : String)
    (mem : column ∈ f.textColumns ++ f.dateColumns ++ f.rangeColumns) : IsPlainName column := by
  simp only [textColumns, dateColumns, rangeColumns, List.mem_append, List.mem_filterMap] at mem
  rcases mem with (⟨_, -, named⟩ | ⟨_, -, named⟩) | ⟨_, -, named⟩ <;> exact .of_field named

theorem composite_iff (f : Filter) (columns : List String) :
    f.compositeColumns = some columns ↔
      ∃ t d, f.textColumns.head? = some t ∧ f.dateColumns.head? = some d ∧ t ≠ d ∧ columns = [t, d] := by
  rw [compositeColumns.eq_def]
  cases f.textColumns with
  | nil => simp
  | cons text texts =>
      cases f.dateColumns with
      | nil => simp
      | cons date dates =>
          by_cases same : text = date
          · simp [same]
          · simp [same, eq_comm (a := columns)]

theorem composite_mem (f : Filter) (t d : String) (both : f.compositeColumns = some [t, d]) :
    t ∈ f.textColumns ++ f.dateColumns ++ f.rangeColumns ∧ d ∈ f.textColumns ++ f.dateColumns ++ f.rangeColumns := by
  obtain ⟨t', d', text, date, -, same⟩ := (composite_iff f _).1 both
  cases same
  have text' := List.mem_of_head? text
  have date' := List.mem_of_head? date
  simp [text', date']

def advise (f : Filter) (columns : List String) : IndexAdvice :=
  { table := f.contentType.table, columns }

theorem index_advice_eq (f : Filter) :
    f.indexAdvice = (f.lookedInto.map fun column => f.advise [column]) ++ (f.compositeColumns.map f.advise).toList :=
  rfl

theorem advice_plain (f : Filter) : ∀ a ∈ f.indexAdvice, a.IsPlain := by
  intro a mem
  rw [index_advice_eq, List.mem_append, List.mem_map, Option.mem_toList, Option.map_eq_some_iff] at mem
  rcases mem with ⟨column, known, rfl⟩ | ⟨columns, both, rfl⟩
  · have plain := f.columns_plain column ((mem_distinct _ _).1 known)
    exact ⟨.table _, List.forall_mem_singleton.2 plain, List.cons_ne_nil _ _⟩
  · obtain ⟨t, d, -, -, -, rfl⟩ := (composite_iff f columns).1 both
    obtain ⟨text, date⟩ := f.composite_mem t d both
    refine ⟨.table _, ?_, List.cons_ne_nil _ _⟩
    exact List.forall_mem_cons.2 ⟨f.columns_plain t text, List.forall_mem_singleton.2 (f.columns_plain d date)⟩

theorem columns_advised_iff (f : Filter) (columns : List String) :
    columns ∈ f.indexAdvice.map IndexAdvice.columns ↔
      (∃ c ∈ f.textColumns ++ f.dateColumns ++ f.rangeColumns, columns = [c]) ∨ f.compositeColumns = some columns := by
  rw [index_advice_eq, List.map_append, List.mem_append]
  refine or_congr ?_ ?_
  · rw [List.map_map, List.mem_map]
    simp only [lookedInto, mem_distinct, Function.comp_apply, advise, eq_comm]
  · cases f.compositeColumns with
    | none => simp
    | some both => simp [advise, eq_comm]

theorem columns_advised_nodup (f : Filter) : (f.indexAdvice.map IndexAdvice.columns).Nodup := by
  rw [index_advice_eq, List.map_append, List.map_map, List.nodup_append]
  refine ⟨(distinct_nodup _).map fun c d same => List.singleton_inj.1 same, ?_, ?_⟩
  · cases f.compositeColumns <;> simp
  · intro one mem two last same
    obtain ⟨c, -, rfl⟩ := List.mem_map.1 mem
    obtain ⟨a, advised, rfl⟩ := List.mem_map.1 last
    obtain ⟨columns, both, rfl⟩ := Option.map_eq_some_iff.1 (Option.mem_toList.1 advised)
    obtain ⟨t, d, -, -, -, rfl⟩ := (composite_iff f columns).1 both
    cases same

theorem name_iff (f : Filter) (columns columns' : List String) :
    (f.advise columns).name = (f.advise columns').name ↔ "_".intercalate columns = "_".intercalate columns' := by
  have front : ∀ a b c : String, a ++ b = a ++ c ↔ b = c := by
    intro a b c
    rw [← String.toList_inj, String.toList_append, String.toList_append, List.append_right_inj, String.toList_inj]
  exact front ("idx_" ++ f.contentType.table ++ "_") _ _

theorem single_names_nodup (f : Filter) :
    ((f.lookedInto.map fun column => f.advise [column]).map IndexAdvice.name).Nodup := by
  rw [List.map_map]
  refine (distinct_nodup _).map fun c d same => ?_
  simpa using (f.name_iff [c] [d]).1 same

theorem composite_name_iff (f : Filter) (columns : List String) (both : f.compositeColumns = some columns) :
    (f.advise columns).name ∈ (f.lookedInto.map fun column => f.advise [column]).map IndexAdvice.name ↔
      f.clashes = true := by
  rw [clashes, both, Option.any_some, List.contains_iff_mem, List.map_map, List.mem_map]
  constructor
  · rintro ⟨column, mem, same⟩
    have joined := (f.name_iff _ _).1 same
    rw [String.intercalate_singleton] at joined
    exact joined ▸ mem
  · intro mem
    exact ⟨_, mem, (f.name_iff _ _).2 (String.intercalate_singleton)⟩

theorem names_nodup_iff (f : Filter) : (f.indexAdvice.map IndexAdvice.name).Nodup ↔ f.clashes = false := by
  rw [index_advice_eq, List.map_append, List.nodup_append]
  cases both : f.compositeColumns with
  | none => simpa [clashes, both] using f.single_names_nodup
  | some columns =>
      rw [← Bool.not_eq_true, ← f.composite_name_iff columns both]
      constructor
      · rintro ⟨-, -, apart⟩ mem
        exact apart _ mem _ (by simp) rfl
      · intro free
        refine ⟨f.single_names_nodup, by simp, ?_⟩
        intro name mem other last same
        rw [Option.map_some, Option.toList_some, List.map_singleton, List.mem_singleton] at last
        exact free (last ▸ same ▸ mem)

theorem created_eq (f : Filter) : (f.indexAdvice.map IndexAdvice.index).foldl Index.create [] =
    if f.clashes then f.lookedInto.map fun column => (f.advise [column]).index
    else f.indexAdvice.map IndexAdvice.index := by
  have plain : ∀ index ∈ f.indexAdvice.map IndexAdvice.index, IsPlainName index.name := by
    intro index mem
    obtain ⟨a, advised, rfl⟩ := List.mem_map.1 mem
    exact (f.advice_plain a advised).name
  have names : ∀ advice : List IndexAdvice,
      (advice.map IndexAdvice.index).map Index.name = advice.map IndexAdvice.name := by
    intro advice
    rw [List.map_map]
    rfl
  by_cases taken : f.clashes = true
  · rw [if_pos taken]
    cases both : f.compositeColumns with
    | none =>
        rw [clashes, both] at taken
        cases taken
    | some columns =>
        have all := f.index_advice_eq
        rw [both, Option.map_some, Option.toList_some] at all
        rw [all, List.map_append] at plain ⊢
        obtain ⟨other, mem, same⟩ := List.mem_map.1 ((f.composite_name_iff columns both).2 taken)
        rw [List.foldl_append, Index.created_apart [] _ (fun index mem => plain index (List.mem_append_left _ mem))
          (by simpa only [List.nil_append, names] using f.single_names_nodup)]
        rw [List.nil_append, List.map_singleton, List.foldl_cons, List.foldl_nil,
          Index.create_taken _ (f.advise columns).index other.index (List.mem_map_of_mem mem) same, List.map_map]
        rfl
  · rw [if_neg taken]
    have apart := f.names_nodup_iff.2 (by simpa using taken)
    exact Index.created_apart [] _ plain (by simpa only [List.nil_append, names] using apart)

theorem words_advised (f : Filter) (words : List String) :
    (f.indexAdvice.any fun a => a.columns.any (Index.isWord words)) = f.lookedInto.any (Index.isWord words) := by
  rw [Bool.eq_iff_iff, List.any_eq_true, List.any_eq_true]
  constructor
  · rintro ⟨a, mem, word⟩
    obtain ⟨column, there, word⟩ := List.any_eq_true.1 word
    refine ⟨column, (mem_distinct _ _).2 ?_, word⟩
    rcases (f.columns_advised_iff a.columns).1 (List.mem_map_of_mem mem) with ⟨c, known, same⟩ | both
    · rw [same, List.mem_singleton] at there
      exact there ▸ known
    · obtain ⟨t, d, -, -, -, same⟩ := (composite_iff f _).1 both
      obtain ⟨text, date⟩ := f.composite_mem t d (same ▸ both)
      rw [same, List.mem_cons, List.mem_singleton] at there
      rcases there with rfl | rfl
      · exact text
      · exact date
  · rintro ⟨column, known, word⟩
    refine ⟨f.advise [column], ?_, by simpa [advise] using word⟩
    rw [index_advice_eq]
    exact List.mem_append_left _ (List.mem_map_of_mem known)

-- Every column that is looked into is advised once, and the first of texts together with the first of dates if they
-- differ. Run on a table without indexes, each statement makes its index, unless the two columns of the last one are, with
-- an underscore between them, the name of a column that is looked into: then the names are not apart, and the index over
-- two columns is not made.
theorem advised_indexes_made (f : Filter) (words : List String) :
    (∀ a ∈ f.indexAdvice, a.table = f.contentType.table) ∧
      (f.indexAdvice.map IndexAdvice.columns).Nodup ∧
      (∀ columns, columns ∈ f.indexAdvice.map IndexAdvice.columns ↔
        (∃ c ∈ f.textColumns ++ f.dateColumns ++ f.rangeColumns, columns = [c]) ∨
          ∃ t d, f.textColumns.head? = some t ∧ f.dateColumns.head? = some d ∧ t ≠ d ∧ columns = [t, d]) ∧
      ((f.indexAdvice.map IndexAdvice.name).Nodup ↔ f.clashes = false) ∧
      Index.createAll words f.suggestIndexes [] =
        if f.lookedInto.any (Index.isWord words) then none
        else some (if f.clashes then f.lookedInto.map fun column => (f.advise [column]).index
          else f.indexAdvice.map IndexAdvice.index) := by
  refine ⟨fun a mem => ?_, f.columns_advised_nodup, fun columns => ?_, f.names_nodup_iff, ?_⟩
  · rw [index_advice_eq, List.mem_append, List.mem_map, Option.mem_toList, Option.map_eq_some_iff] at mem
    rcases mem with ⟨column, -, rfl⟩ | ⟨columns, -, rfl⟩ <;> rfl
  · rw [columns_advised_iff, composite_iff]
  · rw [Index.createAll, suggestIndexes, IndexAdvice.texts_read words _ f.advice_plain, words_advised]
    by_cases word : f.lookedInto.any (Index.isWord words) = true
    · simp [word]
    · rw [if_neg word, if_neg word, Option.map_some, created_eq]

end Filter

def graduates : Filter :=
  ((Filter.empty .alumni).withText "graduation" "may" .contains).withText "graduationDate" "may" .contains
    |>.withDate "date" none none .custom

theorem graduation_date_taken :
    graduates.suggestIndexes.length = 4 ∧ ¬ (graduates.indexAdvice.map IndexAdvice.name).Nodup ∧
      (Index.createAll [] graduates.suggestIndexes []).map (fun made => made.map Index.columns) =
        some [["graduation"], ["graduation_date"], ["date"]] := by
  refine ⟨by decide +kernel, by decide +kernel, ?_⟩
  rw [Index.createAll, Filter.suggestIndexes, IndexAdvice.texts_read [] _ graduates.advice_plain]
  decide +kernel

end ArchiveSearch

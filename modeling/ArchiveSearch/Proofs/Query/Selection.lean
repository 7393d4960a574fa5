import ArchiveSearch.Proofs.Query.Meaning

/- Queries as they are read from their texts: what is shown, from which table, with which hits of a full-text index
   beside its rows, under which condition and in which order. The texts of a filter's queries read as such selections. -/
namespace ArchiveSearch

set_option autoImplicit false

def Piece.cutAt (name : String) : List Piece → Option (List Piece × List Piece)
  | [] => none
  | p :: rest =>
      if p.isKeyword name then some ([], rest)
      else (cutAt name rest).map fun cut => (p :: cut.1, cut.2)

-- The hits of an expression, joined to the rows of a table by their rowids. The expression is bound to a placeholder.
structure Join where
  name : List Char
  key : List Char
  score : List Char
  fullText : List Char
  number : Nat
  deriving DecidableEq

-- What is shown of the rows: all columns of the table, these and the relevance of the hit, or how many rows there are.
inductive Shown where
  | columns
  | ranked
  | number
  deriving DecidableEq

structure Selection where
  shown : Shown
  table : List Char
  join : Option Join
  condition : List Piece
  byRelevance : Bool

namespace Selection

def qualified (table column : List Char) : List Char :=
  table ++ '.' :: column

def rowid : List Char :=
  ['r', 'o', 'w', 'i', 'd']

def sourceOf? : List Piece → Option (List Char × Option Join)
  | [.token (.word table)] => some (table, none)
  | [.token (.word table), left, join,
      .group [select, row, as₁, .token (.word key), .token .comma, rank, .group [.token (.word ranked)], as₂,
        .token (.word score), from_, .token (.word fullText), where_, .token (.word matched), match_,
        .token (.placeholder number)],
      as₃, .token (.word name), on, .token (.word hit), .token (.symbol ['=']), .token (.word here)] =>
      if left.isKeyword "left" && join.isKeyword "join" && select.isKeyword "select" && row.isKeyword "rowid" &&
          as₁.isKeyword "as" && rank.isKeyword "bm25" && as₂.isKeyword "as" && from_.isKeyword "from" &&
          where_.isKeyword "where" && match_.isKeyword "match" && as₃.isKeyword "as" && on.isKeyword "on" &&
          ranked == fullText && matched == fullText && hit == qualified name key && here == qualified table rowid then
        some (table, some { name, key, score, fullText, number })
      else none
  | _ => none

def shownOf? (table : List Char) (join : Option Join) : List Piece → Option Shown
  | [.token (.word all), .token (.symbol ['*'])] => if all = table ++ ['.'] then some .columns else none
  | [.token (.word all), .token (.symbol ['*']), .token .comma, .token (.word score), as, .token (.word shown)] =>
      if all = table ++ ['.'] && (join.any fun j => score == qualified j.name j.score && shown == j.score) &&
          as.isKeyword "as" then
        some .ranked
      else none
  | [count, .group [.token (.symbol ['*'])], as, name] =>
      if count.isKeyword "count" && as.isKeyword "as" && name.isKeyword "count" then some .number else none
  | _ => none

def isByRelevance (join : Option Join) : List Piece → Bool
  | [by_, .token (.word first), is, null, .token .comma, .token (.word second)] =>
      by_.isKeyword "by" && is.isKeyword "is" && null.isKeyword "null" &&
        join.any fun j => first == j.score && second == j.score
  | _ => false

def orderedOf? (shown : Shown) (table : List Char) (join : Option Join) (behind : List Piece) : Option Selection :=
  match Piece.cutAt "order" behind with
  | none => some { shown, table, join, condition := behind, byRelevance := false }
  | some (condition, order) =>
      if isByRelevance join order then some { shown, table, join, condition, byRelevance := true } else none

def ofPieces? : List Piece → Option Selection
  | [] => none
  | select :: pieces =>
      if select.isKeyword "select" then do
        let (columns, pieces) ← Piece.cutAt "from" pieces
        let (source, behind) ← Piece.cutAt "where" pieces
        let (table, join) ← sourceOf? source
        let shown ← shownOf? table join columns
        orderedOf? shown table join behind
      else none

def ofText? (text : String) : Option Selection :=
  (Piece.ofText? text).bind ofPieces?

end Selection

def Lacks (name : String) (ps : List Piece) : Prop :=
  ∀ p ∈ ps, p.isKeyword name = false

theorem cut_at_keyword (name : String) (ps : List Piece) (p : Piece) (rest : List Piece) (lacks : Lacks name ps)
    (keyword : p.isKeyword name = true) : Piece.cutAt name (ps ++ p :: rest) = some (ps, rest) := by
  induction ps with
  | nil => rw [List.nil_append, Piece.cutAt, if_pos keyword]
  | cons q ps ih =>
      obtain ⟨here, later⟩ := List.forall_mem_cons.1 lacks
      rw [List.cons_append, Piece.cutAt, if_neg (by simp [here]), ih later, Option.map_some]

theorem cut_at_absent (name : String) (ps : List Piece) (lacks : Lacks name ps) : Piece.cutAt name ps = none := by
  induction ps with
  | nil => rfl
  | cons q ps ih =>
      obtain ⟨here, later⟩ := List.forall_mem_cons.1 lacks
      rw [Piece.cutAt, if_neg (by simp [here]), ih later, Option.map_none]

namespace Selection

theorem of_parts (columns source behind : List Piece) (table : List Char) (join : Option Join) (shown : Shown)
    (plain : Lacks "from" columns) (whole : Lacks "where" source) (tables : sourceOf? source = some (table, join))
    (shows_ : shownOf? table join columns = some shown) :
    ofPieces? (.word "SELECT" :: (columns ++ .word "FROM" :: (source ++ .word "WHERE" :: behind))) =
      orderedOf? shown table join behind := by
  rw [ofPieces?, if_pos (by decide), cut_at_keyword "from" columns _ _ plain (by decide)]
  simp only [Option.bind_eq_bind, Option.bind_some]
  rw [cut_at_keyword "where" source _ _ whole (by decide)]
  simp only [Option.bind_some, tables, shows_]

theorem plain_parts (columns source behind : List Piece) (shows_ : Piece.PlainAll columns)
    (tables : Piece.PlainAll source) (plain : Piece.PlainAll behind) :
    Piece.PlainAll (.word "SELECT" :: (columns ++ .word "FROM" :: (source ++ .word "WHERE" :: behind))) := by
  have word : ∀ name, (Piece.word name).Plain := fun name => by simp [Piece.word, Piece.Plain]
  simp [Piece.PlainAll, Piece.plain_all_append, word, shows_, tables, plain]

variable (shown : Shown) (table : List Char) (join : Option Join) (condition : List Piece)
  (unordered : Lacks "order" condition)
include unordered

theorem of_unordered : orderedOf? shown table join condition =
    some { shown, table, join, condition, byRelevance := false } := by
  rw [orderedOf?, cut_at_absent "order" condition unordered]

theorem of_ordered (order : List Piece) (ordered : isByRelevance join order = true) :
    orderedOf? shown table join (condition ++ .word "ORDER" :: order) =
      some { shown, table, join, condition, byRelevance := true } := by
  rw [orderedOf?, cut_at_keyword "order" condition _ _ unordered (by decide)]
  dsimp only
  rw [if_pos ordered]

end Selection

theorem call_reads (w v : String) (number : Nat) (letters : Token.Letters w.toList) (some_ : w.toList ≠ [])
    (letters' : Token.Letters v.toList) (some' : v.toList ≠ []) :
    Token.Reads number (w ++ "(" ++ v ++ ")") [.word w, .group [.word v]] number := by
  obtain ⟨last, before, flushed, scanned⟩ := word_scans w number letters some_
  obtain ⟨last', before', flushed', scanned'⟩ := word_scans v number letters' some'
  have opened : Token.Scans number (.word (last :: before)) "(".toList
      (Token.flush .word (last :: before) ++ [Token.opening]) number (.word []) := fun _ => rfl
  have closed : Token.Scans number (.word (last' :: before')) ")".toList
      (Token.flush .word (last' :: before') ++ [Token.closing]) number (.word []) := fun _ => rfl
  have all := Token.scans_append _ _ _ _ _ _ _ _ _ _
    (Token.scans_append _ _ _ _ _ _ _ _ _ _ (Token.scans_append _ _ _ _ _ _ _ _ _ _ scanned opened) scanned') closed
  rw [flushed, flushed'] at all
  rw [Token.Reads, String.toList_append, String.toList_append, String.toList_append]
  exact all

namespace Clause

theorem comparisons_unordered (table : String) (number : Nat) (c : Clause) :
    ∀ o ∈ c.comparisons table number, Lacks "order" o := by
  obtain ⟨column, test⟩ := c
  have name : (Piece.word (table ++ "." ++ column)).isKeyword "order" = false :=
    name_apart table column "order" (by decide)
  have mark : ∀ n, (Piece.mark n).isKeyword "order" = false := fun _ => rfl
  have symbol : ∀ s, (Piece.symbol s).isKeyword "order" = false := fun _ => rfl
  have group : ∀ ps, (Piece.group ps).isKeyword "order" = false := fun _ => rfl
  have lower : (Piece.word "LOWER").isKeyword "order" = false := by decide
  have between : (Piece.word "BETWEEN").isKeyword "order" = false := by decide
  have and_ : (Piece.word "AND").isKeyword "order" = false := by decide
  have like : (Piece.word "LIKE").isKeyword "order" = false := by decide
  have not_ : (Piece.word "NOT").isKeyword "order" = false := by decide
  cases test with
  | compare comparison value =>
      cases comparison <;> simp [comparisons, Comparison.pieces, Lacks, name, mark, symbol, like, not_]
  | _ => simp [comparisons, Lacks, name, mark, symbol, group, lower, between, and_]

theorem operands_unordered (table : String) (number : Nat) (clauses : List Clause) :
    ∀ o ∈ operands table number clauses, Lacks "order" o := by
  induction clauses generalizing number with
  | nil => exact fun _ mem => absurd mem List.not_mem_nil
  | cons c rest ih =>
      refine List.forall_mem_cons.2 ⟨?_, ih (number + c.params.length)⟩
      have each := comparisons_unordered table number c
      unfold pieces
      split
      · rename_i comparison one
        exact each comparison (by rw [one]; exact List.mem_cons_self)
      · exact fun p mem => List.mem_singleton.1 mem ▸ rfl

end Clause

theorem lacks_intercalate (name : String) (joint : Piece) (operands : List (List Piece))
    (here : joint.isKeyword name = false) (each : ∀ o ∈ operands, Lacks name o) :
    Lacks name ([joint].intercalate operands) := by
  induction operands with
  | nil => exact fun _ mem => absurd mem (by simp [List.intercalate])
  | cons first rest ih =>
      obtain ⟨lacks, others⟩ := List.forall_mem_cons.1 each
      cases rest with
      | nil => simpa [List.intercalate] using lacks
      | cons second rest =>
          rw [Formula.intercalate_cons]
          intro p mem
          rcases List.mem_append.1 mem with inside | mem
          · exact lacks p inside
          · rcases List.mem_cons.1 mem with rfl | behind
            · exact here
            · exact ih others p behind

def Connective.pieces (connective : Connective) : List (List Piece) → List Piece
  | [] => Formula.constant true
  | operands => [Piece.word connective.name].intercalate operands

namespace Connective

variable (connective : Connective) (operands : List (List Piece))

theorem pieces_some (some_ : operands ≠ []) :
    connective.pieces operands = [Piece.word connective.name].intercalate operands := by
  cases operands with
  | nil => exact absurd rfl some_
  | cons first rest => rfl

theorem pieces_plain (plain : ∀ o ∈ operands, Piece.PlainAll o) : Piece.PlainAll (connective.pieces operands) := by
  cases operands with
  | nil => simp [pieces, Formula.constant, Piece.PlainAll, Piece.Plain, Piece.word, Piece.symbol]
  | cons first rest => exact plain_intercalate _ _ ⟨by simp, by simp⟩ plain

theorem pieces_unordered (unordered : ∀ o ∈ operands, Lacks "order" o) :
    Lacks "order" (connective.pieces operands) := by
  cases operands with
  | nil =>
      intro p mem
      have each : ∀ q ∈ Formula.constant true, q.isKeyword "order" = false := by
        simp only [Formula.constant, List.forall_mem_cons]
        exact ⟨by decide, rfl, by decide, fun _ mem => absurd mem List.not_mem_nil⟩
      exact each p mem
  | cons first rest =>
      refine lacks_intercalate "order" _ _ ?_ unordered
      cases connective <;> decide

theorem pieces_value (v : Formula.Valuation) (closed : ∀ o ∈ operands, Formula.Closed o) :
    Formula.value v.atoms (connective.pieces operands) =
      connective.together (operands.map (Formula.value v.atoms)) := by
  cases operands with
  | nil => exact v.constants true
  | cons first rest => exact together_value connective v.atoms (first :: rest) (List.cons_ne_nil _ _) closed

end Connective

theorem blank_reads (number : Nat) : Token.Reads number " " [] number :=
  fun _ => rfl

theorem word_ends (w : String) (number : Nat) (letters : Token.Letters w.toList) (some_ : w.toList ≠ []) :
    Token.ReadsToEnd number w [.word w] := by
  obtain ⟨last, before, flushed, scanned⟩ := word_scans w number letters some_
  have all := scanned []
  rw [List.append_nil, List.nil_append] at all
  exact all.trans flushed

theorem connective_reads (connective : Connective) (number : Nat) :
    Token.Reads number (connective.name ++ " ") [.word connective.name] number := by
  cases connective <;> exact spaced_reads _ number (by decide) (by decide)

namespace ContentType

def hits (c : ContentType) : String :=
  c.fullTextTable ++ "_hits"

def hitRows (c : ContentType) : List Piece :=
  [.word "SELECT", .word "rowid", .word "AS", .word "fts_rowid", .token .comma, .word "bm25",
    .group [.word c.fullTextTable], .word "AS", .word "relevance", .word "FROM", .word c.fullTextTable, .word "WHERE",
    .word c.fullTextTable, .word "MATCH", .mark 0]

def join (c : ContentType) : Join where
  name := c.hits.toList
  key := ['f', 't', 's', '_', 'r', 'o', 'w', 'i', 'd']
  score := ['r', 'e', 'l', 'e', 'v', 'a', 'n', 'c', 'e']
  fullText := c.fullTextTable.toList
  number := 0

def columns (c : ContentType) : Bool → List Piece
  | true => [.word (c.table ++ "."), .symbol "*", .token .comma, .word (c.hits ++ ".relevance"), .word "AS",
      .word "relevance"]
  | false => [.word (c.table ++ "."), .symbol "*"]

def source (c : ContentType) : Bool → List Piece
  | true => [.word c.table, .word "LEFT", .word "JOIN", .group c.hitRows, .word "AS", .word c.hits, .word "ON",
      .word (c.hits ++ ".fts_rowid"), .symbol "=", .word (c.table ++ ".rowid")]
  | false => [.word c.table]

def found (c : ContentType) : List Piece :=
  [.word (c.hits ++ ".fts_rowid"), .word "IS", .word "NOT", .word "NULL"]

def counted : List Piece :=
  [.word "COUNT", .group [.symbol "*"], .word "AS", .word "count"]

def order : List Piece :=
  [.word "BY", .word "relevance", .word "IS", .word "NULL", .token .comma, .word "relevance"]

variable (c : ContentType) (ranked : Bool)

theorem head_read :
    Selection.sourceOf? (c.source ranked) = some (c.table.toList, if ranked then some c.join else none) ∧
      Selection.shownOf? c.table.toList (if ranked then some c.join else none) (c.columns ranked) =
        some (if ranked then .ranked else .columns) := by
  cases c <;> cases ranked <;> decide

theorem order_read : Selection.isByRelevance (some c.join) order = true := by
  cases c <;> decide

theorem columns_lack : Lacks "from" (c.columns ranked) := by
  unfold Lacks
  cases c <;> cases ranked <;> decide

theorem counted_lack : Lacks "from" counted := by
  unfold Lacks
  decide

theorem source_lacks : Lacks "where" (c.source ranked) := by
  unfold Lacks
  cases c <;> cases ranked <;> decide

theorem table_ne_nil : c.table.toList ≠ [] := by
  cases c <;> decide

theorem dotted_letters : Token.Letters (c.table ++ ".").toList := by
  cases c <;> decide

theorem hits_letters (column : String) (letters : Token.Letters column.toList) :
    Token.Letters (c.hits ++ column).toList := by
  have name : Token.Letters c.hits.toList := by
    cases c <;> decide
  intro d mem
  rw [String.toList_append, List.mem_append] at mem
  exact mem.elim (name d) (letters d)

theorem hits_ne_nil (column : String) : (c.hits ++ column).toList ≠ [] := by
  rw [hits, fullTextTable, String.append_assoc, String.append_assoc]
  exact table_append_ne_nil c _

theorem hit_rows_read :
    Token.Reads 0 ("SELECT rowid AS fts_rowid, bm25(" ++ c.fullTextTable ++ ") AS relevance FROM " ++
      c.fullTextTable ++ " WHERE " ++ c.fullTextTable ++ " MATCH ?") c.hitRows 1 := by
  have full : c.fullTextTable.toList ≠ [] := table_append_ne_nil c "_fts"
  have letters := full_text_table_letters c
  have rows := words_read 0 ["SELECT", "rowid", "AS"] (by decide)
  have key := word_reads "fts_rowid" ", " 0 0 [.token .comma] (by decide) (by decide) fun _ _ _ => rfl
  have rank := call_reads "bm25" c.fullTextTable 0 (by decide) (by decide) letters full
  have score := words_read 0 ["AS", "relevance", "FROM"] (by decide)
  have searched := word_reads c.fullTextTable " WHERE " 0 0 [.word "WHERE"] letters full fun _ _ _ => rfl
  have matched := word_reads c.fullTextTable " MATCH ?" 0 1 [.word "MATCH", .mark 0] letters full
    fun _ _ _ => rfl
  have ranked := Token.reads_append _ _ _ _ _ _ _ (Token.reads_append _ _ _ _ _ _ _
    (Token.reads_append _ _ _ _ _ _ _ rows key) rank) (Token.reads_append _ _ _ _ _ _ _ (blank_reads 0) score)
  have text := Token.reads_append _ _ _ _ _ _ _ ranked (Token.reads_append _ _ _ _ _ _ _ searched matched)
  have open_ : "SELECT rowid AS fts_rowid, bm25(" =
      spaced ["SELECT", "rowid", "AS"] ++ "fts_rowid" ++ ", " ++ "bm25" ++ "(" := by decide
  have close : ") AS relevance FROM " = ")" ++ " " ++ spaced ["AS", "relevance", "FROM"] := by decide
  rw [open_, close]
  simp only [String.append_assoc, -String.reduceAppend, List.map_cons, List.map_nil, List.cons_append, List.nil_append,
    hitRows] at text ⊢
  exact text

theorem columns_plain : Piece.PlainAll (c.columns ranked) := by
  cases ranked <;> simp [columns, Piece.PlainAll, Piece.Plain, Piece.word, Piece.symbol]

theorem source_plain : Piece.PlainAll (c.source ranked) := by
  cases ranked <;> simp [source, hitRows, Piece.PlainAll, Piece.Plain, Piece.word, Piece.symbol, Piece.mark]

theorem counted_plain : Piece.PlainAll counted := by
  simp [counted, Piece.PlainAll, Piece.Plain, Piece.word, Piece.symbol]

theorem order_plain : Piece.PlainAll order := by
  simp [order, Piece.PlainAll, Piece.Plain, Piece.word]

theorem found_shaped : Shaped c.found := by
  have plain : Idle (.word (c.hits ++ ".fts_rowid")) := by
    refine ⟨?_, by simp [Piece.word, Piece.Plain]⟩
    cases c <;> decide
  have words : Idle (.word "IS") ∧ Idle (.word "NOT") ∧ Idle (.word "NULL") :=
    ⟨⟨by decide, by simp [Piece.word, Piece.Plain]⟩, ⟨by decide, by simp [Piece.word, Piece.Plain]⟩,
      by decide, by simp [Piece.word, Piece.Plain]⟩
  exact idle_shaped _ _ _ (by simp [plain, words])

theorem found_unordered : Lacks "order" c.found := by
  unfold Lacks
  cases c <;> decide

theorem ranked_columns_reads :
    Token.Reads 0 ("SELECT " ++ c.table ++ ".*, " ++ c.hits ++ ".relevance AS relevance FROM ")
      (.word "SELECT" :: (c.columns true ++ [Piece.word "FROM"])) 0 := by
  have select := words_read 0 ["SELECT"] (by decide)
  have all := word_reads (c.table ++ ".") "*, " 0 0 [.symbol "*", .token .comma] c.dotted_letters
    (table_append_ne_nil c _) fun _ _ _ => rfl
  have score := spaced_reads (c.hits ++ ".relevance") 0 (c.hits_letters _ (by decide)) (c.hits_ne_nil _)
  have scored := words_read 0 ["AS", "relevance", "FROM"] (by decide)
  have text := Token.reads_append _ _ _ _ _ _ _ (Token.reads_append _ _ _ _ _ _ _
    (Token.reads_append _ _ _ _ _ _ _ select all) score) scored
  have first : "SELECT " = spaced ["SELECT"] := by decide
  have star : ".*, " = "." ++ "*, " := by decide
  have last : ".relevance AS relevance FROM " = ".relevance" ++ " " ++ spaced ["AS", "relevance", "FROM"] := by decide
  rw [first, star, last]
  simp only [String.append_assoc, -String.reduceAppend, List.map_cons, List.map_nil, List.cons_append, List.nil_append,
    columns] at text ⊢
  exact text

theorem ranked_source_reads :
    Token.Reads 0 (c.table ++ " LEFT JOIN (" ++
        ("SELECT rowid AS fts_rowid, bm25(" ++ c.fullTextTable ++ ") AS relevance FROM " ++ c.fullTextTable ++
          " WHERE " ++ c.fullTextTable ++ " MATCH ?") ++
        ") AS " ++ c.hits ++ " ON " ++ c.hits ++ ".fts_rowid = " ++ c.table ++ ".rowid WHERE ")
      (c.source true ++ [Piece.word "WHERE"]) 1 := by
  have from_ := spaced_reads c.table 0 (table_letters c) c.table_ne_nil
  have join := words_read 0 ["LEFT", "JOIN"] (by decide)
  have found := Token.reads_group _ _ _ _ c.hit_rows_read
  have as := Token.reads_append _ _ _ _ _ _ _ (blank_reads 1) (words_read 1 ["AS"] (by decide))
  have name := spaced_reads c.hits 1 (by simpa only [String.append_empty] using c.hits_letters "" (by decide))
    (by simpa only [String.append_empty] using c.hits_ne_nil "")
  have on := words_read 1 ["ON"] (by decide)
  have key := spaced_reads (c.hits ++ ".fts_rowid") 1 (c.hits_letters _ (by decide)) (c.hits_ne_nil _)
  have is : Token.Reads 1 "= " [.symbol "="] 1 := fun _ => rfl
  have row := spaced_reads (c.table ++ ".rowid") 1 (row_letters c) (table_append_ne_nil c _)
  have where_ := words_read 1 ["WHERE"] (by decide)
  have joined := Token.reads_append _ _ _ _ _ _ _ (Token.reads_append _ _ _ _ _ _ _
    (Token.reads_append _ _ _ _ _ _ _ (Token.reads_append _ _ _ _ _ _ _ from_ join) found) as)
    (Token.reads_append _ _ _ _ _ _ _ name on)
  have matched := Token.reads_append _ _ _ _ _ _ _ (Token.reads_append _ _ _ _ _ _ _
    (Token.reads_append _ _ _ _ _ _ _ key is) row) where_
  have text := Token.reads_append _ _ _ _ _ _ _ joined matched
  have s₁ : " LEFT JOIN (" = " " ++ spaced ["LEFT", "JOIN"] ++ "(" := by decide
  have s₂ : ") AS " = ")" ++ " " ++ spaced ["AS"] := by decide
  have s₃ : " ON " = " " ++ spaced ["ON"] := by decide
  have s₄ : ".fts_rowid = " = ".fts_rowid" ++ " " ++ "= " := by decide
  have s₅ : ".rowid WHERE " = ".rowid" ++ " " ++ spaced ["WHERE"] := by decide
  rw [s₁, s₂, s₃, s₄, s₅]
  simp only [String.append_assoc, -String.reduceAppend, List.map_cons, List.map_nil, List.cons_append, List.nil_append,
    source] at text ⊢
  exact text

theorem plain_columns_reads :
    Token.Reads 0 ("SELECT " ++ c.table ++ ".* FROM ") (.word "SELECT" :: (c.columns false ++ [Piece.word "FROM"])) 0 := by
  have select := words_read 0 ["SELECT"] (by decide)
  have all := word_reads (c.table ++ ".") "* FROM " 0 0 [.symbol "*", .word "FROM"] c.dotted_letters
    (table_append_ne_nil c _) fun _ _ _ => rfl
  have text := Token.reads_append _ _ _ _ _ _ _ select all
  have first : "SELECT " = spaced ["SELECT"] := by decide
  have star : ".* FROM " = "." ++ "* FROM " := by decide
  rw [first, star]
  simp only [String.append_assoc, -String.reduceAppend, List.map_cons, List.map_nil, List.cons_append, List.nil_append,
    columns] at text ⊢
  exact text

theorem plain_source_reads : Token.Reads 0 (c.table ++ " WHERE ") (c.source false ++ [Piece.word "WHERE"]) 0 :=
  word_reads c.table " WHERE " 0 0 [.word "WHERE"] (table_letters c) c.table_ne_nil fun _ _ _ => rfl

theorem counted_reads :
    Token.Reads 0 "SELECT COUNT(*) AS count FROM " (.word "SELECT" :: (counted ++ [Piece.word "FROM"])) 0 := by
  have select := words_read 0 ["SELECT"] (by decide)
  have number := word_reads "COUNT" "(*) " 0 0 [.group [.symbol "*"]] (by decide) (by decide) fun _ _ _ => rfl
  have named := words_read 0 ["AS", "count", "FROM"] (by decide)
  have split : "SELECT COUNT(*) AS count FROM " =
      spaced ["SELECT"] ++ ("COUNT" ++ "(*) ") ++ spaced ["AS", "count", "FROM"] := by decide
  rw [split]
  exact Token.reads_append _ _ _ _ _ _ _ (Token.reads_append _ _ _ _ _ _ _ select number) named

theorem order_ends (number : Nat) :
    Token.ReadsToEnd number "ORDER BY relevance IS NULL, relevance" (.word "ORDER" :: order) := by
  have first := words_read number ["ORDER", "BY", "relevance", "IS"] (by decide)
  have null := word_reads "NULL" ", " number number [.token .comma] (by decide) (by decide) fun _ _ _ => rfl
  have second := word_ends "relevance" number (by decide) (by decide)
  have split : "ORDER BY relevance IS NULL, relevance" =
      spaced ["ORDER", "BY", "relevance", "IS"] ++ ("NULL" ++ ", ") ++ "relevance" := by decide
  rw [split]
  exact Token.to_end_append _ _ _ _ _ _ (Token.reads_append _ _ _ _ _ _ _ first null) second

theorem found_reads : Token.Reads 1 (c.hits ++ ".fts_rowid" ++ " " ++ "IS NOT NULL ") c.found 1 := by
  have key := spaced_reads (c.hits ++ ".fts_rowid") 1 (c.hits_letters _ (by decide)) (c.hits_ne_nil _)
  have split : "IS NOT NULL " = spaced ["IS", "NOT", "NULL"] := by decide
  rw [split]
  exact Token.reads_append _ _ _ _ _ _ _ key (words_read 1 ["IS", "NOT", "NULL"] (by decide))

end ContentType

namespace Parts

def ranked (p : Parts) : Bool :=
  p.matchExpression.isSome

def operands (asks : List Piece) (p : Parts) : List (List Piece) :=
  match p.matchExpression with
  | some _ => asks :: Clause.operands p.table 1 p.clauses
  | none => Clause.operands p.table 0 p.clauses

def selection (p : Parts) : Selection where
  shown := if p.ranked then .ranked else .columns
  table := p.table.toList
  join := if p.ranked then some p.contentType.join else none
  condition := p.connective.pieces (p.operands p.contentType.found)
  byRelevance := p.ranked

def counting (p : Parts) : Selection where
  shown := .number
  table := p.table.toList
  join := none
  condition := p.connective.pieces (p.operands (p.membership 0))
  byRelevance := false

variable (p : Parts)

theorem operands_closed (asks : List Piece) (shaped : Shaped asks) :
    ∀ o ∈ p.operands asks, Formula.Closed o ∧ Piece.PlainAll o := by
  unfold operands
  cases p.matchExpression with
  | none => exact Clause.operands_closed _ _ _
  | some e => exact List.forall_mem_cons.2 ⟨⟨shaped.1, shaped.2.1⟩, Clause.operands_closed _ _ _⟩

theorem operands_unordered (asks : List Piece) (unordered : Lacks "order" asks) :
    ∀ o ∈ p.operands asks, Lacks "order" o := by
  unfold operands
  cases p.matchExpression with
  | none => exact Clause.operands_unordered _ _ _
  | some e => exact List.forall_mem_cons.2 ⟨unordered, Clause.operands_unordered _ _ _⟩

theorem membership_unordered (number : Nat) : Lacks "order" (p.membership number) := by
  have row : (Piece.word (p.table ++ ".rowid")).isKeyword "order" = false := by
    rw [table]
    cases p.contentType <;> decide
  have words : (Piece.word "IN").isKeyword "order" = false := by decide
  have group : ∀ ps, (Piece.group ps).isKeyword "order" = false := fun _ => rfl
  simp [membership, Lacks, row, words, group]

theorem joined_ends (number next : Nat) (texts : List String) (operands : List (List Piece))
    (reads : ReadsAll number texts operands next) :
    Token.ReadsToEnd number (p.joined texts) (p.connective.pieces operands) := by
  cases reads with
  | nil => exact (rfl : Token.scan number (.word []) alwaysTrue.toList = _)
  | cons number middle next text ps texts rest first others =>
      exact Token.reads_to_end _ _ _ _
        (reads_intercalate p.connective number next _ _ (List.cons_ne_nil _ _) (.cons _ _ _ _ _ _ _ first others))

variable (named : p.Named)
include named

theorem condition_ends :
    Token.ReadsToEnd 0 p.condition.text (p.connective.pieces (p.operands (p.membership 0))) := by
  unfold condition operands
  cases asked : p.matchExpression with
  | none => exact p.joined_ends 0 _ _ _ (Clause.operands_read p.contentType p.clauses 0 named)
  | some e =>
      exact p.joined_ends 0 _ _ _
        (.cons _ _ _ _ _ _ _ (membership_reads p 0) (Clause.operands_read p.contentType p.clauses 1 named))

theorem count_ends :
    Token.ReadsToEnd 0 p.count.text (.word "SELECT" :: (ContentType.counted ++ .word "FROM" ::
      (p.contentType.source false ++ .word "WHERE" :: p.counting.condition))) := by
  have text := Token.to_end_append _ _ _ _ _ _ (Token.reads_append _ _ _ _ _ _ _ ContentType.counted_reads
    p.contentType.plain_source_reads) (p.condition_ends named)
  rw [← String.append_assoc] at text
  simp only [List.append_assoc, List.cons_append, List.nil_append] at text
  exact text

theorem ranked_condition_ends :
    Token.ReadsToEnd 1 (p.joined ((p.contentType.hits ++ ".fts_rowid IS NOT NULL") :: p.clauseTexts) ++
        " ORDER BY relevance IS NULL, relevance")
      (p.connective.pieces (p.contentType.found :: Clause.operands p.table 1 p.clauses) ++
        .word "ORDER" :: ContentType.order) := by
  have clauses := Clause.operands_read p.contentType p.clauses 1 named
  have found := p.contentType.found_reads
  have split : ".fts_rowid IS NOT NULL" = ".fts_rowid" ++ " " ++ "IS NOT NULL" := by decide
  rw [p.joined_some _ (List.cons_ne_nil _ _), p.connective.pieces_some _ (List.cons_ne_nil _ _), clauseTexts]
  cases some_ : p.clauses with
  | nil =>
      have text := Token.to_end_append _ _ _ _ _ _ found (ContentType.order_ends 1)
      have behind : "IS NOT NULL " ++ "ORDER BY relevance IS NULL, relevance" =
        "IS NOT NULL" ++ " ORDER BY relevance IS NULL, relevance" := by decide
      rw [String.append_assoc, behind] at text
      simp only [List.map_nil, Clause.operands, String.intercalate_singleton, List.intercalate_singleton, split,
        String.append_assoc, -String.reduceAppend] at text ⊢
      exact text
  | cons c rest =>
      rw [some_] at clauses
      have others := reads_intercalate p.connective 1 _ _ _ (by simp [Clause.operands]) clauses
      have text := Token.to_end_append _ _ _ _ _ _ (Token.reads_append _ _ _ _ _ _ _ (Token.reads_append _ _ _ _ _ _ _
        (Token.reads_append _ _ _ _ _ _ _ found (connective_reads p.connective 1)) others) (blank_reads _))
        (ContentType.order_ends _)
      have behind : "IS NOT NULL " = "IS NOT NULL" ++ " " := by decide
      have ordered : " ORDER BY relevance IS NULL, relevance" =
        " " ++ "ORDER BY relevance IS NULL, relevance" := by decide
      rw [List.map_cons, Clause.operands] at text ⊢
      rw [String.intercalate_cons_cons, Formula.intercalate_cons]
      simp only [split, behind, ordered, String.append_assoc, List.append_assoc, List.cons_append, List.nil_append,
        -String.reduceAppend] at text ⊢
      exact text

theorem select_ends :
    Token.ReadsToEnd 0 p.select.text (.word "SELECT" :: (p.contentType.columns p.ranked ++ .word "FROM" ::
      (p.contentType.source p.ranked ++ .word "WHERE" :: (p.selection.condition ++
        if p.ranked then .word "ORDER" :: ContentType.order else [])))) := by
  cases asked : p.matchExpression with
  | none =>
      have body := p.joined_ends 0 _ _ _ (Clause.operands_read p.contentType p.clauses 0 named)
      have text := Token.to_end_append _ _ _ _ _ _ (Token.reads_append _ _ _ _ _ _ _ p.contentType.plain_columns_reads
        p.contentType.plain_source_reads) body
      simpa [select, selection, operands, ranked, asked, String.append_assoc, clauseTexts, table] using text
  | some e =>
      have text := Token.to_end_append _ _ _ _ _ _ (Token.reads_append _ _ _ _ _ _ _ p.contentType.ranked_columns_reads
        p.contentType.ranked_source_reads) (p.ranked_condition_ends named)
      simp only [select, selection, operands, ranked, asked, Option.isSome_some, if_true, ContentType.hits,
        String.append_assoc, -String.reduceAppend, List.append_assoc, List.cons_append, List.nil_append] at text ⊢
      exact text

theorem selection_read : Selection.ofText? p.select.text = some p.selection := by
  have condition : Piece.PlainAll p.selection.condition :=
    p.connective.pieces_plain _ fun o mem => (p.operands_closed _ p.contentType.found_shaped o mem).2
  have unordered : Lacks "order" p.selection.condition :=
    p.connective.pieces_unordered _ (p.operands_unordered _ p.contentType.found_unordered)
  have plain : Piece.PlainAll (if p.ranked then .word "ORDER" :: ContentType.order else []) := by
    split
    · exact ⟨by simp [Piece.word, Piece.Plain], ContentType.order_plain⟩
    · trivial
  rw [Selection.ofText?, Token.to_end_pieces _ _ (Selection.plain_parts _ _ _ (p.contentType.columns_plain _)
      (p.contentType.source_plain _) ((Piece.plain_all_append _ _).2 ⟨condition, plain⟩)) (p.select_ends named),
    Option.bind_some, Selection.of_parts _ _ _ _ _ _ (p.contentType.columns_lack _) (p.contentType.source_lacks _)
      (p.contentType.head_read _).1 (p.contentType.head_read _).2]
  cases ranks : p.ranked with
  | true =>
      simp only [eq_self, if_true]
      rw [Selection.of_ordered _ _ _ _ unordered _ p.contentType.order_read]
      simp only [selection, ranks, if_true]
      rfl
  | false =>
      simp only [Bool.false_eq_true, if_false, List.append_nil]
      rw [Selection.of_unordered _ _ _ _ unordered]
      simp only [selection, ranks, Bool.false_eq_true, if_false]
      rfl

omit named in
theorem counting_plain : Piece.PlainAll p.counting.condition :=
  p.connective.pieces_plain _ fun o mem => (p.operands_closed _ (membership_shaped p 0) o mem).2

theorem condition_formula : Formula.ofText? p.condition.text = some (Formula.ofPieces p.counting.condition) := by
  rw [Formula.ofText?, Token.to_end_pieces _ _ p.counting_plain (p.condition_ends named), Option.map_some]

theorem counting_read : Selection.ofText? p.count.text = some p.counting := by
  have unordered : Lacks "order" p.counting.condition :=
    p.connective.pieces_unordered _ (p.operands_unordered _ (membership_unordered p 0))
  have shown : Selection.shownOf? p.table.toList none ContentType.counted = some .number := rfl
  rw [Selection.ofText?, Token.to_end_pieces _ _ (Selection.plain_parts _ _ _ ContentType.counted_plain
      (p.contentType.source_plain _) p.counting_plain) (p.count_ends named),
    Option.bind_some, Selection.of_parts _ _ _ _ _ _ ContentType.counted_lack (p.contentType.source_lacks _)
      (p.contentType.head_read false).1 shown, Selection.of_unordered _ _ _ _ unordered]
  rfl

end Parts

end ArchiveSearch

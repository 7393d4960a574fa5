import ArchiveSearch.Proofs.Cache.Entries
import ArchiveSearch.Proofs.Search.Transparency
import ArchiveSearch.Search.Database

namespace ArchiveSearch

set_option autoImplicit false

theorem Date.text_injective (d e : Date) (same : d.text = e.text) : d = e := by
  have read := DateReader.loose_text d
  rw [same, DateReader.loose_text, Except.ok.injEq] at read
  exact read.symm

namespace Value

inductive Alike : Value → Value → Prop
  | same (v : Value) : Alike v v
  | dated (d : Date) : Alike (.date d) (.text d.text)
  | undated (d : Date) : Alike (.text d.text) (.date d)
  | endless (x y : Binary64) (endless : x.isFinite = false) (endless' : y.isFinite = false) :
      Alike (.number x) (.number y)

theorem Alike.encode {v w : Value} (alike : Alike v w) : v.encode = w.encode := by
  cases alike with
  | same => rfl
  | dated => rfl
  | undated => rfl
  | endless x y endless endless' => simp [Value.encode, Json.ofBinary64, endless, endless']

theorem numbers_alike (x y : Binary64) (same : Json.ofBinary64 x = Json.ofBinary64 y) :
    Alike (.number x) (.number y) := by
  unfold Json.ofBinary64 at same
  by_cases finite : x.isFinite = true
  · by_cases finite' : y.isFinite = true
    · rw [if_pos finite, if_pos finite'] at same
      cases same
      exact .same _
    · rw [if_pos finite, if_neg finite'] at same
      cases same
  · by_cases finite' : y.isFinite = true
    · rw [if_neg finite, if_pos finite'] at same
      cases same
    · exact .endless x y (by simpa using finite) (by simpa using finite')

theorem number_apart (x : Binary64) (v : Value) (same : Json.ofBinary64 x = v.encode) : ∃ y, v = .number y := by
  cases v with
  | number y => exact ⟨y, rfl⟩
  | _ => rcases of_binary64_cases x with ⟨-, shown⟩ | shown <;> (rw [shown] at same; cases same)

theorem encode_iff_alike (v w : Value) : v.encode = w.encode ↔ Alike v w := by
  refine ⟨fun same => ?_, Alike.encode⟩
  cases v with
  | number x =>
      obtain ⟨y, rfl⟩ := number_apart x w same
      exact numbers_alike x y same
  | boolean b =>
      cases w with
      | boolean b' =>
          cases same
          exact .same _
      | number y => exact absurd (number_apart y _ same.symm) (by simp)
      | _ => cases same
  | integer n =>
      cases w with
      | integer n' =>
          have whole : n = n' := Int64.toInt_inj.1 (Json.integer.inj same)
          exact whole ▸ .same _
      | number y => exact absurd (number_apart y _ same.symm) (by simp)
      | _ => cases same
  | date d =>
      cases w with
      | date e => exact Date.text_injective d e (Json.string.inj same) ▸ .same _
      | text s => exact Json.string.inj same ▸ .dated d
      | number y => exact absurd (number_apart y _ same.symm) (by simp)
      | _ => cases same
  | text s =>
      cases w with
      | date e => exact (Json.string.inj same).symm ▸ .undated e
      | text t => exact Json.string.inj same ▸ .same _
      | number y => exact absurd (number_apart y _ same.symm) (by simp)
      | _ => cases same

theorem Alike.cell {v w : Value} (alike : Alike v w) :
    Cell.ofValue v = Cell.ofValue w ∨ (v.isFinite = false ∧ w.isFinite = false) := by
  cases alike with
  | same => exact .inl rfl
  | dated => exact .inl rfl
  | undated => exact .inl rfl
  | endless x y endless endless' => exact .inr ⟨endless, endless'⟩

end Value

theorem encoded_iff_alike (params params' : List Value) :
    params.map Value.encode = params'.map Value.encode ↔ List.Forall₂ Value.Alike params params' := by
  rw [← List.forall₂_eq_eq_eq, List.forall₂_map_left_iff, List.forall₂_map_right_iff]
  exact ⟨fun same => same.imp fun v w => (v.encode_iff_alike w).1, fun alike => alike.imp fun _ _ => Value.Alike.encode⟩

-- Keys of rows and of counts are digests of the texts of requests. Two requests have one text exactly if they have one
-- head and values that are alike, and then they bind the same cells, but where both bind a number that is not finite.
theorem requests_told (head head' : String) (params params' : List Value) :
    (requestText head params = requestText head' params' ↔
        head = head' ∧ List.Forall₂ Value.Alike params params') ∧
      (requestText head params = requestText head' params' → head = head' ∧
        List.Forall₂ (fun v w => Cell.ofValue v = Cell.ofValue w ∨ (v.isFinite = false ∧ w.isFinite = false))
          params params') ∧
      (∀ statement : Statement, Searcher.resultKey statement params =
        Searcher.resultsOf (statement.table?.getD "unknown") ++ ":" ++
          Cache.hashOf (requestText statement.id params)) ∧
      ∀ (contentType : ContentType) (text : String), Searcher.countKey contentType ⟨text, params⟩ =
        Searcher.countsOf contentType.table ++ ":" ++ Cache.hashOf (requestText text params) := by
  have told : requestText head params = requestText head' params' ↔
      head = head' ∧ List.Forall₂ Value.Alike params params' := by
    rw [request_text_iff, encoded_iff_alike]
  exact ⟨told, fun same => ⟨(told.1 same).1, (told.1 same).2.imp fun _ _ => Value.Alike.cell⟩, fun _ => rfl,
    fun _ _ => rfl⟩

theorem dated_requests_told :
    requestText "stmt_1" [.date Date.epoch, .integer 1] = requestText "stmt_1" [.text "1970-01-01", .integer 1] ∧
      List.Forall₂ (fun v w => Cell.ofValue v = Cell.ofValue w ∨ (v.isFinite = false ∧ w.isFinite = false))
        [.date Date.epoch, .integer 1] [.text "1970-01-01", .integer 1] := by
  have same : requestText "stmt_1" [.date Date.epoch, .integer 1] =
      requestText "stmt_1" [.text "1970-01-01", .integer 1] := by decide +kernel
  exact ⟨same, ((requests_told _ _ _ _).2.1 same).2⟩

namespace Session

variable {σ : Type} (engine : Engine σ) (settings : Settings) (now : Nat) (today : Date) (world : σ)

theorem search_alone (a : Filter) (p : Query) (compiled : a.compile today = .ok p) :
    (Session.start settings now today world).answers engine [.search a] =
      [.rows (engine.run p.simplest world).1] := by
  have quiet : ({ settings := settings.resultsCache } : Cache (List Row)).Quiet := rfl
  simp only [answers, start, step, Searcher.search, Searcher.new, compiled, Searcher.searchQuery, Searcher.prepare,
    Searcher.execute, Statements.prepare, Statements.find?, List.find?_nil, List.nil_append, List.find?_cons,
    beq_self_eq_true, Option.getD_some]
  rw [(Cache.get_or_set_miss _ now _ _ _ world quiet rfl).1, Query.simplest]

theorem searches_share (a b : Filter) (p q : Query) (first : a.compile today = .ok p) (second : b.compile today = .ok q)
    (text : p.text = q.text) (digests : Cache.hashOf (requestText (Statement.idOf (simplify p.text)) p.params) =
      Cache.hashOf (requestText (Statement.idOf (simplify p.text)) q.params)) (rows : List Row)
    (found : (engine.run p.simplest world).1 = .ok rows) :
    (Session.start settings now today world).answers engine [.search a, .search b] =
      [.rows (.ok rows), .rows (.ok rows)] := by
  obtain ⟨p, xs⟩ := p
  obtain ⟨q, ys⟩ := q
  cases text
  have key : ∀ count, Searcher.resultKey
      { id := Statement.idOf (simplify p), text := simplify p, params := ys, createdAt := now, useCount := count } ys =
      Searcher.resultKey
        { id := Statement.idOf (simplify p), text := simplify p, params := xs, createdAt := now, useCount := 1 } xs :=
    fun _ => congrArg
      (Searcher.resultsOf ((Statement.tableOf? (simplify p)).getD "unknown") ++ ":" ++ ·) digests.symm
  have quiet : ({ settings := settings.resultsCache } : Cache (List Row)).Quiet := rfl
  have orderly : ({ settings := settings.resultsCache } : Cache (List Row)).Orderly := Cache.orderly_of_empty _ rfl
  have ran : (engine.run { text := simplify p, params := xs } world).1 = .ok rows := found
  simp only [answers, start, step, Searcher.search, Searcher.new, first, second, Searcher.searchQuery, Searcher.prepare,
    Searcher.execute, Statements.prepare, Statements.find?, List.find?_nil, List.nil_append, List.find?_cons,
    List.map_cons, List.map_nil, beq_self_eq_true, if_true, Option.getD_some, key]
  rw [Cache.get_or_set_again _ now _ _ _ world quiet orderly rows
      ((Cache.get_or_set_miss _ now _ _ _ world quiet rfl).1.trans ran),
    (Cache.get_or_set_miss _ now _ _ _ world quiet rfl).1, ran]

end Session

def paidUpTo (bound : Binary64) : Filter :=
  (Filter.empty .faculty).withRange "salary" .zero bound

def payroll : Database :=
  { tables := [{ name := "faculty", columns := ["id", "salary"], rows := [[.integer 1, .integer 5]] }] }

def Answer.size : Answer → Nat
  | .rows (.ok found) => found.length
  | _ => 0

def paidText : String :=
  "SELECT faculty.* FROM faculty WHERE faculty.salary BETWEEN ? AND ?"

theorem paid_simplest : simplify paidText = paidText :=
  (simplify_of_list _).trans (congrArg String.ofList (by decide +kernel))

theorem endless_compiled (negative : Bool) : (paidUpTo (.infinity negative)).compile Date.epoch =
    .ok { text := paidText, params := [.integer 0, .number (.infinity negative)] } := by
  cases negative <;> decide +kernel

def digested (digest : String) : Filter :=
  (Filter.empty .photos).withCustom "digest" .equal (.text digest)

def digestedText : String :=
  "SELECT photos.* FROM photos WHERE photos.digest = ?"

theorem digested_simplest : simplify digestedText = digestedText :=
  (simplify_of_list _).trans (congrArg String.ofList (by decide +kernel))

theorem digested_compiled : ∀ digest ∈ ["4a0032a89aa7f9e2", "dc24db6a3ab0979b"],
    (digested digest).compile Date.epoch = .ok { text := digestedText, params := [.text digest] } := by
  decide +kernel

-- Up to no end somebody is paid, and below every number nobody is. Both bounds are null in a key, so that who asks for
-- the second after the first is given the rows of the first. And a key has 64 bits of the digest of a request: here are
-- two requests with finite values of which the second is given the rows of the first.
theorem distinct_requests_share_rows :
    requestText "stmt_1" [.integer 0, .number (.infinity false)] =
        requestText "stmt_1" [.integer 0, .number (.infinity true)] ∧
      Cell.ofValue (.number (.infinity false)) ≠ Cell.ofValue (.number (.infinity true)) ∧
      (((Session.start {} 0 Date.epoch payroll).answers Database.engine
        [.search (paidUpTo (.infinity true))]).map Answer.size) = [0] ∧
      (((Session.start {} 0 Date.epoch payroll).answers Database.engine
        [.search (paidUpTo (.infinity false)), .search (paidUpTo (.infinity true))]).map Answer.size) = [1, 1] ∧
      (Session.start {} 0 Date.epoch 0).answers recorded [.search (digested "dc24db6a3ab0979b")] =
        [.rows (recorder digestedText [.text "dc24db6a3ab0979b"])] ∧
      (Session.start {} 0 Date.epoch 0).answers recorded
          [.search (digested "4a0032a89aa7f9e2"), .search (digested "dc24db6a3ab0979b")] =
        [.rows (recorder digestedText [.text "4a0032a89aa7f9e2"]),
          .rows (recorder digestedText [.text "4a0032a89aa7f9e2"])] := by
  have alike : List.Forall₂ Value.Alike [.integer 0, .number (.infinity false)] [.integer 0, .number (.infinity true)] :=
    .cons (.same _) (.cons (.endless _ _ (by decide) (by decide)) .nil)
  have endless : ∀ head, requestText head [.integer 0, .number (.infinity false)] =
      requestText head [.integer 0, .number (.infinity true)] := fun _ =>
    (request_text_iff _ _ _ _).2 ⟨rfl, (encoded_iff_alike _ _).2 alike⟩
  have paid : ∀ negative, (Answer.rows (Database.engine.run
      { text := paidText, params := [.integer 0, .number (.infinity negative)] } payroll).1).size =
        if negative then 0 else 1 := by
    decide +kernel
  refine ⟨endless _, by decide, ?_, ?_, ?_, ?_⟩
  · rw [Session.search_alone _ _ _ _ _ _ _ (endless_compiled true), Query.simplest, paid_simplest]
    exact congrArg (fun size => [size]) (paid true)
  · have one := paid false
    cases found : (Database.engine.run
      { text := paidText, params := [.integer 0, .number (.infinity false)] } payroll).1 with
    | error e =>
        rw [found] at one
        cases one
    | ok rows =>
        rw [found] at one
        rw [Session.searches_share _ _ _ _ _ _ _ _ _ (endless_compiled false) (endless_compiled true) rfl
          (congrArg Cache.hashOf (endless _)) rows (by rw [Query.simplest, paid_simplest, found])]
        exact congrArg (fun size => [size, size]) one
  · rw [Session.search_alone _ _ _ _ _ _ _ (digested_compiled _ (by simp)), Query.simplest, digested_simplest]
    rfl
  · have digests : Cache.hashOf (requestText (Statement.idOf digestedText) [.text "4a0032a89aa7f9e2"]) =
        Cache.hashOf (requestText (Statement.idOf digestedText) [.text "dc24db6a3ab0979b"]) := by
      decide +kernel
    have first := digested_compiled "4a0032a89aa7f9e2" (by simp)
    have second := digested_compiled "dc24db6a3ab0979b" (by simp)
    refine Session.searches_share recorded {} 0 Date.epoch 0 _ _ _ _ first second rfl ?_ _ ?_
    · rw [digested_simplest, digests]
    · rw [Query.simplest, digested_simplest]
      rfl

end ArchiveSearch

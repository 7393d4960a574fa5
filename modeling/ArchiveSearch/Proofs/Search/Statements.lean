import ArchiveSearch.Proofs.Search.Transparency
import ArchiveSearch.Proofs.Simplify.NormalForm

/- What a log of calls says of the statements it leaves: each is filed once, under the id of its simplest text, and tells
   how often, since when and with which values its text was prepared since it was last absent.

   Times are read off a clock that may be set back, and of the ids it is assumed that they differ on the texts of the log. -/
namespace ArchiveSearch

set_option autoImplicit false

structure Kept (texts : List String) (table : Statements) : Prop where
  filed : Filed texts table
  apart : (table.map Statement.text).Nodup

section Kept

variable (texts : List String) (ids : Apart Statement.idOf texts) (table : Statements) (kept : Kept texts table)

include ids kept

theorem id_iff (text : String) (mem : text ∈ texts) (known : Statement) (member : known ∈ table) :
    known.id = Statement.idOf text ↔ known.text = text := by
  obtain ⟨named, inside⟩ := kept.filed known member
  rw [named]
  exact ⟨ids _ inside _ mem, congrArg Statement.idOf⟩

theorem find_member (known : Statement) (member : known ∈ table) :
    table.find? (Statement.idOf known.text) = some known := by
  obtain ⟨named, inside⟩ := kept.filed known member
  cases found : table.find? (Statement.idOf known.text) with
  | none => exact absurd (beq_iff_eq.2 named) (List.find?_eq_none.1 found known member)
  | some other =>
      obtain ⟨there, same⟩ := find_mem table _ other found
      rw [List.inj_on_of_nodup_map kept.apart there member
        ((id_iff texts ids table kept _ inside other there).1 same)]

theorem find_none_of_absent (text : String) (mem : text ∈ texts) :
    table.find? (Statement.idOf text) = none ↔ ∀ known ∈ table, known.text ≠ text := by
  rw [Statements.find?, List.find?_eq_none]
  refine forall₂_congr fun known member => not_congr ?_
  rw [beq_iff_eq, id_iff texts ids table kept text mem known member]

theorem prepare_again (old : Statement) (member : old ∈ table) (params : List Value) (now : Nat) :
    (table.prepare old.text params now).1 = { old with params, useCount := old.useCount + 1 } := by
  rw [prepare_known table old.text params now old (find_member texts ids table kept old member)]

theorem prepare_absent (text : String) (mem : text ∈ texts) (absent : ∀ known ∈ table, known.text ≠ text)
    (params : List Value) (now : Nat) :
    (table.prepare text params now).1 = { id := Statement.idOf text, text, params, createdAt := now, useCount := 1 } := by
  rw [prepare_new table text params now ((find_none_of_absent texts ids table kept text mem).2 absent)]

theorem prepare_mem (text : String) (mem : text ∈ texts) (params : List Value) (now : Nat) (known : Statement) :
    known ∈ (table.prepare text params now).2 ↔
      known = (table.prepare text params now).1 ∨ known ∈ table ∧ known.text ≠ text := by
  cases found : table.find? (Statement.idOf text) with
  | some old =>
      obtain ⟨inside, named⟩ := find_mem table _ old found
      rw [prepare_known table text params now old found]
      constructor
      · intro there
        obtain ⟨before, member, rfl⟩ := List.mem_map.1 there
        by_cases here : before.id = Statement.idOf text
        · rw [if_pos (beq_iff_eq.2 here)]
          exact .inl rfl
        · rw [if_neg (by simpa using here)]
          exact .inr ⟨member, fun same => here ((id_iff texts ids table kept text mem before member).2 same)⟩
      · rintro (rfl | ⟨member, other⟩)
        · exact List.mem_map.2 ⟨old, inside, if_pos (beq_iff_eq.2 named)⟩
        · have different : known.id ≠ Statement.idOf text := fun same =>
            other ((id_iff texts ids table kept text mem known member).1 same)
          exact List.mem_map.2 ⟨known, member, if_neg (by simpa using different)⟩
  | none =>
      have absent := (find_none_of_absent texts ids table kept text mem).1 found
      rw [prepare_new table text params now found, List.mem_append, List.mem_singleton, or_comm]
      exact or_congr Iff.rfl ⟨fun member => ⟨member, absent known member⟩, And.left⟩

theorem prepare_kept (text : String) (mem : text ∈ texts) (params : List Value) (now : Nat) :
    Kept texts (table.prepare text params now).2 := by
  refine ⟨(prepare_filed texts table kept.filed ids text mem params now).1, ?_⟩
  cases found : table.find? (Statement.idOf text) with
  | some old =>
      obtain ⟨inside, named⟩ := find_mem table _ old found
      have same := (id_iff texts ids table kept text mem old inside).1 named
      rw [prepare_known table text params now old found, List.map_map]
      convert kept.apart using 1
      refine List.map_congr_left fun known member => ?_
      by_cases here : known.id = Statement.idOf text
      · rw [Function.comp_apply, if_pos (beq_iff_eq.2 here), (id_iff texts ids table kept text mem known member).1 here]
        exact same
      · rw [Function.comp_apply, if_neg (by simpa using here)]
  | none =>
      have absent := (find_none_of_absent texts ids table kept text mem).1 found
      rw [prepare_new table text params now found, List.map_append]
      refine List.nodup_append.2 ⟨kept.apart, List.nodup_singleton _, ?_⟩
      rintro _ there _ new rfl
      obtain ⟨known, member, same⟩ := List.mem_map.1 there
      exact absent known member (same.trans (List.mem_singleton.1 new))

omit ids in
theorem prune_kept (maxAge now : Nat) : Kept texts (table.prune maxAge now).2 :=
  ⟨prune_filed texts table kept.filed maxAge now, kept.apart.sublist (List.filter_sublist.map _)⟩

end Kept

def Statement.Stale (maxAge now : Nat) (s : Statement) : Prop :=
  s.useCount = 1 ∧ maxAge < now - s.createdAt

instance (maxAge now : Nat) (s : Statement) : Decidable (s.Stale maxAge now) :=
  inferInstanceAs (Decidable (_ ∧ _))

theorem is_stale_iff (maxAge now : Nat) (s : Statement) : Statements.isStale maxAge now s = true ↔ s.Stale maxAge now := by
  simp only [Statements.isStale, Statement.Stale, Bool.and_eq_true, beq_iff_eq, decide_eq_true_eq]

theorem prune_mem (table : Statements) (maxAge now : Nat) (known : Statement) :
    known ∈ (table.prune maxAge now).2 ↔ known ∈ table ∧ ¬ known.Stale maxAge now := by
  rw [← is_stale_iff, Statements.prune, List.mem_filter]
  simp

theorem prune_count (table : Statements) (maxAge now : Nat) :
    (table.prune maxAge now).1 = (table.filter fun known => known.Stale maxAge now).length := by
  have parted := table.length_eq_length_filter_add fun known => !Statements.isStale maxAge now known
  have stale : (table.filter fun known => !!Statements.isStale maxAge now known) =
      table.filter fun known => known.Stale maxAge now := by
    refine List.filter_congr fun known _ => ?_
    rw [Bool.not_not, Bool.eq_iff_iff, is_stale_iff, decide_eq_true_eq]
  rw [stale] at parted
  simp only [Statements.prune]
  omega

inductive Handling where
  | prepare (now : Nat) (q : Query)
  | prune (now : Nat)

namespace Handling

def text? : Handling → Option String
  | .prepare _ q => some (simplify q.text)
  | .prune _ => none

def use? (text : String) : Handling → Option (Nat × List Value)
  | .prepare now q => if simplify q.text = text then some (now, q.params) else none
  | .prune _ => none

def uses (text : String) (log : List Handling) : List (Nat × List Value) :=
  log.filterMap (use? text)

theorem uses_concat (text : String) (log : List Handling) (next : Handling) :
    uses text (log ++ [next]) = uses text log ++ (next.use? text).toList := by
  rw [uses, List.filterMap_append, uses, List.filterMap_cons, List.filterMap_nil]
  cases next.use? text <;> rfl

end Handling

namespace Searcher

def handle (s : Searcher) : Handling → Searcher
  | .prepare now q => (s.prepare now q).2
  | .prune now => (s.prune now).2

def afterLog (settings : Settings) (log : List Handling) : Searcher :=
  log.foldl handle (Searcher.new settings)

theorem after_log_concat (settings : Settings) (log : List Handling) (next : Handling) :
    afterLog settings (log ++ [next]) = (afterLog settings log).handle next :=
  List.foldl_concat handle _ next log

theorem after_log_settings (settings : Settings) (log : List Handling) :
    (afterLog settings log).settings = settings.optimizer := by
  induction log using List.reverseRecOn with
  | nil => rfl
  | append_singleton log next ih =>
      rw [after_log_concat]
      cases next with
      | prepare now q => exact ih
      | prune now => exact ih

def Registered (settings : Settings) (log : List Handling) (text : String) : Prop :=
  ∃ known ∈ (afterLog settings log).statements, known.text = text

structure Lately (settings : Settings) (text : String) (before since : List Handling) : Prop where
  absent : ¬ Registered settings before text
  present : ∀ part rest, since = part ++ rest → part ≠ [] → Registered settings (before ++ part) text

theorem Lately.newly (settings : Settings) (text : String) (log : List Handling) (next : Handling)
    (absent : ¬ Registered settings log text) (present : Registered settings (log ++ [next]) text) :
    Lately settings text log [next] := by
  refine ⟨absent, fun part rest split given => ?_⟩
  cases part with
  | nil => exact absurd rfl given
  | cons first part =>
      obtain ⟨rfl, nothing⟩ := List.cons.inj split
      rw [(List.append_eq_nil_iff.1 nothing.symm).1]
      exact present

theorem Lately.grown (settings : Settings) (text : String) (before since : List Handling) (next : Handling)
    (lately : Lately settings text before since) (present : Registered settings (before ++ since ++ [next]) text) :
    Lately settings text before (since ++ [next]) := by
  refine ⟨lately.absent, fun part rest split given => ?_⟩
  rcases List.eq_nil_or_concat rest with rfl | ⟨rest, last, rfl⟩
  · rw [← List.append_nil part, ← split, ← List.append_assoc]
    exact present
  · rw [List.concat_eq_append, ← List.append_assoc] at split
    exact lately.present part rest (List.append_inj' split rfl).1 given

structure Tells (settings : Settings) (log : List Handling) (known : Statement) : Prop where
  simplest : simplify known.text = known.text
  filed : (afterLog settings log).statements.find? (Statement.idOf known.text) = some known
  history : ∃ before since, log = before ++ since ∧ Lately settings known.text before since ∧
    known.useCount = (Handling.uses known.text since).length ∧
    (Handling.uses known.text since).head?.map Prod.fst = some known.createdAt ∧
    (Handling.uses known.text since).getLast?.map Prod.snd = some known.params

section Logs

variable (settings : Settings) (texts : List String) (ids : Apart Statement.idOf texts)

include ids

theorem after_log_kept (log : List Handling) (digested : ∀ text ∈ log.filterMap Handling.text?, text ∈ texts) :
    Kept texts (afterLog settings log).statements := by
  induction log using List.reverseRecOn with
  | nil => exact ⟨fun _ none_ => absurd none_ List.not_mem_nil, List.nodup_nil⟩
  | append_singleton log next ih =>
      rw [List.filterMap_append, List.forall_mem_append] at digested
      rw [after_log_concat]
      cases next with
      | prepare now q => exact prepare_kept texts ids _ (ih digested.1) _ (digested.2 _ (by simp [Handling.text?])) _ _
      | prune now => exact prune_kept texts _ (ih digested.1) _ _

omit ids in
theorem history_kept (log : List Handling) (next : Handling) (known : Statement)
    (left : known ∈ (afterLog settings (log ++ [next])).statements) (unused : next.use? known.text = none)
    (told : Tells settings log known) :
    ∃ before since, log ++ [next] = before ++ since ∧ Lately settings known.text before since ∧
      known.useCount = (Handling.uses known.text since).length ∧
      (Handling.uses known.text since).head?.map Prod.fst = some known.createdAt ∧
      (Handling.uses known.text since).getLast?.map Prod.snd = some known.params := by
  obtain ⟨before, since, rfl, lately, count, first, last⟩ := told.history
  have same : Handling.uses known.text (since ++ [next]) = Handling.uses known.text since := by
    rw [Handling.uses_concat, unused, Option.toList_none, List.append_nil]
  refine ⟨before, since ++ [next], List.append_assoc _ _ _, lately.grown _ _ _ _ next ⟨known, left, rfl⟩, ?_⟩
  rw [same]
  exact ⟨count, first, last⟩

theorem history_made (log : List Handling) (now : Nat) (q : Query) (kept : Kept texts (afterLog settings log).statements)
    (told : ∀ known ∈ (afterLog settings log).statements, Tells settings log known) (mem : simplify q.text ∈ texts)
    (made : Statement) (is_made : made = ((afterLog settings log).prepare now q).1) :
    ∃ before since, log ++ [.prepare now q] = before ++ since ∧ Lately settings made.text before since ∧
      made.useCount = (Handling.uses made.text since).length ∧
      (Handling.uses made.text since).head?.map Prod.fst = some made.createdAt ∧
      (Handling.uses made.text since).getLast?.map Prod.snd = some made.params := by
  have there : made ∈ (afterLog settings (log ++ [.prepare now q])).statements := by
    rw [after_log_concat]
    exact (prepare_mem texts ids _ kept _ mem q.params now made).2 (.inl is_made)
  have use : Handling.use? (simplify q.text) (.prepare now q) = some (now, q.params) := if_pos rfl
  by_cases known : Registered settings log (simplify q.text)
  · obtain ⟨old, member, same⟩ := known
    have again : made = { old with params := q.params, useCount := old.useCount + 1 } := by
      rw [is_made]
      show ((afterLog settings log).statements.prepare (simplify q.text) q.params now).1 = _
      rw [← same, prepare_again texts ids _ kept old member]
    obtain ⟨before, since, rfl, lately, count, first, last⟩ := (told old member).history
    have text : made.text = old.text := by rw [again]
    rw [text]
    have uses : Handling.uses old.text (since ++ [.prepare now q]) = Handling.uses old.text since ++ [(now, q.params)] := by
      rw [Handling.uses_concat, same, use, Option.toList_some]
    refine ⟨before, since ++ [.prepare now q], List.append_assoc _ _ _, lately.grown _ _ _ _ _ ⟨made, there, text⟩, ?_⟩
    rw [uses, again]
    refine ⟨by rw [List.length_append, ← count]; rfl, ?_, by rw [List.getLast?_concat]; rfl⟩
    obtain ⟨use, head, at_⟩ := Option.map_eq_some_iff.1 first
    rw [List.head?_append, head]
    exact congrArg some at_
  · have absent : ∀ known ∈ (afterLog settings log).statements, known.text ≠ simplify q.text :=
      fun old member same => known ⟨old, member, same⟩
    have anew := is_made.trans (prepare_absent texts ids _ kept _ mem absent q.params now)
    have text : made.text = simplify q.text := by rw [anew]
    have uses : Handling.uses (simplify q.text) [.prepare now q] = [(now, q.params)] := by
      rw [Handling.uses, List.filterMap_cons, use, List.filterMap_nil]
    rw [text]
    refine ⟨log, [.prepare now q], rfl, .newly _ _ _ _ known ⟨made, there, text⟩, ?_⟩
    rw [uses, anew]
    exact ⟨rfl, rfl, rfl⟩

theorem after_log_tells (log : List Handling) (digested : ∀ text ∈ log.filterMap Handling.text?, text ∈ texts)
    (fixed : ∀ text ∈ texts, simplify text = text) :
    ∀ known ∈ (afterLog settings log).statements, Tells settings log known := by
  induction log using List.reverseRecOn with
  | nil => exact fun _ none_ => absurd none_ List.not_mem_nil
  | append_singleton log next ih =>
      have whole := after_log_kept settings texts ids (log ++ [next]) digested
      rw [List.filterMap_append, List.forall_mem_append] at digested
      have kept := after_log_kept settings texts ids log digested.1
      intro known member
      refine ⟨fixed _ (whole.filed known member).2, find_member texts ids _ whole known member, ?_⟩
      have before := member
      rw [after_log_concat] at before
      cases next with
      | prepare now q =>
          have mem : simplify q.text ∈ texts := digested.2 _ (by simp [Handling.text?])
          rcases (prepare_mem texts ids _ kept _ mem q.params now known).1 before with made | ⟨old, other⟩
          · exact history_made settings texts ids log now q kept (ih digested.1) mem known made
          · exact history_kept settings log _ known member (if_neg (Ne.symm other)) (ih digested.1 known old)
      | prune now =>
          exact history_kept settings log _ known member rfl
            (ih digested.1 known ((prune_mem _ _ _ known).1 before).1)

end Logs

theorem statements_of_log (settings : Settings) (log : List Handling)
    (ids : Apart Statement.idOf (log.filterMap Handling.text?)) :
    ((afterLog settings log).statements.map Statement.text).Nodup ∧
    (∀ known ∈ (afterLog settings log).statements, Tells settings log known) ∧
    (∀ done now q rest, log = done ++ .prepare now q :: rest →
      ((afterLog settings done).prepare now q).1.text = simplify q.text ∧
      ∀ known, known ∈ (afterLog settings (done ++ [.prepare now q])).statements ↔
        known = ((afterLog settings done).prepare now q).1 ∨
          known ∈ (afterLog settings done).statements ∧ known.text ≠ simplify q.text) ∧
    ∀ done now rest, log = done ++ .prune now :: rest →
      ((afterLog settings done).prune now).1 = ((afterLog settings done).statements.filter fun known =>
        known.Stale settings.optimizer.statementMaxAge now).length ∧
      ∀ known, known ∈ (afterLog settings (done ++ [.prune now])).statements ↔
        known ∈ (afterLog settings done).statements ∧ ¬ known.Stale settings.optimizer.statementMaxAge now := by
  have simple : ∀ text ∈ log.filterMap Handling.text?, simplify text = text := by
    intro text mem
    obtain ⟨call, -, asked⟩ := List.mem_filterMap.1 mem
    cases call with
    | prepare now q =>
        obtain rfl := Option.some.inj asked
        exact simplify_again q.text
    | prune now => exact absurd asked nofun
  refine ⟨(after_log_kept settings _ ids log fun _ mem => mem).apart,
    after_log_tells settings _ ids log (fun _ mem => mem) simple, ?_, ?_⟩
  · rintro done now q rest rfl
    rw [List.filterMap_append] at ids
    have kept := after_log_kept settings _ ids done fun _ mem => List.mem_append_left _ mem
    have mem : simplify q.text ∈ done.filterMap Handling.text? ++ (Handling.prepare now q :: rest).filterMap Handling.text? :=
      List.mem_append_right _ List.mem_cons_self
    rw [after_log_concat]
    exact ⟨(prepare_filed _ _ kept.filed ids _ mem _ _).2.2, prepare_mem _ ids _ kept _ mem q.params now⟩
  · rintro done now rest rfl
    rw [after_log_concat, ← after_log_settings settings done]
    exact ⟨prune_count _ _ now, prune_mem _ _ now⟩

-- A text is prepared, dropped by a clock that is far ahead, and prepared again when the clock is back. The other is used
-- twice, and stays.
def roundTrip : List Handling :=
  [.prepare 10 ⟨"SELECT  1", [.integer 1]⟩, .prepare 20 ⟨"SELECT 2", []⟩, .prepare 90 ⟨"SELECT 2 ", [.integer 2]⟩,
    .prune 40, .prepare 5 ⟨" SELECT 1", [.integer 3]⟩]

def hasty : Settings :=
  { optimizer := { statementMaxAge := 29 } }

theorem round_trip_statements :
    ((afterLog hasty roundTrip).statements.map fun known => (known.text, known.useCount, known.createdAt)) =
      [("SELECT 2", 2, 20), ("SELECT 1", 1, 5)] ∧
    ∀ known ∈ (afterLog hasty roundTrip).statements, Tells hasty roundTrip known :=
  ⟨by decide +kernel, (statements_of_log hasty roundTrip (Apart.of_subset _ _ ["SELECT 1", "SELECT 2"]
    (Apart.of_pair _ _ _ (by decide +kernel)) (by decide +kernel))).2.1⟩

end Searcher

end ArchiveSearch

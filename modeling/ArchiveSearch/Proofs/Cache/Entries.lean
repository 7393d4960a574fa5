import Mathlib.Data.List.Nodup
import ArchiveSearch.Proofs.Cache.Alone

/- The entries of a cache as a map. Every key has at most one entry and every entry a number of its own, below the
   next one; there are never more entries than may be. What is in the cache after an operation is said of every
   operation once, and for storing this includes which entry makes room. -/
namespace ArchiveSearch.Cache

set_option autoImplicit false

variable {α : Type}

theorem is_older_iff (a b : Entry α) :
    a.isOlder b = true ↔ a.timestamp < b.timestamp ∨ a.timestamp = b.timestamp ∧ a.sequence < b.sequence := by
  simp [Entry.isOlder]

theorem is_older_trans (a b c : Entry α) (first : a.isOlder b = true) (second : b.isOlder c = true) :
    a.isOlder c = true := by
  rw [is_older_iff] at first second ⊢
  omega

theorem is_older_asymm (a b : Entry α) (first : a.isOlder b = true) : b.isOlder a = false := by
  rw [is_older_iff] at first
  rw [Bool.eq_false_iff, Ne, is_older_iff]
  omega

theorem is_older_total (a b : Entry α) (apart : a.sequence ≠ b.sequence) (second : b.isOlder a = false) :
    a.isOlder b = true := by
  rw [Bool.eq_false_iff, Ne, is_older_iff] at second
  rw [is_older_iff]
  omega

theorem oldest_mem (entries : List (Entry α)) (e : Entry α) (found : oldest entries = some e) : e ∈ entries := by
  induction entries generalizing e with
  | nil => cases found
  | cons first rest ih =>
      rw [oldest] at found
      cases other : oldest rest with
      | none =>
          rw [other] at found
          cases found
          exact List.mem_cons_self
      | some older =>
          rw [other] at found
          by_cases less : older.isOlder first = true
          · simp only [if_pos less, Option.some.injEq] at found
            exact List.mem_cons_of_mem _ (ih e (other.trans (congrArg some found)))
          · simp only [if_neg less, Option.some.injEq] at found
            exact found ▸ List.mem_cons_self

theorem oldest_exists (entries : List (Entry α)) (nonempty : entries ≠ []) : ∃ e, oldest entries = some e := by
  cases entries with
  | nil => exact absurd rfl nonempty
  | cons first rest =>
      rw [oldest]
      cases oldest rest with
      | none => exact ⟨first, rfl⟩
      | some older => by_cases less : older.isOlder first = true <;> simp [less]

structure Filed (entries : List (Entry α)) : Prop where
  apart : (entries.map Entry.key).Nodup
  ascending : entries.Pairwise fun a b => a.sequence < b.sequence

theorem Filed.sublist {some all : List (Entry α)} (filed : Filed all) (part : some.Sublist all) : Filed some :=
  ⟨filed.apart.sublist (part.map _), filed.ascending.sublist part⟩

theorem Filed.same_key {entries : List (Entry α)} (filed : Filed entries) {a b : Entry α} (first : a ∈ entries)
    (second : b ∈ entries) (same : a.key = b.key) : a = b :=
  List.inj_on_of_nodup_map filed.apart first second same

theorem Filed.numbered {entries : List (Entry α)} (filed : Filed entries) : (entries.map Entry.sequence).Nodup :=
  (List.pairwise_map.2 filed.ascending).imp Nat.ne_of_lt

theorem Filed.oldest_is_older {entries : List (Entry α)} (filed : Filed entries) (e : Entry α)
    (found : oldest entries = some e) (other : Entry α) (mem : other ∈ entries) (apart : other ≠ e) :
    e.isOlder other = true := by
  induction entries generalizing e other with
  | nil => cases mem
  | cons first rest ih =>
      have inner : Filed rest := filed.sublist (List.sublist_cons_self first rest)
      have number := fun e mem => Nat.ne_of_lt ((List.pairwise_cons.1 filed.ascending).1 e mem)
      rw [oldest] at found
      cases least : oldest rest with
      | none =>
          rw [least] at found
          cases found
          have empty : rest = [] := by
            by_contra nonempty
            obtain ⟨e, there⟩ := oldest_exists rest nonempty
            rw [least] at there
            cases there
          rw [empty, List.mem_singleton] at mem
          exact absurd mem apart
      | some older =>
          rw [least] at found
          have inside := oldest_mem rest older least
          by_cases less : older.isOlder first = true
          · simp only [if_pos less, Option.some.injEq] at found
            subst found
            rcases List.mem_cons.1 mem with rfl | later
            · exact less
            · exact ih inner older least other later apart
          · simp only [if_neg less, Option.some.injEq] at found
            subst found
            have before := is_older_total first older (number older inside) (Bool.eq_false_iff.2 less)
            rcases List.mem_cons.1 mem with rfl | later
            · exact absurd rfl apart
            · by_cases same : other = older
              · exact same ▸ before
              · exact is_older_trans _ _ _ before (ih inner older least other later same)

structure Orderly (c : Cache α) : Prop where
  filed : Filed c.entries
  bounded : c.size ≤ c.capacity
  counted : ∀ e ∈ c.entries, e.sequence < c.nextSequence

theorem orderly_of_empty (c : Cache α) (empty : c.entries = []) : c.Orderly := by
  refine ⟨?_, ?_, ?_⟩
  · rw [empty]
    exact ⟨List.nodup_nil, List.Pairwise.nil⟩
  · rw [size, empty]
    exact Nat.zero_le _
  · rw [empty]
    exact fun _ mem => nomatch mem

theorem find_iff (c : Cache α) (filed : Filed c.entries) (key : String) (e : Entry α) :
    c.find? key = some e ↔ e ∈ c.entries ∧ e.key = key := by
  constructor
  · intro found
    have named := List.find?_some found
    exact ⟨List.mem_of_find?_eq_some found, beq_iff_eq.1 named⟩
  · rintro ⟨mem, rfl⟩
    cases found : c.find? e.key with
    | none => exact absurd (beq_self_eq_true e.key) (List.find?_eq_none.1 found e mem)
    | some other =>
        have named := List.find?_some found
        rw [filed.same_key (List.mem_of_find?_eq_some found) mem (beq_iff_eq.1 named)]

theorem find_none_iff (c : Cache α) (key : String) : c.find? key = none ↔ ∀ e ∈ c.entries, e.key ≠ key := by
  simp [find?]

def DrivesOut (c : Cache α) (key other : String) : Prop :=
  c.find? key = none ∧ c.capacity ≤ c.size ∧
    ∃ e ∈ c.entries, e.key = other ∧ ∀ rest ∈ c.entries, rest.key ≠ other → e.isOlder rest = true

section Storing

variable {c : Cache α} (orderly : c.Orderly) (key : String) (value : α) (timestamp ttl : Nat)

theorem make_room_spare (room : c.size < c.capacity) : c.makeRoom = c := by
  have none_needed : c.size + 1 - c.capacity = 0 := by omega
  simp [makeRoom, none_needed, evictMany]

def fresh (c : Cache α) (key : String) (value : α) (timestamp ttl : Nat) : Entry α :=
  { key, value, timestamp, ttl, sequence := c.nextSequence }

theorem store_entries_eq : (c.store key value timestamp ttl).entries =
    without key (if (c.find? key).isSome then c.entries else c.makeRoom.entries) ++
      [c.fresh key value timestamp ttl] := by
  unfold store
  by_cases known : (c.find? key).isSome = true
  · rw [if_pos known, if_pos known]
    rfl
  · rw [if_neg known, if_neg known]
    rfl

theorem store_frame : (c.store key value timestamp ttl).settings = c.settings ∧
    (c.store key value timestamp ttl).nextSequence = c.nextSequence + 1 := by
  unfold store
  by_cases known : (c.find? key).isSome = true
  · rw [if_pos known]
    exact ⟨rfl, rfl⟩
  · rw [if_neg known]
    exact ⟨rfl, rfl⟩

include orderly

theorem make_room_full (full : c.capacity ≤ c.size) :
    ∃ e, oldest c.entries = some e ∧
      c.makeRoom = { c with
        entries := without e.key c.entries
        counters := { c.counters with evictions := c.counters.evictions + 1 } } := by
  have bounded := orderly.bounded
  have one_needed : c.size + 1 - c.capacity = 1 := by omega
  have positive : 0 < c.capacity := Nat.lt_of_lt_of_le Nat.zero_lt_one (Nat.le_max_right _ _)
  have nonempty : c.entries ≠ [] := by
    intro empty
    rw [size, empty, List.length_nil] at full
    omega
  obtain ⟨e, found⟩ := oldest_exists c.entries nonempty
  refine ⟨e, found, ?_⟩
  rw [makeRoom, one_needed, evictMany, evictMany, evictOldest, found]

theorem make_room_mem (new : c.find? key = none) (e : Entry α) :
    e ∈ c.makeRoom.entries ↔ e ∈ c.entries ∧ ¬ c.DrivesOut key e.key := by
  by_cases room : c.size < c.capacity
  · rw [make_room_spare room]
    refine ⟨fun mem => ⟨mem, fun driven => ?_⟩, And.left⟩
    have full := driven.2.1
    omega
  · have full : c.capacity ≤ c.size := by omega
    obtain ⟨first, found, made⟩ := make_room_full orderly full
    have inside := oldest_mem c.entries first found
    rw [made, mem_without]
    refine and_congr_right fun mem => not_congr ⟨fun same => ?_, fun driven => ?_⟩
    · refine ⟨new, full, first, inside, same.symm, fun rest there apart => ?_⟩
      exact orderly.filed.oldest_is_older first found rest there fun bad => apart (bad ▸ same.symm)
    · obtain ⟨-, -, other, there, named, older⟩ := driven
      by_contra apart
      have before := older first inside (Ne.symm apart)
      have behind := orderly.filed.oldest_is_older first found other there fun bad => apart (bad ▸ named.symm)
      rw [is_older_asymm _ _ behind] at before
      cases before

theorem make_room_sublist : c.makeRoom.entries.Sublist c.entries := by
  by_cases room : c.size < c.capacity
  · rw [make_room_spare room]
  · obtain ⟨first, -, made⟩ := make_room_full orderly (by omega)
    rw [made]
    exact List.filter_sublist

theorem make_room_size : c.makeRoom.size < c.capacity := by
  by_cases room : c.size < c.capacity
  · rwa [make_room_spare room]
  · obtain ⟨first, found, made⟩ := make_room_full orderly (by omega)
    have bounded := orderly.bounded
    have less : (without first.key c.entries).length < c.entries.length := by
      refine List.length_filter_lt_length_iff_exists.2 ⟨first, oldest_mem _ _ found, by simp⟩
    rw [made]
    simp only [size] at bounded ⊢
    omega

theorem store_mem (e : Entry α) : e ∈ (c.store key value timestamp ttl).entries ↔
    e = c.fresh key value timestamp ttl ∨ (e ∈ c.entries ∧ e.key ≠ key ∧ ¬ c.DrivesOut key e.key) := by
  rw [store_entries_eq, List.mem_append, List.mem_singleton, or_comm, mem_without]
  refine or_congr_right ?_
  cases found : c.find? key with
  | some old =>
      rw [Option.isSome_some, if_pos rfl]
      refine and_congr_right fun _ => ⟨fun apart => ⟨apart, fun driven => ?_⟩, And.left⟩
      have new := driven.1
      rw [found] at new
      cases new
  | none =>
      rw [Option.isSome_none, if_neg Bool.false_ne_true, make_room_mem orderly key found]
      tauto

theorem store_filed (kept : List (Entry α)) (part : kept.Sublist c.entries) :
    Filed (without key kept ++ [c.fresh key value timestamp ttl]) := by
  have inside : (without key kept).Sublist c.entries := List.filter_sublist.trans part
  have filed := orderly.filed.sublist inside
  constructor
  · rw [List.map_append, List.map_singleton, List.nodup_append]
    refine ⟨filed.apart, List.nodup_singleton _, fun name mem other last same => ?_⟩
    obtain ⟨e, there, rfl⟩ := List.mem_map.1 mem
    rw [List.mem_singleton.1 last] at same
    exact ((mem_without key kept e).1 there).2 same
  · refine List.pairwise_append.2 ⟨filed.ascending, List.pairwise_singleton _ _, fun e mem new last => ?_⟩
    rw [List.mem_singleton.1 last]
    exact orderly.counted e (inside.subset mem)

theorem store_size : (c.store key value timestamp ttl).size ≤ c.capacity := by
  rw [size, store_entries_eq, List.length_append, List.length_singleton]
  cases found : c.find? key with
  | some old =>
      have bounded := orderly.bounded
      have less : (without key c.entries).length < c.entries.length := by
        have there := (c.find_iff orderly.filed key old).1 found
        exact List.length_filter_lt_length_iff_exists.2 ⟨old, there.1, by simp [there.2]⟩
      simp only [Option.isSome_some, if_true, size] at bounded ⊢
      omega
  | none =>
      have room := make_room_size orderly
      have less : (without key c.makeRoom.entries).length ≤ c.makeRoom.entries.length := List.length_filter_le _ _
      simp only [Option.isSome_none, Bool.false_eq_true, if_false, size] at room ⊢
      omega

theorem store_orderly : (c.store key value timestamp ttl).Orderly := by
  obtain ⟨settings, next⟩ := store_frame (c := c) key value timestamp ttl
  refine ⟨?_, ?_, fun e mem => ?_⟩
  · rw [store_entries_eq]
    refine store_filed orderly key value timestamp ttl _ ?_
    split
    · exact List.Sublist.refl _
    · exact make_room_sublist orderly
  · rw [capacity, settings]
    exact store_size orderly key value timestamp ttl
  · rw [next]
    rcases (store_mem orderly key value timestamp ttl e).1 mem with rfl | ⟨old, -⟩
    · exact Nat.lt_succ_self _
    · exact Nat.lt_succ_of_lt (orderly.counted e old)

end Storing

theorem Orderly.thinned {c next : Cache α} (orderly : c.Orderly) (kept : next.entries.Sublist c.entries)
    (settings : next.settings = c.settings) (counter : next.nextSequence = c.nextSequence) : next.Orderly := by
  refine ⟨orderly.filed.sublist kept, ?_, fun e mem => ?_⟩
  · rw [capacity, settings]
    exact Nat.le_trans kept.length_le orderly.bounded
  · rw [counter]
    exact orderly.counted e (kept.subset mem)

theorem lookup_mem_iff (c : Cache α) (filed : Filed c.entries) (now : Nat) (key : String) (e : Entry α) :
    e ∈ (c.lookup now key).2.entries ↔ e ∈ c.entries ∧ ¬ (e.key = key ∧ e.isExpired now = true) := by
  unfold lookup
  cases found : c.find? key with
  | none =>
      refine ⟨fun mem => ⟨mem, fun gone => ?_⟩, And.left⟩
      exact (c.find_none_iff key).1 found e mem gone.1
  | some old =>
      obtain ⟨there, named⟩ := (c.find_iff filed key old).1 found
      by_cases expired : old.isExpired now = true
      · simp only [if_pos expired, mem_without]
        refine and_congr_right fun mem => not_congr ⟨fun same => ⟨same, ?_⟩, And.left⟩
        rwa [filed.same_key mem there (same.trans named.symm)]
      · simp only [if_neg expired]
        refine ⟨fun mem => ⟨mem, fun gone => expired ?_⟩, And.left⟩
        rw [filed.same_key there mem (named.trans gone.1.symm)]
        exact gone.2

theorem lookup_kept (c : Cache α) (now : Nat) (key : String) :
    (c.lookup now key).2.entries.Sublist c.entries ∧ (c.lookup now key).2.settings = c.settings ∧
      (c.lookup now key).2.nextSequence = c.nextSequence := by
  unfold lookup
  cases c.find? key with
  | none => exact ⟨List.Sublist.refl _, rfl, rfl⟩
  | some old =>
      by_cases expired : old.isExpired now = true
      · simp only [if_pos expired]
        exact ⟨List.filter_sublist, trivial, trivial⟩
      · simp only [if_neg expired]
        exact ⟨List.Sublist.refl _, trivial, trivial⟩

theorem invalidate_mem (c : Cache α) (covers : String → Bool) (e : Entry α) :
    e ∈ (c.invalidate covers).2.entries ↔ e ∈ c.entries ∧ ¬ covers e.key = true := by
  simp [invalidate]

theorem prune_mem (c : Cache α) (now : Nat) (e : Entry α) :
    e ∈ (c.prune now).2.entries ↔ e ∈ c.entries ∧ ¬ e.isExpired now = true := by
  simp [prune]

theorem get_iff (c : Cache α) (filed : Filed c.entries) (now : Nat) (key : String) (value : α) :
    (c.get now key).1 = some value ↔
      ∃ e ∈ c.entries, e.key = key ∧ e.value = value ∧ ¬ e.isExpired now = true := by
  have looked : (c.get now key).1 = (c.lookup now key).1 := by
    unfold get
    cases answered : c.lookup now key with
    | mk found c' => cases found <;> rfl
  rw [looked]
  unfold lookup
  cases found : c.find? key with
  | none =>
      refine ⟨fun answer => (nomatch answer), ?_⟩
      rintro ⟨e, mem, named, -⟩
      exact absurd named ((c.find_none_iff key).1 found e mem)
  | some old =>
      obtain ⟨there, named⟩ := (c.find_iff filed key old).1 found
      by_cases expired : old.isExpired now = true
      · simp only [if_pos expired]
        refine ⟨fun answer => (nomatch answer), ?_⟩
        rintro ⟨e, mem, same, -, live⟩
        rw [filed.same_key mem there (same.trans named.symm)] at live
        exact absurd expired live
      · simp only [if_neg expired, Option.some.injEq]
        constructor
        · rintro rfl
          exact ⟨old, there, named, rfl, expired⟩
        · rintro ⟨e, mem, same, rfl, -⟩
          rw [filed.same_key mem there (same.trans named.symm)]

theorem get_invalidate (c : Cache α) (filed : Filed c.entries) (covers : String → Bool) (now : Nat) (key : String)
    (stays : ¬ covers key = true) : ((c.invalidate covers).2.get now key).1 = (c.get now key).1 := by
  have left : Filed (c.invalidate covers).2.entries := filed.sublist List.filter_sublist
  refine Option.ext fun value => ?_
  rw [get_iff _ left, get_iff _ filed]
  refine exists_congr fun e => ?_
  rw [invalidate_mem]
  exact ⟨fun ⟨⟨mem, _⟩, rest⟩ => ⟨mem, rest⟩, fun ⟨mem, same, rest⟩ => ⟨⟨mem, same ▸ stays⟩, same, rest⟩⟩

theorem invalidate_count (c : Cache α) (covers : String → Bool) :
    (c.invalidate covers).1 + (c.invalidate covers).2.size = c.size := by
  have less : (c.entries.filter fun e => !covers e.key).length ≤ c.entries.length := List.length_filter_le _ _
  simp only [invalidate, size]
  omega

theorem get_kept (c : Cache α) (now : Nat) (key : String) :
    (c.get now key).2.entries.Sublist c.entries ∧ (c.get now key).2.settings = c.settings ∧
      (c.get now key).2.nextSequence = c.nextSequence := by
  have looked := c.lookup_kept now key
  unfold get
  cases answered : c.lookup now key with
  | mk found c' =>
      rw [answered] at looked
      cases found <;> exact looked

theorem get_mem_iff (c : Cache α) (filed : Filed c.entries) (now : Nat) (key : String) (e : Entry α) :
    e ∈ (c.get now key).2.entries ↔ e ∈ c.entries ∧ ¬ (e.key = key ∧ e.isExpired now = true) := by
  rw [← c.lookup_mem_iff filed now key e]
  unfold get
  cases c.lookup now key with
  | mk found c' => cases found <;> rfl

section Calls

variable {σ : Type} (c : Cache α) (now : Nat) (key : String) (ttl : Option Nat) (compute : σ → Outcome α × σ) (s : σ)
  (quiet : c.Quiet)

include quiet

theorem get_or_set_hit (value : α) (found : (c.get now key).1 = some value) :
    c.getOrSet now key ttl compute s = (.ok value, (c.get now key).2, s) := by
  rw [get_or_set_alone c now key ttl compute s quiet]
  cases answered : c.get now key with
  | mk hit c' =>
      rw [answered] at found
      cases found
      rfl

theorem get_or_set_miss (missed : (c.get now key).1 = none) :
    (c.getOrSet now key ttl compute s).1 = (compute s).1 ∧ (c.getOrSet now key ttl compute s).2.2 = (compute s).2 := by
  rw [get_or_set_alone c now key ttl compute s quiet]
  cases answered : c.get now key with
  | mk hit c' =>
      rw [answered] at missed
      cases missed
      cases compute s with
      | mk answer s' => cases answer <;> exact ⟨rfl, rfl⟩

theorem get_or_set_entries (e : Entry α) (mem : e ∈ (c.getOrSet now key ttl compute s).2.1.entries) :
    e ∈ c.entries ∨ e.key = key := by
  have less := c.get_entries now key
  rw [get_or_set_alone c now key ttl compute s quiet] at mem
  cases answered : c.get now key with
  | mk hit c' =>
      rw [answered] at less mem
      cases hit with
      | some value => exact .inl (less mem)
      | none =>
          cases ended : compute s with
          | mk answer s' =>
              rw [ended] at mem
              cases answer with
              | error e => exact .inl (less mem)
              | ok value => exact (c'.store_entries key value now _ e mem).imp (fun old => less old) And.left

theorem get_or_set_orderly (orderly : c.Orderly) :
    (c.getOrSet now key ttl compute s).2.1.Orderly ∧ (c.getOrSet now key ttl compute s).2.1.Quiet := by
  obtain ⟨less, settings, counter⟩ := c.get_kept now key
  have slots := c.get_slots now key
  rw [get_or_set_alone c now key ttl compute s quiet]
  cases answered : c.get now key with
  | mk hit c' =>
      rw [answered] at less settings counter slots
      have thinned : c'.Orderly := orderly.thinned less settings counter
      have still : c'.Quiet := slots.trans quiet
      cases hit with
      | some value => exact ⟨thinned, still⟩
      | none =>
          cases compute s with
          | mk answer s' =>
              cases answer with
              | error e => exact ⟨⟨thinned.filed, thinned.bounded, thinned.counted⟩, still⟩
              | ok value =>
                  have stored := store_orderly thinned key value now (ttl.getD c'.settings.defaultTtl)
                  exact ⟨⟨stored.filed, stored.bounded, stored.counted⟩, (c'.set_slots now key value ttl).trans still⟩

theorem get_or_set_finds (orderly : c.Orderly) (value : α) (answered : (c.getOrSet now key ttl compute s).1 = .ok value) :
    ((c.getOrSet now key ttl compute s).2.1.get now key).1 = some value := by
  obtain ⟨kept, -⟩ := get_or_set_orderly c now key ttl compute s quiet orderly
  obtain ⟨less, settings, counter⟩ := c.get_kept now key
  rw [get_iff _ kept.filed]
  rw [get_or_set_alone c now key ttl compute s quiet] at answered ⊢
  have stays := c.get_mem_iff orderly.filed now key
  have found := (c.get_iff orderly.filed now key value).1
  cases looked : c.get now key with
  | mk hit c' =>
      rw [looked] at answered less settings counter stays found
      cases hit with
      | some there =>
          cases answered
          obtain ⟨e, mem, named, same, live⟩ := found rfl
          exact ⟨e, (stays e).2 ⟨mem, fun gone => live gone.2⟩, named, same, live⟩
      | none =>
          cases ended : compute s with
          | mk answer s' =>
              rw [ended] at answered
              cases answer with
              | error e => cases answered
              | ok stored =>
                  cases answered
                  refine ⟨_, (store_mem (orderly.thinned less settings counter) key value now _ _).2 (.inl rfl), rfl, rfl,
                    ?_⟩
                  simp [Entry.isExpired, fresh]

theorem get_or_set_again (orderly : c.Orderly) (value : α) (answered : (c.getOrSet now key ttl compute s).1 = .ok value)
    (ttl' : Option Nat) (compute' : σ → Outcome α × σ) (t : σ) :
    ((c.getOrSet now key ttl compute s).2.1.getOrSet now key ttl' compute' t).1 = .ok value := by
  obtain ⟨-, still⟩ := get_or_set_orderly c now key ttl compute s quiet orderly
  rw [get_or_set_hit _ now key ttl' compute' t still value
    (get_or_set_finds c now key ttl compute s quiet orderly value answered)]

end Calls

end ArchiveSearch.Cache

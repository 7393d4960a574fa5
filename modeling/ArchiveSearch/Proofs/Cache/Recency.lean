import ArchiveSearch.Proofs.Lists
import ArchiveSearch.Proofs.Cache.Writes

/- A cache under a clock that does not go back. Its entries stand in the order of age, so that the one that makes room
   is the first of them: what is held after any number of writes are the keys that were written last, as many of them as
   may be, each with what was last written. -/
namespace ArchiveSearch.Cache

set_option autoImplicit false

variable {α : Type}

theorem without_length (entries : List (Entry α)) (filed : Filed entries) (e : Entry α) (mem : e ∈ entries) :
    (without e.key entries).length + 1 = entries.length := by
  have alone : entries.countP (·.key == e.key) = 1 := by
    have counted := List.count_eq_one_of_mem filed.apart (List.mem_map_of_mem mem)
    rwa [List.count, List.countP_map] at counted
  have parts := List.length_eq_countP_add_countP (·.key == e.key) (l := entries)
  rw [alone] at parts
  rw [parts, Nat.add_comm, without, List.countP_eq_length_filter]
  congr 2
  refine List.filter_congr fun other _ => ?_
  rw [bne, Bool.eq_iff_iff]
  simp

section Storing

variable {c : Cache α} (orderly : c.Orderly) (key : String) (value : α) (timestamp ttl : Nat)

include orderly

theorem store_known (known : (c.find? key).isSome = true) :
    (c.store key value timestamp ttl).size = c.size ∧
      (c.store key value timestamp ttl).counters.evictions = c.counters.evictions := by
  obtain ⟨old, found⟩ := Option.isSome_iff_exists.1 known
  obtain ⟨there, rfl⟩ := (c.find_iff orderly.filed key old).1 found
  have less := without_length c.entries orderly.filed old there
  constructor
  · rw [size, store_entries_eq, if_pos known, List.length_append, List.length_singleton, less, size]
  · unfold store
    rw [if_pos known]

theorem store_entries_new (new : c.find? key = none) :
    (c.store key value timestamp ttl).entries = c.makeRoom.entries ++ [c.fresh key value timestamp ttl] := by
  rw [store_entries_eq, new, if_neg (by simp)]
  congr 1
  refine List.filter_eq_self.2 fun e mem => bne_iff_ne.2 ?_
  exact (c.find_none_iff key).1 new e ((make_room_sublist orderly).subset mem)

theorem make_room_counts : ∃ count ≤ 1, c.makeRoom.counters.evictions = c.counters.evictions + count ∧
    c.makeRoom.size + count = c.size := by
  by_cases room : c.size < c.capacity
  · rw [make_room_spare room]
    exact ⟨0, Nat.zero_le _, rfl, rfl⟩
  · obtain ⟨first, found, made⟩ := make_room_full orderly (by omega)
    rw [made]
    exact ⟨1, Nat.le_refl _, rfl, without_length c.entries orderly.filed first (oldest_mem _ first found)⟩

theorem store_new (new : c.find? key = none) :
    let next := c.store key value timestamp ttl
    let gone := c.entries.filter fun e => (next.find? e.key).isNone
    gone.length ≤ 1 ∧ next.counters.evictions = c.counters.evictions + gone.length ∧
      next.size + gone.length = c.size + 1 := by
  intro next gone
  have entries : next.entries = c.makeRoom.entries ++ [c.fresh key value timestamp ttl] :=
    store_entries_new orderly key value timestamp ttl new
  have counted : next.counters.evictions = c.makeRoom.counters.evictions := by
    show (c.store key value timestamp ttl).counters.evictions = _
    unfold store
    rw [new, if_neg (by simp)]
  have lost : gone = c.entries.filter fun e => decide (e.key ∉ c.makeRoom.entries.map Entry.key) := by
    refine List.filter_congr fun e mem => ?_
    have apart := (c.find_none_iff key).1 new e mem
    rw [Bool.eq_iff_iff, Option.isNone_iff_eq_none, find_none_iff, entries, decide_eq_true_iff]
    simp [fresh, or_imp, forall_and, Ne.symm apart]
  have length := absent_length Entry.key (make_room_sublist orderly) orderly.filed.apart
  rw [← lost] at length
  obtain ⟨count, few, evictions, left⟩ := make_room_counts orderly
  rw [size, size] at left
  rw [size, size, entries, List.length_append, List.length_singleton, counted]
  omega

end Storing

def InOrder (entries : List (Entry α)) : Prop :=
  entries.Pairwise fun a b => a.isOlder b = true

theorem oldest_first (first : Entry α) (rest : List (Entry α)) (ordered : InOrder (first :: rest)) :
    oldest (first :: rest) = some first := by
  rw [oldest]
  cases found : oldest rest with
  | none => rfl
  | some other =>
      have before := (List.pairwise_cons.1 ordered).1 other (oldest_mem rest other found)
      simp only [is_older_asymm first other before, Bool.false_eq_true, if_false]

section Late

variable {c : Cache α} (orderly : c.Orderly) (ordered : InOrder c.entries) (key : String) (value : α)
  (timestamp ttl : Nat) (late : ∀ e ∈ c.entries, e.timestamp ≤ timestamp)

include orderly ordered

theorem make_room_tail (full : c.capacity ≤ c.size) : c.makeRoom.entries = c.entries.tail := by
  obtain ⟨first, least, made⟩ := make_room_full orderly full
  rw [made]
  cases shown : c.entries with
  | nil =>
      rw [shown] at least
      cases least
  | cons head rest =>
      have apart := orderly.filed.apart
      rw [shown] at ordered least apart
      rw [List.map_cons, List.nodup_cons] at apart
      rw [oldest_first head rest ordered] at least
      obtain rfl := Option.some.inj least
      rw [without, List.filter_cons_of_neg (by simp)]
      refine List.filter_eq_self.2 fun e mem => bne_iff_ne.2 fun same => apart.1 ?_
      exact same ▸ List.mem_map_of_mem mem

-- A write that is not older than what is there goes to the end, and what has no more room is cut off at the front.
theorem store_last : (c.store key value timestamp ttl).entries =
    (without key c.entries ++ [c.fresh key value timestamp ttl]).rtake c.capacity := by
  cases found : c.find? key with
  | some old =>
      have fits := store_size orderly key value timestamp ttl
      rw [size, store_entries_eq, found, Option.isSome_some, if_pos rfl] at fits
      rw [store_entries_eq, found, Option.isSome_some, if_pos rfl, rtake_of_le _ _ fits]
  | none =>
      have whole : without key c.entries = c.entries :=
        List.filter_eq_self.2 fun e mem => bne_iff_ne.2 ((c.find_none_iff key).1 found e mem)
      rw [store_entries_new orderly key value timestamp ttl found, whole]
      by_cases room : c.size < c.capacity
      · rw [make_room_spare room, rtake_of_le]
        rw [List.length_append, List.length_singleton]
        exact room
      · have full : c.size = c.capacity := Nat.le_antisymm orderly.bounded (Nat.le_of_not_lt room)
        have one : (c.entries ++ [c.fresh key value timestamp ttl]).length - c.capacity = 1 := by
          rw [List.length_append, List.length_singleton, ← full, size]
          omega
        have positive : 0 < c.capacity := Nat.lt_of_lt_of_le Nat.zero_lt_one (Nat.le_max_right _ _)
        have nonempty : c.entries ≠ [] := by
          rw [← full, size] at positive
          exact List.length_pos_iff.1 positive
        rw [make_room_tail orderly ordered (Nat.le_of_eq full.symm), List.rtake, one, List.drop_one,
          List.tail_append_of_ne_nil nonempty]

include late

theorem store_in_order : InOrder (c.store key value timestamp ttl).entries := by
  rw [store_last orderly ordered]
  refine List.Pairwise.sublist (rtake_sublist _ _) (List.pairwise_append.2 ⟨?_, List.pairwise_singleton _ _, ?_⟩)
  · exact ordered.sublist List.filter_sublist
  · intro e mem new last
    have inside := ((mem_without key c.entries e).1 mem).1
    have number := orderly.counted e inside
    have time := late e inside
    rw [List.mem_singleton.1 last, is_older_iff]
    simp only [fresh]
    omega

end Late

def lastWrites (writes : List (Write α)) : List (Write α) :=
  writes.foldl (fun kept w => kept.filter (·.key != w.key) ++ [w]) []

theorem last_writes_append (writes : List (Write α)) (w : Write α) :
    lastWrites (writes ++ [w]) = (lastWrites writes).filter (·.key != w.key) ++ [w] := by
  rw [lastWrites, List.foldl_append]
  rfl

theorem last_writes_keys (writes : List (Write α)) :
    (lastWrites writes).map Write.key = (writes.map Write.key).dedup := by
  induction writes using List.reverseRecOn with
  | nil => rfl
  | append_singleton writes w ih =>
      rw [last_writes_append, List.map_append, List.map_append, List.map_singleton, dedup_concat, ← ih, List.filter_map]
      rfl

theorem last_writes_find (writes : List (Write α)) (key : String) :
    (lastWrites writes).find? (·.key == key) = writes.reverse.find? (·.key == key) := by
  induction writes using List.reverseRecOn with
  | nil => rfl
  | append_singleton writes w ih =>
      rw [last_writes_append, List.reverse_append, List.reverse_singleton, List.singleton_append, List.find?_append,
        List.find?_filter]
      by_cases same : w.key = key
      · have none_left : (lastWrites writes).find? (fun x => decide ((x.key != w.key) = true ∧ (x.key == key) = true))
            = none := by
          refine List.find?_eq_none.2 fun x _ both => ?_
          simp only [same, bne_iff_ne, ne_eq, beq_iff_eq, decide_eq_true_eq] at both
          exact both.1 both.2
        rw [none_left, Option.none_or, List.find?_cons_of_pos (by simp [same]), List.find?_cons_of_pos (by simp [same])]
      · have same_found : (fun x : Write α => decide ((x.key != w.key) = true ∧ (x.key == key) = true)) =
            fun x => x.key == key := by
          funext x
          by_cases named : x.key = key
          · simp [named, Ne.symm same]
          · simp [named]
        rw [same_found, ih, List.find?_cons_of_neg (by simp [same]), List.find?_nil, Option.or_none,
          List.find?_cons_of_neg (by simp [same])]

theorem last_writes_subset (writes : List (Write α)) : lastWrites writes ⊆ writes := by
  induction writes using List.reverseRecOn with
  | nil => exact List.Subset.refl _
  | append_singleton writes w ih =>
      rw [last_writes_append]
      exact List.append_subset.2 ⟨fun x mem => List.mem_append_left _ (ih (List.mem_filter.1 mem).1),
        List.subset_append_right _ _⟩

theorem last_writes_apart (writes : List (Write α)) : ((lastWrites writes).map Write.key).Nodup := by
  rw [last_writes_keys]
  exact List.nodup_dedup _

structure Tracks (settings : CacheSettings) (writes : List (Write α)) (c : Cache α) : Prop where
  orderly : c.Orderly
  kept : c.settings = settings
  ordered : InOrder c.entries
  held : c.entries.map Entry.written = (lastWrites writes).rtake (max 1 settings.maxEntries)

theorem Tracks.empty (c : Cache α) (empty : c.entries = []) : Tracks c.settings [] c := by
  refine ⟨orderly_of_empty c empty, rfl, ?_, ?_⟩
  · rw [empty]
    exact List.Pairwise.nil
  · rw [empty]
    exact (List.rtake_nil _).symm

theorem Tracks.store {settings : CacheSettings} {writes : List (Write α)} {c : Cache α}
    (tracks : Tracks settings writes c) (w : Write α) (late : ∀ x ∈ writes, x.timestamp ≤ w.timestamp) :
    Tracks settings (writes ++ [w]) (c.step (.store w)) := by
  obtain ⟨orderly, kept, ordered, held⟩ := tracks
  have behind : ∀ e ∈ c.entries, e.timestamp ≤ w.timestamp := by
    intro e mem
    have there := List.mem_map_of_mem (f := Entry.written) mem
    rw [held] at there
    exact late _ (last_writes_subset writes ((rtake_sublist _ _).subset there))
  refine ⟨store_orderly orderly _ _ _ _, (store_frame _ _ _ _).1.trans kept,
    store_in_order orderly ordered _ _ _ _ behind, ?_⟩
  have most : c.capacity = max 1 settings.maxEntries := by rw [capacity, kept, Nat.max_comm]
  have thinned : (without w.key c.entries).map Entry.written =
      (c.entries.map Entry.written).filter (·.key != w.key) := by
    rw [List.filter_map]
    rfl
  obtain ⟨count, counted⟩ : ∃ count, max 1 settings.maxEntries = count + 1 :=
    ⟨max 1 settings.maxEntries - 1, by omega⟩
  rw [Cache.step, store_last orderly ordered, map_rtake, List.map_append, List.map_singleton, last_writes_append,
    thinned, held, most, counted]
  exact rtake_filter_append Write.key _ (last_writes_apart writes) w count

theorem stored_tracks (c : Cache α) (empty : c.entries = []) (writes : List (Write α))
    (ordered : writes.Pairwise fun x y => x.timestamp ≤ y.timestamp) :
    Tracks c.settings writes (c.steps (writes.map .store)) := by
  induction writes using List.reverseRecOn with
  | nil => exact Tracks.empty c empty
  | append_singleton writes w ih =>
      obtain ⟨before, -, late⟩ := List.pairwise_append.1 ordered
      rw [List.map_append, steps, List.foldl_append]
      exact (ih before).store w fun x mem => late x mem w (by simp)

structure Setting (α : Type) where
  now : Nat
  key : String
  value : α
  ttl : Option Nat

namespace Setting

def write (settings : CacheSettings) (x : Setting α) : Write α :=
  { key := x.key, value := x.value, timestamp := x.now, ttl := x.ttl.getD settings.defaultTtl }

end Setting

def put (c : Cache α) (x : Setting α) : Cache α :=
  c.set x.now x.key x.value x.ttl

def filled (settings : CacheSettings) (sets : List (Setting α)) : Cache α :=
  sets.foldl put { settings }

def newKeys (c : Cache α) : List (Setting α) → Nat
  | [] => 0
  | x :: rest => (if (c.find? x.key).isSome then 0 else 1) + newKeys (c.put x) rest

theorem put_counters (c : Cache α) (orderly : c.Orderly) (x : Setting α) :
    (c.put x).counters.evictions + (c.put x).size =
      c.counters.evictions + c.size + if (c.find? x.key).isSome then 0 else 1 := by
  cases found : c.find? x.key with
  | some old =>
      obtain ⟨size, evictions⟩ := store_known orderly x.key x.value x.now (x.ttl.getD c.settings.defaultTtl)
        (by rw [found]; rfl)
      rw [put, set, size, evictions, Option.isSome_some, if_pos rfl]
      rfl
  | none =>
      obtain ⟨-, evictions, size⟩ := store_new orderly x.key x.value x.now (x.ttl.getD c.settings.defaultTtl) found
      rw [Option.isSome_none, if_neg Bool.false_ne_true, put, set, evictions]
      omega

theorem foldl_put_counters (c : Cache α) (orderly : c.Orderly) (sets : List (Setting α)) :
    (sets.foldl put c).counters.evictions + (sets.foldl put c).size =
      c.counters.evictions + c.size + c.newKeys sets := by
  induction sets generalizing c with
  | nil => rfl
  | cons x rest ih =>
      rw [List.foldl_cons, ih (c.put x) (store_orderly orderly _ _ _ _), put_counters c orderly x, newKeys]
      omega

theorem foldl_put_steps (c : Cache α) (sets : List (Setting α)) :
    sets.foldl put c = c.steps ((sets.map (Setting.write c.settings)).map .store) := by
  induction sets generalizing c with
  | nil => rfl
  | cons x rest ih =>
      have kept : (c.put x).settings = c.settings := (store_frame _ _ _ _).1
      rw [List.foldl_cons, ih (c.put x), kept]
      rfl

theorem newest_keys_held (settings : CacheSettings) (sets : List (Setting α))
    (ordered : sets.Pairwise fun x y => x.now ≤ y.now) :
    let c := filled settings sets
    (∀ key, (c.find? key).map Entry.written =
      if key ∈ (sets.map Setting.key).dedup.rtake (max 1 settings.maxEntries)
      then (sets.reverse.find? (·.key == key)).map (Setting.write settings) else none) ∧
      c.counters.evictions + c.size = newKeys ({ settings } : Cache α) sets ∧
      ∀ x : Setting α, c.find? x.key = none →
        let next := c.put x
        let gone := c.entries.filter fun e => (next.find? e.key).isNone
        gone.length ≤ 1 ∧ next.counters.evictions = c.counters.evictions + gone.length ∧
          (next.find? x.key).map Entry.written = some (x.write settings) := by
  intro c
  have tracks : Tracks settings (sets.map (Setting.write settings)) c := by
    show Tracks _ _ (sets.foldl put { settings })
    rw [foldl_put_steps]
    refine stored_tracks { settings } rfl _ ?_
    rw [List.pairwise_map]
    exact ordered
  obtain ⟨orderly, kept, -, held⟩ := tracks
  refine ⟨fun key => ?_, ?_, fun x new => ?_⟩
  · have keys : (sets.map (Setting.write settings)).map Write.key = sets.map Setting.key := by
      rw [List.map_map]
      rfl
    have mapped : (c.find? key).map Entry.written = (c.entries.map Entry.written).find? (·.key == key) := by
      rw [List.find?_map]
      rfl
    have turned : (sets.map (Setting.write settings)).reverse.find? (·.key == key) =
        (sets.reverse.find? (·.key == key)).map (Setting.write settings) := by
      rw [← List.map_reverse, List.find?_map]
      rfl
    rw [mapped, held, find_rtake Write.key _ (last_writes_apart _), last_writes_keys, last_writes_find, keys, turned]
  · have counted := foldl_put_counters ({ settings } : Cache α) (orderly_of_empty _ rfl) sets
    exact counted.trans (Nat.zero_add _)
  · obtain ⟨few, evictions, -⟩ := store_new orderly x.key x.value x.now (x.ttl.getD c.settings.defaultTtl) new
    refine ⟨few, evictions, ?_⟩
    have stored := store_orderly orderly x.key x.value x.now (x.ttl.getD c.settings.defaultTtl)
    have there := (store_mem orderly x.key x.value x.now (x.ttl.getD c.settings.defaultTtl) _).2 (.inl rfl)
    have found := (find_iff _ stored.filed x.key _).2 ⟨there, rfl⟩
    show ((c.store x.key x.value x.now (x.ttl.getD c.settings.defaultTtl)).find? x.key).map Entry.written = _
    rw [found, ← kept]
    rfl

def narrow : CacheSettings :=
  { maxEntries := 2 }

def visits : List (Setting Nat) :=
  [⟨0, "a", 1, none⟩, ⟨0, "b", 2, none⟩, ⟨1, "a", 3, none⟩, ⟨1, "c", 4, some 9⟩]

theorem rewritten_key_held :
    visits.Pairwise (fun x y => x.now ≤ y.now) ∧
      ((filled narrow visits).find? "a").map Entry.written = some ⟨"a", 3, 1, 300000⟩ ∧
      ((filled narrow visits).find? "b").map Entry.written = none ∧
      ((filled narrow visits).find? "c").map Entry.written = some ⟨"c", 4, 1, 9⟩ ∧
      (filled narrow visits).counters.evictions + (filled narrow visits).size = 3 := by
  have ordered : visits.Pairwise fun x y => x.now ≤ y.now := by decide
  obtain ⟨held, counted, -⟩ := newest_keys_held narrow visits ordered
  refine ⟨ordered, (held "a").trans ?_, (held "b").trans ?_, (held "c").trans ?_, counted.trans ?_⟩ <;> rfl

end ArchiveSearch.Cache

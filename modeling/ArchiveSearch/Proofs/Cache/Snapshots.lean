import ArchiveSearch.Proofs.Cache.Recency
import ArchiveSearch.Proofs.Suggest.Stores

/- Snapshots that are taken from one cache and restored in another. What is restored are the entries of the snapshot that
   have not expired in the meantime, the last of them if there is not room for all; that they are numbered anew does not
   change their order. What does not decode as an entry might as well not be in the list. -/
namespace ArchiveSearch.Cache

set_option autoImplicit false

variable {α : Type}

open Record (ofObject reads_member)

theorem Entry.decode_ok_iff (decode : Json → Decoded α) (j : Json) (e : Entry α) :
    Entry.decode decode j = .ok e ↔
      ∃ r, Record.ofValue .inOpen "struct CacheEntry" ["key", "value", "timestamp", "ttl"] j = .ok r ∧
        r.excess = none ∧ r.Reads "key" Decode.string e.key ∧ r.Reads "value" decode e.value ∧
        r.Reads "timestamp" Decode.word64 e.timestamp ∧ r.Reads "ttl" Decode.word64 e.ttl ∧ e.sequence = 0 := by
  unfold Entry.decode
  simp only [bind_ok_iff, Record.required_ok_iff]
  constructor
  · rintro ⟨r, made, ⟨⟩, settled, _, key, _, value, _, timestamp, _, ttl, ⟨⟩⟩
    exact ⟨r, made, r.settle_fits _ settled, key, value, timestamp, ttl, rfl⟩
  · rintro ⟨r, made, fits, key, value, timestamp, ttl, numbered⟩
    refine ⟨r, made, (), r.settle_ok _ fits ?_, _, key, _, value, _, timestamp, _, ttl, ?_⟩
    · simp [key.faultless, value.faultless, timestamp.faultless, ttl.faultless]
    · rw [← numbered]
      rfl

-- A value that is read back from its text as it was written, also with the two levels of a snapshot around it.
structure Lasts (encode : α → Json) (decode : Json → Decoded α) (value : α) : Prop where
  data : (encode value).isData = true
  shallow : (encode value).depth + 2 < Json.depthLimit
  restored : (Json.read? (encode value).compact).map decode = some (.ok value)

theorem Lasts.arranged {encode : α → Json} {decode : Json → Decoded α} {value : α} (lasts : Lasts encode decode value) :
    decode (encode value).arrange = .ok value := by
  have shallow := lasts.shallow
  have restored := lasts.restored
  rw [Json.read_compact _ lasts.data (by omega), Option.map_some, Option.some.injEq] at restored
  exact restored

structure Entry.Lasting (encode : α → Json) (decode : Json → Decoded α) (e : Entry α) : Prop where
  value : Lasts encode decode e.value
  timestamp : e.timestamp < Bound.word64
  ttl : e.ttl < Bound.word64

def Entry.unnumbered (e : Entry α) : Entry α :=
  { e with sequence := 0 }

section Entries

variable {encode : α → Json} {decode : Json → Decoded α} {e : Entry α} (lasting : e.Lasting encode decode)

theorem Entry.members (encode : α → Json) (e : Entry α) :
    (e.encode encode).get? "key" = some (.string e.key) ∧ (e.encode encode).get? "value" = some (encode e.value) ∧
      (e.encode encode).get? "timestamp" = some (.integer e.timestamp) ∧
      (e.encode encode).get? "ttl" = some (.integer e.ttl) := by
  simp [Entry.encode, Json.get?, Json.lookup_sorted, Json.lookup_first]

include lasting

theorem Entry.decode_encode : Entry.decode decode (e.encode encode).arrange = .ok e.unnumbered := by
  obtain ⟨key, value, timestamp, ttl⟩ := e.members encode
  obtain ⟨s, made, same⟩ := Record.of_value_arranged .inOpen "struct CacheEntry" ["key", "value", "timestamp", "ttl"]
    (e.encode encode) _ rfl
  refine (Entry.decode_ok_iff decode _ _).2 ⟨s, made, same.fits, ?_, ?_, ?_, ?_, rfl⟩
  · exact same.reads arranges_string (reads_member key rfl)
  · exact ⟨_, (same.given "value").trans (congrArg (Option.map Json.arrange) value), lasting.value.arranged⟩
  · exact same.reads (arranges_natural _ _) (reads_member timestamp (natural_restored _ _ _ lasting.timestamp))
  · exact same.reads (arranges_natural _ _) (reads_member ttl (natural_restored _ _ _ lasting.ttl))

theorem Entry.encode_data : (e.encode encode).isData = true := by
  have timestamp : e.timestamp < 18446744073709551616 := lasting.timestamp
  have ttl : e.ttl < 18446744073709551616 := lasting.ttl
  simp only [Entry.encode, Json.isData, Json.membersData, lasting.value.data, Bool.and_true, Bool.true_and,
    Bool.and_eq_true, decide_eq_true_eq, Bound.int64, Bound.word64]
  omega

theorem Entry.encode_depth : (e.encode encode).depth ≤ Json.depthLimit - 2 := by
  have shallow := lasting.value.shallow
  simp only [Entry.encode, Json.depth, Json.depthMembers]
  omega

end Entries

theorem live_all (c : Cache α) (ordered : InOrder c.entries) (now : Nat)
    (fresh : ∀ e ∈ c.entries, ¬ e.isExpired now = true) : c.live now = c.entries := by
  rw [live, List.filter_eq_self.2 fun e mem => by simp [fresh e mem]]
  exact List.mergeSort_of_pairwise (ordered.imp fun older => by rw [is_older_asymm _ _ older]; rfl)

theorem Tracks.live {settings : CacheSettings} {writes : List (Write α)} {c : Cache α}
    (tracks : Tracks settings writes c) (now : Nat) (fresh : ∀ w ∈ writes, ¬ w.ExpiredAt now) :
    (c.live now).map Entry.written = (lastWrites writes).rtake (max 1 settings.maxEntries) := by
  rw [live_all _ tracks.ordered now, tracks.held]
  intro e mem
  have there := List.mem_map_of_mem (f := Entry.written) mem
  rw [tracks.held] at there
  rw [is_expired_iff]
  exact fresh _ (last_writes_subset writes ((rtake_sublist _ _).subset there))

end ArchiveSearch.Cache

import ArchiveSearch.Proofs.Calendar.Instants
import ArchiveSearch.Proofs.Filter.Data
import ArchiveSearch.Proofs.Json.Reading
import ArchiveSearch.Proofs.Json.RoundTrip
import ArchiveSearch.Suggest.Entry
import ArchiveSearch.Suggest.Store

namespace ArchiveSearch

set_option autoImplicit false

open Record (ofObject reads_member offers_member)

theorem PastSearch.decode_ok_iff (j : Json) (p : PastSearch) :
    PastSearch.decode j = .ok p ↔
      ∃ r, Record.ofValue .inOpen "struct HistoryEntry" ["query", "timestamp", "resultCount", "filters"] j = .ok r ∧
        r.excess = none ∧ r.Reads "query" Decode.string p.query ∧ r.Reads "timestamp" Decode.instant p.time ∧
        r.Reads "resultCount" Decode.word64 p.resultCount ∧
        r.Offers "filters" (Decode.optional (Filter.decode .inOpen)) none p.filter := by
  unfold PastSearch.decode
  simp only [bind_ok_iff, Record.required_ok_iff, Record.get_d_ok_iff]
  constructor
  · rintro ⟨r, made, ⟨⟩, settled, _, query, _, time, _, resultCount, _, filter, ⟨⟩⟩
    exact ⟨r, made, r.settle_fits _ settled, query, time, resultCount, filter⟩
  · rintro ⟨r, made, fits, query, time, resultCount, filter⟩
    refine ⟨r, made, (), r.settle_ok _ fits ?_, _, query, _, time, _, resultCount, _, filter, rfl⟩
    simp [query.faultless, time.faultless, resultCount.faultless, filter.faultless]

theorem Popularity.decode_ok_iff (j : Json) (p : Popularity) :
    Popularity.decode j = .ok p ↔
      ∃ r, Record.ofValue .inOpen "struct PopularityEntry" ["query", "count"] j = .ok r ∧
        r.excess = none ∧ r.Reads "query" Decode.string p.query ∧ r.Reads "count" Decode.word32 p.count := by
  unfold Popularity.decode
  simp only [bind_ok_iff, Record.required_ok_iff]
  constructor
  · rintro ⟨r, made, ⟨⟩, settled, _, query, _, count, ⟨⟩⟩
    exact ⟨r, made, r.settle_fits _ settled, query, count⟩
  · rintro ⟨r, made, fits, query, count⟩
    refine ⟨r, made, (), r.settle_ok _ fits ?_, _, query, _, count, rfl⟩
    simp [query.faultless, count.faultless]

theorem instant_arranges : Arranges Decode.instant :=
  arranges_plain (fun _ _ read => nomatch read) (fun _ _ read => nomatch read)

theorem past_search_arranges : Arranges PastSearch.decode := by
  intro j p read
  obtain ⟨r, made, fits, query, time, resultCount, filter⟩ := (PastSearch.decode_ok_iff j p).1 read
  obtain ⟨s, made, same⟩ := Record.of_value_arranged _ _ _ _ _ made
  exact (PastSearch.decode_ok_iff _ p).2 ⟨s, made, same.fits.trans fits, same.reads arranges_string query,
    same.reads instant_arranges time, same.reads (arranges_natural _ _) resultCount,
    same.offers (arranges_optional (filter_arranges .inOpen)) filter⟩

theorem popularity_arranges : Arranges Popularity.decode := by
  intro j p read
  obtain ⟨r, made, fits, query, count⟩ := (Popularity.decode_ok_iff j p).1 read
  obtain ⟨s, made, same⟩ := Record.of_value_arranged _ _ _ _ _ made
  exact (Popularity.decode_ok_iff _ p).2 ⟨s, made, same.fits.trans fits, same.reads arranges_string query,
    same.reads (arranges_natural _ _) count⟩

theorem natural_bounded (bound : Nat) (wanted : String) : Yields (Decode.natural bound wanted) fun n => n < bound := by
  intro j _ n read
  cases j with
  | integer k =>
      rw [Decode.natural] at read
      split at read
      · cases read
        omega
      · cases read
  | _ => cases read

theorem natural_restored (bound : Nat) (wanted : String) (n : Nat) (fits : n < bound) :
    Decode.natural bound wanted (.integer n) = .ok n := by
  rw [Decode.natural, if_pos ⟨Int.natCast_nonneg n, Int.ofNat_lt.2 fits⟩, Int.toNat_natCast]

structure PastSearch.Lasting (p : PastSearch) : Prop where
  counted : p.resultCount < Bound.word64
  stable : ∀ f ∈ p.filter, f.Stable

def Popularity.Lasting (p : Popularity) : Prop :=
  p.count < Bound.word32

theorem past_search_lasting : Yields PastSearch.decode PastSearch.Lasting := by
  intro j data p read
  obtain ⟨r, made, -, -, -, resultCount, filter⟩ := (PastSearch.decode_ok_iff j p).1 read
  have holds := Record.of_value_holds _ _ _ _ _ data made
  exact ⟨holds.reads (natural_bounded _ _) resultCount,
    holds.offers (yields_optional (filter_stable .inOpen)) (fun _ mem => by cases mem) filter⟩

theorem popularity_lasting : Yields Popularity.decode Popularity.Lasting := by
  intro j data p read
  obtain ⟨r, made, -, -, count⟩ := (Popularity.decode_ok_iff j p).1 read
  exact (Record.of_value_holds _ _ _ _ _ data made).reads (natural_bounded _ _) count

theorem PastSearch.members (p : PastSearch) :
    p.encode.get? "query" = some (.string p.query) ∧ p.encode.get? "timestamp" = some (.string p.time.text) ∧
      p.encode.get? "resultCount" = some (.integer p.resultCount) ∧
      p.encode.get? "filters" = p.filter.map Filter.encode := by
  cases filter : p.filter <;> simp [encode, filter, Json.get?, Json.lookup_sorted, Json.lookup_first]

theorem PastSearch.decode_encode (p : PastSearch) (lasting : p.Lasting) : PastSearch.decode p.encode = .ok p := by
  obtain ⟨query, time, resultCount, filters⟩ := p.members
  refine (decode_ok_iff p.encode p).2 ⟨ofObject .., rfl, rfl, reads_member query rfl, reads_member time ?_,
    reads_member resultCount (natural_restored _ _ _ lasting.counted), ?_⟩
  · rw [Decode.instant, Instant.text_read]
  · cases filter : p.filter with
    | none => exact .inl ⟨by rw [← filter]; exact filters.trans (by rw [filter]; rfl), rfl⟩
    | some f =>
        have read : Decode.optional (Filter.decode .inOpen) f.encode = .ok (some f) :=
          (map_ok_iff _ _ _).2 ⟨f, lasting.stable f filter .inOpen, rfl⟩
        rw [← filter]
        exact offers_member (filters.trans (by rw [filter]; rfl)) (by rwa [filter])

theorem Popularity.members (p : Popularity) :
    p.encode.get? "query" = some (.string p.query) ∧ p.encode.get? "count" = some (.integer p.count) := by
  simp [encode, Json.get?, Json.lookup_sorted, Json.lookup_first]

theorem Popularity.decode_encode (p : Popularity) (lasting : p.Lasting) : Popularity.decode p.encode = .ok p := by
  obtain ⟨query, count⟩ := p.members
  exact (decode_ok_iff p.encode p).2 ⟨ofObject .., rfl, rfl, reads_member query rfl,
    reads_member count (natural_restored _ _ _ lasting)⟩

theorem PastSearch.encode_data (p : PastSearch) (lasting : p.Lasting) : p.encode.isData = true := by
  have counted : p.resultCount < 18446744073709551616 := lasting.counted
  cases filter : p.filter <;> simp [encode, filter, Json.isData, Json.membersData, Filter.encode_data] <;> omega

theorem PastSearch.encode_depth (p : PastSearch) : p.encode.depth ≤ 4 := by
  cases filter : p.filter with
  | none => simp [encode, filter, Json.depth, Json.depthMembers]
  | some f =>
      have inner := f.encode_depth
      simp only [encode, filter, Option.map_some, Option.toList_some, List.cons_append, List.nil_append, Json.depth,
        Json.depthMembers]
      omega

theorem Popularity.encode_data (p : Popularity) (lasting : p.Lasting) : p.encode.isData = true := by
  have fits : p.count < 4294967296 := lasting
  simp only [encode, Json.isData, Json.membersData, Bool.and_true, Bool.true_and, Bool.and_eq_true, decide_eq_true_eq,
    Bound.int64, Bound.word64]
  omega

theorem Popularity.encode_depth (p : Popularity) : p.encode.depth ≤ 4 := by
  simp [encode, Json.depth, Json.depthMembers]

namespace Store

variable {α β : Type}

theorem entries_restored (encode : α → Json) (decode : Json → Decoded α) (entries : List α)
    (arranges : Arranges decode) (data : ∀ a ∈ entries, (encode a).isData = true)
    (shallow : ∀ a ∈ entries, (encode a).depth ≤ 4) (restored : ∀ a ∈ entries, decode (encode a) = .ok a) :
    entriesOf decode (Json.array (entries.map encode)).compact = entries := by
  have all : (Json.array (entries.map encode)).isData = true := Json.of_list_data encode entries data
  have deep : (Json.array (entries.map encode)).depth < Json.depthLimit :=
    Nat.lt_of_le_of_lt (Json.of_list_depth encode entries 4 shallow) (by decide)
  rw [entriesOf, Json.read_compact _ all deep, Json.arrange, Json.arrange_items_eq]
  show ((entries.map encode).map Json.arrange).filterMap (fun item => (decode item).toOption) = entries
  rw [List.map_map, List.filterMap_map]
  refine (List.filterMap_congr fun a mem => ?_).trans List.filterMap_some
  rw [Function.comp_apply, Function.comp_apply, arranges _ _ (restored a mem)]
  rfl

theorem payload_put (s : Store) (name text other : String) :
    (s.put name text).payload? other = if other = name then some text else s.payload? other :=
  lookup_put_pair name text s other

theorem load_saved (s : Store) (name : String) (encode : α → Json) (decode : Json → Decoded α) (entries : List α) :
    (s.save name encode entries).load name decode = entriesOf decode (Json.array (entries.map encode)).compact := by
  rw [load, save, payload_put, if_pos rfl]

theorem load_beside (s : Store) (name other : String) (encode : α → Json) (decode : Json → Decoded β)
    (entries : List α) (apart : other ≠ name) : (s.save name encode entries).load other decode = s.load other decode := by
  rw [load, save, payload_put, if_neg apart, load]

theorem load_yields {P : α → Prop} {decode : Json → Decoded α} (yields : Yields decode P) (s : Store) (name : String) :
    ∀ a ∈ s.load name decode, P a := by
  intro a mem
  rw [load] at mem
  split at mem
  · rename_i text found
    rw [entriesOf] at mem
    split at mem
    · rename_i items read
      obtain ⟨item, inside, decoded⟩ := List.mem_filterMap.1 mem
      have data := (Json.are_data_iff items).1 (Json.read_data _ _ read) item inside
      refine yields item data a ?_
      cases shown : decode item with
      | error fault => rw [shown] at decoded; cases decoded
      | ok b => rw [shown] at decoded; cases decoded; rfl
    · cases mem
  · cases mem

end Store

end ArchiveSearch

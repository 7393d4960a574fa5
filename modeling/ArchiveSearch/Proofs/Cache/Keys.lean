import ArchiveSearch.Cache.Key
import ArchiveSearch.Proofs.Json.Contents

namespace ArchiveSearch.Cache

set_option autoImplicit false

def hashOf (text : String) : String :=
  String.ofList ((Digest.hexChars (Digest.Blake3.digest (Digest.ofText text))).take 16)

theorem key_of_eq (namespace_ : String) (parts : List Json) :
    keyOf namespace_ parts = namespace_ ++ ":" ++ hashOf (Json.array parts).canonical :=
  rfl

theorem output_length (n : Digest.Blake3.Node) : n.output.length = 8 :=
  rfl

theorem digest_length (message : Digest.Bytes) : (Digest.Blake3.digest message).length = 32 := by
  have four : ∀ words : List UInt32, (words.flatMap Digest.littleBytes).length = words.length * 4 := by
    intro words
    induction words with
    | nil => rfl
    | cons w rest ih =>
      rw [List.flatMap_cons, List.length_append, ih, List.length_cons]
      simp only [Digest.littleBytes, Digest.bigBytes, List.length_reverse, List.length_cons,
        List.length_nil]
      omega
  unfold Digest.Blake3.digest
  simp only [four, output_length]

theorem hex_chars_length (bytes : Digest.Bytes) : (Digest.hexChars bytes).length = bytes.length * 2 := by
  induction bytes with
  | nil => rfl
  | cons b rest ih =>
    unfold Digest.hexChars at ih ⊢
    rw [List.flatMap_cons, List.length_append, ih, List.length_cons]
    simp only [List.length_cons, List.length_nil]
    omega

theorem hash_of_length (text : String) : (hashOf text).toList.length = 16 := by
  unfold hashOf
  rw [String.toList_ofList, List.length_take, hex_chars_length, digest_length]
  rfl

theorem key_of_iff (namespace_ namespace' : String) (parts parts' : List Json) :
    keyOf namespace_ parts = keyOf namespace' parts' ↔
      namespace_ = namespace' ∧ hashOf (Json.array parts).canonical = hashOf (Json.array parts').canonical := by
  rw [key_of_eq, key_of_eq]
  constructor
  · intro same
    have chars := congrArg String.toList same
    simp only [String.toList_append] at chars
    obtain ⟨front, digest⟩ := List.append_inj' chars (by rw [hash_of_length, hash_of_length])
    exact ⟨String.toList_inj.1 (List.append_cancel_right front), String.toList_inj.1 digest⟩
  · rintro ⟨rfl, digest⟩
    rw [digest]

theorem hash_of_key (namespace_ namespace' : String) (parts parts' : List Json)
    (same : keyOf namespace_ parts = keyOf namespace' parts') :
    hashOf (Json.array parts).canonical = hashOf (Json.array parts').canonical :=
  ((key_of_iff _ _ _ _).1 same).2

def Told (parts parts' : List Json) : Prop :=
  hashOf (Json.array parts).canonical = hashOf (Json.array parts').canonical →
    (Json.array parts).canonical = (Json.array parts').canonical

theorem content_ne_singleton (c : Content) : c ≠ .array [c] := by
  intro same
  have size := congrArg sizeOf same
  simp only [Content.array.sizeOf_spec, List.cons.sizeOf_spec, List.nil.sizeOf_spec] at size
  omega

theorem array_content_iff (parts parts' : List Json) :
    (Json.array parts).content = (Json.array parts').content ↔
      parts.map Json.content = parts'.map Json.content := by
  rw [Json.content, Json.content, Content.array.injEq, Json.contents_eq, Json.contents_eq]

theorem key_of_iff_contents (namespace_ namespace' : String) (parts parts' : List Json)
    (finite : (Json.array parts).isFinite = true) (finite' : (Json.array parts').isFinite = true)
    (told : Told parts parts') :
    keyOf namespace_ parts = keyOf namespace' parts' ↔
      namespace_ = namespace' ∧ parts.map Json.content = parts'.map Json.content := by
  rw [key_of_iff, ← array_content_iff, ← Json.canonical_iff_content _ _ finite finite']
  exact and_congr_right fun _ => ⟨told, congrArg hashOf⟩

-- Two values have one canonical text exactly if they hold the same, and two lists of values have one key exactly if they
-- are in one namespace and hold the same value by value. So a list that is hashed as one value is not hashed as its items.
theorem keys_tell_contents :
    (∀ v w : Json, v.isFinite = true → w.isFinite = true → (v.canonical = w.canonical ↔ v.content = w.content)) ∧
      (∀ (namespace_ namespace' : String) (parts parts' : List Json), (Json.array parts).isFinite = true →
        (Json.array parts').isFinite = true → Told parts parts' →
          (keyOf namespace_ parts = keyOf namespace' parts' ↔
            namespace_ = namespace' ∧ parts.map Json.content = parts'.map Json.content)) ∧
      ∀ (namespace_ : String) (parts : List Json), (Json.array parts).isFinite = true → Told [.array parts] parts →
        keyOfValue namespace_ (.array parts) ≠ keyOf namespace_ parts := by
  refine ⟨Json.canonical_iff_content, key_of_iff_contents, fun namespace_ parts finite told same => ?_⟩
  have nested : (Json.array [.array parts]).isFinite = true := by
    rw [Json.isFinite, Json.areFinite, finite]
    rfl
  have held := (key_of_iff_contents namespace_ namespace_ [.array parts] parts nested finite told).1 same
  have itself := (array_content_iff _ _).2 held.2
  rw [Json.content, Json.contents, Json.contents] at itself
  exact content_ne_singleton _ itself.symm

theorem places_told :
    (Json.object [("year", .integer 2020), ("city", .string "Boston")]).content =
        (Json.object [("city", .string "Boston"), ("year", .integer 2020)]).content ∧
      [Json.real .zero].map Json.content ≠ [Json.real (.withSign true 0)].map Json.content ∧
      keyOfValue "query" (.array [.integer 1, .integer 2]) ≠ keyOf "query" [.integer 1, .integer 2] := by
  refine ⟨(keys_tell_contents.1 _ _ (by decide) (by decide)).1 (by decide +kernel), fun same => ?_, ?_⟩
  · have key := (keys_tell_contents.2.1 "count" "count" [.real .zero] [.real (.withSign true 0)] (by decide) (by decide)
      fun hit => absurd hit (by decide +kernel)).2 ⟨rfl, same⟩
    exact absurd key (by decide +kernel)
  · exact keys_tell_contents.2.2 "query" [.integer 1, .integer 2] (by decide)
      fun hit => absurd hit (by decide +kernel)

end ArchiveSearch.Cache

import ArchiveSearch.Filter.Decoding
import ArchiveSearch.Filter.Encoding
import ArchiveSearch.Proofs.Calendar.Reading

namespace ArchiveSearch

set_option autoImplicit false

theorem of_binary64_cases (x : Binary64) :
    (x.isFinite = true ∧ Json.ofBinary64 x = .real x) ∨ Json.ofBinary64 x = .null := by
  unfold Json.ofBinary64
  by_cases finite : x.isFinite = true
  · exact .inl ⟨finite, if_pos finite⟩
  · exact .inr (if_neg finite)

theorem of_binary64_finite (x : Binary64) (finite : x.isFinite = true) : Json.ofBinary64 x = .real x :=
  if_pos finite

namespace Value

def isFinite : Value → Bool
  | .number x => x.isFinite
  | _ => true

def reread : Value → Value
  | .text s =>
      match DateReader.loose s with
      | .ok d => .date d
      | .error _ => .text s
  | v => v

theorem decode_integer (n : Int64) : Value.decode (.integer n.toInt) = .ok (.integer n) := by
  have fits : Decode.int64 (.integer n.toInt) = .ok n := by
    rw [Decode.int64, if_pos ⟨n.le_toInt, n.toInt_lt⟩, Int64.ofInt_toInt]
  simp only [Value.decode, fits]

theorem decode_encode (v : Value) (finite : v.isFinite = true) : Value.decode v.encode = .ok v.reread := by
  cases v with
  | boolean b => rfl
  | integer n => exact decode_integer n
  | number x =>
      rw [encode, of_binary64_finite x finite]
      rfl
  | date d => simp only [encode, Value.decode, DateReader.loose_text, reread]
  | text s =>
      simp only [encode, Value.decode, reread]
      cases DateReader.loose s <;> rfl

end Value

end ArchiveSearch

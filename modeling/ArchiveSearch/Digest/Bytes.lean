namespace ArchiveSearch.Digest

set_option autoImplicit false

abbrev Bytes := List UInt8

def ofText (s : String) : Bytes :=
  s.toUTF8.toList

def rotateRight (x : UInt32) (n : UInt32) : UInt32 :=
  (x >>> n) ||| (x <<< (32 - n))

def bigWord (a b c d : UInt8) : UInt32 :=
  (a.toUInt32 <<< 24) ||| (b.toUInt32 <<< 16) ||| (c.toUInt32 <<< 8) ||| d.toUInt32

def words (order : UInt8 → UInt8 → UInt8 → UInt8 → UInt32) : Bytes → List UInt32
  | a :: b :: c :: d :: rest => order a b c d :: words order rest
  | _ => []

def bigWords : Bytes → List UInt32 :=
  words bigWord

def littleWords : Bytes → List UInt32 :=
  words fun a b c d => bigWord d c b a

def bigBytes (w : UInt32) : Bytes :=
  [(w >>> 24).toUInt8, (w >>> 16).toUInt8, (w >>> 8).toUInt8, w.toUInt8]

def littleBytes (w : UInt32) : Bytes :=
  (bigBytes w).reverse

def pieces {α : Type} (n : Nat) (xs : List α) : List (List α) :=
  if _stop : n = 0 ∨ xs = [] then []
  else xs.take n :: pieces n (xs.drop n)
  termination_by xs.length
  decreasing_by
    have : xs ≠ [] := fun none => _stop (.inr none)
    have := List.length_pos_iff.mpr this
    simp only [List.length_drop]
    omega

def hexChar (n : Nat) : Char :=
  if n < 10 then Char.ofNat (48 + n) else Char.ofNat (87 + n)

def hexChars (bytes : Bytes) : List Char :=
  bytes.flatMap fun b => [hexChar (b.toNat / 16), hexChar (b.toNat % 16)]

end ArchiveSearch.Digest

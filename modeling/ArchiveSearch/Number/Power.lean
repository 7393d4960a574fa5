namespace ArchiveSearch

set_option autoImplicit false

def twoTo (n : Nat) : Nat :=
  Nat.pow 2 n

def tenTo (n : Nat) : Nat :=
  Nat.pow 10 n

namespace Bound

abbrev word32 : Nat := 4294967296

abbrev word64 : Nat := 18446744073709551616

abbrev int32 : Nat := 2147483648

abbrev int64 : Nat := 9223372036854775808

abbrev billion : Nat := 1000000000

end Bound

end ArchiveSearch

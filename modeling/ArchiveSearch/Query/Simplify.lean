import ArchiveSearch.Query.Simplify.Passes

namespace ArchiveSearch

set_option autoImplicit false

namespace Simplify

abbrev Squeezed := { cs : List Char // squeeze cs = cs }

def rounds (cs : Squeezed) : List Char :=
  let next := round cs.1
  if next = cs.1 then cs.1 else rounds ⟨next, squeeze_idempotent _⟩
  termination_by cs.1.length
  decreasing_by exact round_shorter cs.1 cs.2 ‹_›

end Simplify

def simplify (text : String) : String :=
  String.ofList (Simplify.rounds ⟨Simplify.squeeze text.toList, Simplify.squeeze_idempotent _⟩)

theorem simplify_of_list (cs : List Char) :
    simplify (String.ofList cs) =
      String.ofList (Simplify.rounds ⟨Simplify.squeeze cs, Simplify.squeeze_idempotent _⟩) := by
  simp only [simplify, String.toList_ofList]

end ArchiveSearch

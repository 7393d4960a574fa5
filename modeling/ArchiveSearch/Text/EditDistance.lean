namespace ArchiveSearch.Text

set_option autoImplicit false

variable {α : Type}

def firstRow : List α → List Nat
  | [] => [0]
  | _ :: ys => (ys.length + 1) :: firstRow ys

variable [DecidableEq α]

def nextRow (x : α) : List α → List Nat → List Nat
  | [], row => [row.headD 0 + 1]
  | y :: ys, row =>
      let shorter := nextRow x ys row.tail
      let replaced := row.tail.headD 0 + (if x = y then 0 else 1)
      let changed := min (row.headD 0 + 1) (shorter.headD 0 + 1)
      min replaced changed :: shorter

def distanceRow (xs ys : List α) : List Nat :=
  xs.foldr (fun x row => nextRow x ys row) (firstRow ys)

def editDistance (xs ys : List α) : Nat :=
  (distanceRow xs ys).headD 0

end ArchiveSearch.Text

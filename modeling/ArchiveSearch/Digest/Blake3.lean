import ArchiveSearch.Digest.Bytes

namespace ArchiveSearch.Digest.Blake3

set_option autoImplicit false

structure Row where
  w0 : UInt32
  w1 : UInt32
  w2 : UInt32
  w3 : UInt32

namespace Row

def map2 (f : UInt32 → UInt32 → UInt32) (x y : Row) : Row :=
  ⟨f x.w0 y.w0, f x.w1 y.w1, f x.w2 y.w2, f x.w3 y.w3⟩

def add : Row → Row → Row :=
  map2 (· + ·)

def xor : Row → Row → Row :=
  map2 (· ^^^ ·)

def xorRotate (n : UInt32) : Row → Row → Row :=
  map2 fun x y => rotateRight (x ^^^ y) n

def shift (x : Row) : Row :=
  ⟨x.w1, x.w2, x.w3, x.w0⟩

def toList (x : Row) : List UInt32 :=
  [x.w0, x.w1, x.w2, x.w3]

def pick (ws : List UInt32) (i j k l : Nat) : Row :=
  ⟨ws.getD i 0, ws.getD j 0, ws.getD k 0, ws.getD l 0⟩

end Row

structure State where
  a : Row
  b : Row
  c : Row
  d : Row

def mix (s : State) (x y : Row) : State :=
  let a := (s.a.add s.b).add x
  let d := Row.xorRotate 16 s.d a
  let c := s.c.add d
  let b := Row.xorRotate 12 s.b c
  let a := (a.add b).add y
  let d := Row.xorRotate 8 d a
  let c := c.add d
  let b := Row.xorRotate 7 b c
  ⟨a, b, c, d⟩

def round (s : State) (m : List UInt32) : State :=
  let s := mix s (Row.pick m 0 2 4 6) (Row.pick m 1 3 5 7)
  let s := mix ⟨s.a, s.b.shift, s.c.shift.shift, s.d.shift.shift.shift⟩
    (Row.pick m 8 10 12 14) (Row.pick m 9 11 13 15)
  ⟨s.a, s.b.shift.shift.shift, s.c.shift.shift, s.d.shift⟩

def nextOrder : List Nat :=
  [2, 6, 3, 10, 7, 0, 4, 13, 1, 11, 12, 5, 9, 14, 15, 8]

def reorder (m : List UInt32) : List UInt32 :=
  nextOrder.map fun i => m.getD i 0

def rounds (s : State) (m : List UInt32) : Nat → State
  | 0 => s
  | count + 1 => rounds (round s m) (reorder m) count

def startWords : List UInt32 :=
  [0x6a09e667, 0xbb67ae85, 0x3c6ef372, 0xa54ff53a, 0x510e527f, 0x9b05688c, 0x1f83d9ab, 0x5be0cd19]

def chunkStart : UInt32 := 1
def chunkEnd : UInt32 := 2
def parentFlag : UInt32 := 4
def rootFlag : UInt32 := 8

/-- A compression that is still to be done: the last of a chunk, or that of a pair of nodes. -/
structure Node where
  chain : List UInt32
  block : List UInt32
  counter : UInt64
  length : UInt32
  flags : UInt32

def Node.output (n : Node) : List UInt32 :=
  let s := rounds
    { a := Row.pick n.chain 0 1 2 3
      b := Row.pick n.chain 4 5 6 7
      c := Row.pick startWords 0 1 2 3
      d := ⟨n.counter.toUInt32, (n.counter >>> 32).toUInt32, n.length, n.flags⟩ }
    n.block 7
  (s.a.xor s.c).toList ++ (s.b.xor s.d).toList

def blockWords (bytes : Bytes) : List UInt32 :=
  littleWords (bytes ++ List.replicate (64 - bytes.length) 0)

def chunkNode (counter : UInt64) (chain : List UInt32) (flags : UInt32) : List Bytes → Node
  | [] => ⟨chain, blockWords [], counter, 0, flags ||| chunkEnd⟩
  | [block] =>
      ⟨chain, blockWords block, counter, UInt32.ofNat block.length, flags ||| chunkEnd⟩
  | block :: next :: rest =>
      let node : Node := ⟨chain, blockWords block, counter, UInt32.ofNat block.length, flags⟩
      chunkNode counter node.output 0 (next :: rest)

def leaves (counter : UInt64) : List Bytes → List Node
  | [] => []
  | chunk :: rest =>
      chunkNode counter startWords chunkStart (pieces 64 chunk) :: leaves (counter + 1) rest

def join (left right : Node) : Node :=
  ⟨startWords, left.output ++ right.output, 0, 64, parentFlag⟩

def joinPairs : List Node → List Node
  | left :: right :: rest => join left right :: joinPairs rest
  | rest => rest

theorem join_pairs_length (nodes : List Node) :
    (joinPairs nodes).length = (nodes.length + 1) / 2 := by
  fun_induction joinPairs nodes with
  | case1 left right rest shorter => simp [shorter]; omega
  | case2 rest short =>
      match rest with
      | [] => rfl
      | [_] => simp
      | left :: right :: more => exact absurd rfl (short left right more)

def top : List Node → Node
  | [] => chunkNode 0 startWords chunkStart []
  | [node] => node
  | left :: right :: rest => top (joinPairs (left :: right :: rest))
  termination_by nodes => nodes.length
  decreasing_by
    rw [join_pairs_length]
    simp only [List.length_cons]
    omega

def digest (message : Bytes) : Bytes :=
  let node := top (leaves 0 (pieces 1024 message))
  ({ node with flags := node.flags ||| rootFlag } : Node).output.flatMap littleBytes

end ArchiveSearch.Digest.Blake3

import ArchiveSearch.Cache.Basic

/- Computing a missing result once for many callers.

   A caller goes through stages: it looks into the cache, joins the cell of the key, enters the cell,
   and leaves it with an answer. Whoever enters an empty cell that nobody owns looks into the cache once
   more and, if the result is still missing, computes it; success fills the cell and the cache, and
   failure leaves the cell to the next. Every stage is one move, and the moves of different callers may
   come in any order. -/
namespace ArchiveSearch.Cache

set_option autoImplicit false

inductive Stage (α : Type) where
  | ready
  | missed
  | waiting (cell : Nat)
  | running (cell : Nat)
  | leaving (cell : Nat) (answer : Outcome α)
  | done (answer : Outcome α)

structure Caller (α : Type) where
  key : String
  ttl : Option Nat
  stage : Stage α := .ready

inductive Move (α : Type) where
  | look
  | join
  | enter
  | finish (answer : Outcome α)
  | leave

variable {α : Type}

def setCell (c : Cache α) (cell : Nat) (content : Cell α) : Cache α :=
  { c with cells := c.cells.set cell content }

def joinCell (c : Cache α) (key : String) : Nat × Cache α :=
  match c.slots.lookup key with
  | some cell => (cell, c)
  | none =>
      (c.cells.length,
        { c with slots := c.slots ++ [(key, c.cells.length)], cells := c.cells ++ [{}] })

def release (c : Cache α) (key : String) (cell : Nat) : Cache α :=
  if c.slots.lookup key == some cell then
    { c with slots := c.slots.filter fun slot => slot.1 != key }
  else c

def enterCell (c : Cache α) (now id : Nat) (caller : Caller α) (cell : Nat) :
    Cache α × Caller α :=
  match c.cells[cell]? with
  | none => (c, caller)
  | some content =>
      match content.value, content.owner with
      | some value, _ => (c, { caller with stage := .leaving cell (.ok value) })
      | none, some _ => (c, caller)
      | none, none =>
          match c.lookup now caller.key with
          | (some value, c) =>
              (c.setCell cell { content with value := some value },
                { caller with stage := .leaving cell (.ok value) })
          | (none, c) =>
              (c.setCell cell { content with owner := some id },
                { caller with stage := .running cell })

def finishCell (c : Cache α) (now : Nat) (caller : Caller α) (cell : Nat) :
    Outcome α → Cache α × Caller α
  | .ok value =>
      ((c.set now caller.key value caller.ttl).setCell cell { value := some value },
        { caller with stage := .leaving cell (.ok value) })
  | .error e => (c.setCell cell {}, { caller with stage := .leaving cell (.error e) })

def move (now id : Nat) (m : Move α) (c : Cache α) (caller : Caller α) : Cache α × Caller α :=
  match m, caller.stage with
  | .look, .ready =>
      match c.get now caller.key with
      | (some value, c) => (c, { caller with stage := .done (.ok value) })
      | (none, c) => (c, { caller with stage := .missed })
  | .join, .missed =>
      let (cell, c) := c.joinCell caller.key
      (c, { caller with stage := .waiting cell })
  | .enter, .waiting cell => c.enterCell now id caller cell
  | .finish answer, .running cell => c.finishCell now caller cell answer
  | .leave, .leaving cell answer =>
      (c.release caller.key cell, { caller with stage := .done answer })
  | _, _ => (c, caller)

def moves (now id : Nat) : List (Move α) → Cache α → Caller α → Cache α × Caller α
  | [], c, caller => (c, caller)
  | m :: rest, c, caller =>
      let (c, caller) := move now id m c caller
      moves now id rest c caller

def Stage.isRunning : Stage α → Bool
  | .running _ => true
  | _ => false

def Stage.answer? : Stage α → Option (Outcome α)
  | .done answer => some answer
  | _ => none

def getOrSet {σ : Type} (c : Cache α) (now : Nat) (key : String) (ttl : Option Nat)
    (compute : σ → Outcome α × σ) (s : σ) : Outcome α × Cache α × σ :=
  let (c, caller) := moves now 0 [.look, .join, .enter] c { key, ttl }
  if caller.stage.isRunning then
    let (answer, s) := compute s
    let (c, _) := moves now 0 [.finish answer, .leave] c caller
    (answer, c, s)
  else
    let (c, caller) := moves now 0 [.leave] c caller
    ((caller.stage.answer?).getD (.error (.other "no answer")), c, s)

def turn (now id : Nat) (answer : Outcome α) (c : Cache α) (caller : Caller α) :
    Cache α × Caller α :=
  if caller.stage.isRunning then moves now id [.finish answer, .leave] c caller
  else moves now id [.look, .join, .enter, .leave] c caller

def roundFrom (now : Nat) : Nat → List (Caller α × Outcome α) → Cache α →
    Nat × List (Caller α × Outcome α) × Cache α
  | _, [], c => (0, [], c)
  | id, (caller, answer) :: rest, c =>
      let (c, next) := turn now id answer c caller
      let begun := if next.stage.isRunning && !caller.stage.isRunning then 1 else 0
      let (more, rest, c) := roundFrom now (id + 1) rest c
      (begun + more, (next, answer) :: rest, c)

def rounds (now : Nat) : Nat → List (Caller α × Outcome α) → Cache α →
    Nat × List (Caller α × Outcome α) × Cache α
  | 0, callers, c => (0, callers, c)
  | count + 1, callers, c =>
      let (begun, callers, c) := roundFrom now 0 callers c
      let (more, callers, c) := rounds now count callers c
      (begun + more, callers, c)

def together (c : Cache α) (now : Nat) (callers : List (Caller α × Outcome α)) :
    Nat × List (Outcome α) × Cache α :=
  let (begun, callers, c) := rounds now (callers.length + 1) callers c
  (begun, callers.filterMap fun x => x.1.stage.answer?, c)

end ArchiveSearch.Cache

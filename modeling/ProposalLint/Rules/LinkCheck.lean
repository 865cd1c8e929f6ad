import ProposalLint.Rules.World

namespace ProposalLint.Rules

open Url

-- What became of an address.
inductive LinkStatus where
  | fine
  -- The server refuses to be asked for the head alone.
  | fineWithGet (headStatus : Nat)
  | failed (status : Nat)
  | unreachable
deriving DecidableEq, Inhabited, Repr

inductive Cell where
  | empty
  | filling
  | filled (status : LinkStatus)
deriving DecidableEq, Inhabited, Repr

inductive Stage where
  | looking
  -- The cell of the address is there.
  | holding
  | asking
  | retrying (headStatus : Nat)
  | finished (status : LinkStatus)
  -- Whoever started the check has taken its status.
  | joined (status : LinkStatus)
deriving DecidableEq, Inhabited, Repr

structure Check where
  address : Address
  stage : Stage := .looking
deriving Inhabited

-- All checks of a run share the cells and the record of requests. Every address has one cell: the
-- check that comes first fills it, the others wait for it.
structure Checker where
  cells : List (String × Cell) := []
  requests : List (WebMethod × Address) := []
deriving Inhabited

namespace Checker

def isSuccess (status : Nat) : Bool :=
  200 ≤ status && status < 300

def fill (k : Checker) (a : Address) (cell : Cell) : Checker :=
  { k with cells := (a.text, cell) :: k.cells.filter (·.1 != a.text) }

def ask (k : Checker) (world : World) (m : WebMethod) (a : Address) : Checker × Option Nat :=
  ({ k with requests := k.requests ++ [(m, a)] }, world.web m a.requestText)

def finish (k : Checker) (c : Check) (s : LinkStatus) : Checker × Check :=
  (k.fill c.address (.filled s), { c with stage := .finished s })

-- The next step of a check. One that waits for a cell makes none.
def step (world : World) (k : Checker) (c : Check) : Checker × Check :=
  match c.stage with
  | .looking =>
    let k := if (k.cells.lookup c.address.text).isNone then k.fill c.address .empty else k
    (k, { c with stage := .holding })
  | .holding =>
    match k.cells.lookup c.address.text with
    | some .filling => (k, c)
    | some (.filled s) => (k, { c with stage := .finished s })
    | _ => (k.fill c.address .filling, { c with stage := .asking })
  | .asking =>
    match k.ask world .head c.address with
    | (k, none) => k.finish c .unreachable
    | (k, some status) =>
      if isSuccess status then k.finish c .fine else (k, { c with stage := .retrying status })
  | .retrying headStatus =>
    match k.ask world .get c.address with
    | (k, none) => k.finish c .unreachable
    | (k, some status) =>
      k.finish c (if isSuccess status then .fineWithGet headStatus else .failed status)
  | .finished s => (k, { c with stage := .joined s })
  | .joined _ => (k, c)

-- Lets the check at a place take a step.
def stepAt (world : World) (k : Checker) (cs : List Check) (i : Nat) : Checker × List Check :=
  match cs[i]? with
  | some c =>
    let (k, c) := k.step world c
    (k, cs.set i c)
  | none => (k, cs)

def follow (world : World) (k : Checker) (cs : List Check) (turns : List Nat) :
    Checker × List Check :=
  turns.foldl (fun (k, cs) i => k.stepAt world cs i) (k, cs)

def statusOf (c : Check) : Option LinkStatus :=
  match c.stage with
  | .joined s => some s
  | _ => none

-- A check takes five steps if it need not wait.
def turnsEach (count : Nat) : List Nat :=
  (List.range count).flatMap (List.replicate 5)

-- The checks take the given turns. Then each of them goes on as far as it can without the others
-- and, now that no cell is being filled, to its end.
def runAll (world : World) (k : Checker) (cs : List Check) (turns : List Nat) :
    Checker × List Check :=
  k.follow world cs (turns ++ turnsEach cs.length ++ turnsEach cs.length)

end Checker
end ProposalLint.Rules

import ProposalLint.Engine.Rule
import ProposalLint.Rules.LinkCheck

namespace ProposalLint.Rules

open Url

structure LinkLimits where
  -- Requests that may be under way at once; at least one always may.
  maxConcurrent : Nat := 8
  timeoutSeconds : Nat := 10
  minIntervalMilliseconds : Nat := 100
deriving DecidableEq, Inhabited, Repr

def localHosts : List String :=
  ["127.0.0.1", "localhost", "[::1]"]

-- The address of a link that is to be checked. Other schemes, relative addresses and this machine
-- are passed over.
def externalAddress? (address? : Parser) (url : String) : Option Address :=
  (address? url).filter fun a => a.isWeb && !a.host.any localHosts.contains

def isLink (n : Node) : Bool :=
  n.kind = .link || n.kind = .image || n.kind = .definition

structure Target where
  url : String
  address : Address
  node : Node
deriving Inhabited

-- The links under a node that are to be checked, in walk order.
def targets (address? : Parser) (root : Visit) : List Target :=
  root.walk.filterMap fun v => do
    if !isLink v.node then none
    let url ← v.node.url
    some ⟨url, ← externalAddress? address? url, v.node⟩

-- What is said about a link.
def tell (t : Target) : LinkStatus → Action Checker Unit
  | .fine => pure ()
  | .fineWithGet headStatus =>
    Action.note (.info ("The server responded with " ++ toString headStatus ++
      " using HEAD for url \"" ++ t.url ++
      "\" but succeeded using GET. That server is not following http specification."))
  | .failed status =>
    Action.report t.node
      ("Url \"" ++ t.url ++ "\" is invalid, the server responded with " ++ toString status)
  | .unreachable =>
    Action.report t.node
      ("Url \"" ++ t.url ++
        "\" is invalid, the server doesn't exist or there's no internet access.")

def requestLine (m : WebMethod) (a : Address) : String :=
  m.name ++ " " ++ a.requestText

-- All checks are taken from the state as it was, and the requests they add are recorded.
def checkLinks (world : World) (root : Visit) : Action Checker Unit := do
  let ts := targets world.address? root
  let checks := ts.map fun t => { address := t.address : Check }
  let turns := world.turns root.id
  let before ← Action.update fun k => (k.runAll world checks turns).1
  let (after, checks) := before.runAll world checks turns
  (after.requests.drop before.requests.length).forM fun (m, a) => Action.request (requestLine m a)
  (ts.zip checks).forM fun (t, check) => (Checker.statusOf check).forM (tell t)

-- More permits than this cannot be given out.
def maxPermits : Nat :=
  2305843009213693951

def LinkLimits.permits (l : LinkLimits) : Nat :=
  max 1 l.maxConcurrent

def badLink (world : World) (limits : LinkLimits := {}) : Rule where
  id := "bad-link"
  description := "External links must be reachable"
  State := Checker
  create _ := do
    if maxPermits < limits.permits then Action.panic
    return ⟨{}, [⟨"root", checkLinks world⟩]⟩

end ProposalLint.Rules

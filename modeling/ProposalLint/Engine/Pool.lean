import ProposalLint.Engine.Action

namespace ProposalLint

-- A call that was not made yet, one that is under way, or one that has nothing to do any more.
inductive Call (σ : Type) where
  | waiting (start : Action σ Unit)
  | active (rest : Action σ Unit)
  | closed

namespace Call

variable {σ : Type}

def isOpen : Call σ → Bool
  | closed => false
  | _ => true

-- `Later d c` says that a step can make `c` into `d`.
inductive Later : Call σ → Call σ → Prop
  | called : Later (active start) (waiting start)
  | worked : (Action.Rest rest a) → Later (active rest) (active a)
  | ended : Later closed (active a)

theorem later_acc (c : Call σ) : Acc Later c := by
  have closed_acc : Acc Later (closed : Call σ) := ⟨_, fun _ h => nomatch h⟩
  have active_acc (a : Action σ Unit) : Acc Later (active a) := by
    induction a.rest_acc with
    | intro a _ ih =>
      refine ⟨_, fun d h => ?_⟩
      cases h with
      | worked h => exact ih _ h
      | ended => exact closed_acc
  cases c with
  | closed => exact closed_acc
  | active a => exact active_acc a
  | waiting start => exact ⟨_, fun _ h => by cases h; exact active_acc start⟩

-- One of several calls has had a step.
inductive Stepped : List (Call σ) → List (Call σ) → Prop
  | head : (Later d c) → Stepped (d :: cs) (c :: cs)
  | tail : (Stepped ds cs) → Stepped (c :: ds) (c :: cs)

theorem stepped_set {cs : List (Call σ)} {i : Nat} {c d : Call σ}
    (h : cs[i]? = some c) (later : Later d c) : Stepped (cs.set i d) cs := by
  induction cs generalizing i with
  | nil => simp at h
  | cons c₀ cs ih =>
    cases i with
    | zero =>
      simp only [List.getElem?_cons_zero, Option.some.injEq] at h
      exact .head (h ▸ later)
    | succ i => exact .tail (ih h)

theorem stepped_acc (cs : List (Call σ)) : Acc Stepped cs := by
  induction cs with
  | nil => exact ⟨_, fun _ h => nomatch h⟩
  | cons c cs ih =>
    -- Either the first call has a step or one of the others, so both measures are needed at once.
    induction later_acc c generalizing cs with
    | intro c _ ihc =>
      induction ih with
      | intro cs acc ihs =>
        refine ⟨_, fun ds h => ?_⟩
        cases h with
        | head later => exact ihc _ later cs ⟨_, acc⟩
        | tail h => exact ihs _ h

instance : WellFoundedRelation (List (Call σ)) where
  rel := Stepped
  wf := ⟨stepped_acc⟩

end Call

-- What the last step of a call was.
inductive Mark where
  | working
  | yielded
  | ended
deriving DecidableEq, Inhabited, Repr

-- Who decides which call is next. The state goes through a whole run.
structure Scheduler where
  State : Type
  start : State
  -- A rule is about to make the calls with these places.
  enter : State → List Nat → State
  pick : State → Nat
  -- The call that was picked had a step.
  turn : State → Mark → State

-- `queue` are the calls whose turn in this round is still to come, `stopped` those that had it, the
-- last one first.
structure Rounds where
  queue : List Nat := []
  stopped : List Nat := []
deriving DecidableEq, Inhabited, Repr

namespace Rounds

-- The next round starts when the queue is empty.
def refill : Rounds → Rounds
  | ⟨[], stopped⟩ => ⟨stopped, []⟩
  | r => r

def turn (r : Rounds) (m : Mark) : Rounds :=
  match r.queue, m with
  | i :: queue, .yielded => refill ⟨queue, i :: r.stopped⟩
  | _ :: queue, .ended => refill ⟨queue, r.stopped⟩
  | _, _ => r

end Rounds

namespace Scheduler

-- The scheduler of a single thread: a call runs until it lets others run, and a round goes through
-- the calls in the opposite direction of the round before.
def rounds : Scheduler where
  State := Rounds
  start := {}
  enter _ calls := ⟨calls, []⟩
  pick r := r.queue.headD 0
  turn := Rounds.turn

end Scheduler

-- `fault` is that of the call which was the first to end in one.
structure Pool (σ : Type) where
  calls : List (Call σ)
  running : Running σ
  turns : List Turn := []
  fault : Option Fault := none

namespace Pool

variable {σ : Type}

def record (p : Pool σ) (i : Nat) (e : CallEvent) : Pool σ :=
  { p with turns := p.turns ++ [⟨i, e⟩] }

-- The places of the calls that have something to do.
def openCalls (p : Pool σ) : List Nat :=
  (List.range p.calls.length).filter fun i => p.calls[i]?.any Call.isOpen

-- The call that is asked for or, if that one is over, the first that is not.
def choose (p : Pool σ) (i : Nat) : Option Nat :=
  if p.calls[i]?.any Call.isOpen then some i else p.calls.findIdx? Call.isOpen

-- Lets a call do its next operation. Making the call is an operation of its own.
def step (p : Pool σ) (i : Nat) : Pool σ × Mark :=
  match p.calls[i]? with
  | some (.waiting start) =>
    ({ p with calls := p.calls.set i (.active start) }.record i .called, .working)
  | some (.active a) =>
    match a.perform p.running with
    | (.working none rest, running) =>
      ({ p with calls := p.calls.set i (.active rest), running := running }, .working)
    | (.working (some finding) rest, running) =>
      ({ p with calls := p.calls.set i (.active rest), running := running }.record i
        (.reported finding), .working)
    | (.yielded rest, running) =>
      ({ p with calls := p.calls.set i (.active rest), running := running }, .yielded)
    | (.ended fault, running) =>
      ({ p with calls := p.calls.set i .closed, running := running, fault := p.fault.or fault }.record
        i (.ended fault), .ended)
  | _ => (p, .ended)

theorem isOpen_of_choose {p : Pool σ} {i j : Nat} (h : p.choose i = some j) :
    ∃ c, p.calls[j]? = some c ∧ c.isOpen := by
  unfold choose at h
  split at h
  · next hi =>
    cases h
    have ⟨hs, ho⟩ := Option.any_eq_true_iff_get _ _ |>.mp hi
    exact ⟨_, Option.some_get hs |>.symm, ho⟩
  · obtain ⟨hj, ho, -⟩ := List.findIdx?_eq_some_iff_getElem.mp h
    exact ⟨_, List.getElem?_eq_getElem hj, ho⟩

-- An open call has a step to take.
theorem step_stepped {p : Pool σ} {i : Nat} {c : Call σ} (h : p.calls[i]? = some c)
    (ho : c.isOpen) : Call.Stepped (p.step i).1.calls p.calls := by
  unfold step
  cases c with
  | closed => simp [Call.isOpen] at ho
  | waiting start =>
    simp only [h, record]
    exact Call.stepped_set h .called
  | active a =>
    simp only [h]
    split
    · next hp => exact Call.stepped_set h (.worked (Action.rest_of_working hp))
    · next hp => exact Call.stepped_set h (.worked (Action.rest_of_working hp))
    · next hp => exact Call.stepped_set h (.worked (Action.rest_of_yielded hp))
    · exact Call.stepped_set h .ended

theorem stepped_of_choose {p : Pool σ} {i j : Nat} (h : p.choose i = some j) :
    Call.Stepped (p.step j).1.calls p.calls :=
  have ⟨_, hc, ho⟩ := isOpen_of_choose h
  step_stepped hc ho

-- Runs all calls to their end.
def settle (s : Scheduler) (state : s.State) (p : Pool σ) : s.State × Pool σ :=
  match h : p.choose (s.pick state) with
  | none => (state, p)
  | some i =>
    have := stepped_of_choose h
    settle s (s.turn state (p.step i).2) (p.step i).1
termination_by p.calls

end Pool
end ProposalLint

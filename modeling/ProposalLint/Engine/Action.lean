import ProposalLint.Engine.Trace

namespace ProposalLint

-- The trace together with what a rule keeps between its calls.
structure Running (σ : Type) where
  trace : Trace
  state : σ

namespace Running

variable {σ : Type}

def record (r : Running σ) (report : Report) : Running σ :=
  { r with trace := { r.trace with reports := r.trace.reports ++ [report] } }

def note (r : Running σ) (n : Note) : Running σ :=
  { r with trace := { r.trace with notes := r.trace.notes ++ [n] } }

def request (r : Running σ) (line : String) : Running σ :=
  { r with trace := { r.trace with requests := r.trace.requests ++ [line] } }

def launch (r : Running σ) (l : Launch) : Running σ :=
  { r with trace := { r.trace with launches := r.trace.launches ++ [l] } }

def update (r : Running σ) (change : σ → σ) : Running σ :=
  { r with state := change r.state }

end Running

-- A piece of work of a rule that keeps a `σ`: which operation comes next and how the work goes on
-- with the answer. An operation is the smallest thing that other work cannot split.
inductive Action (σ α : Type) where
  | done (value : α)
  | stopped (fault : Fault)
  -- The answer says whether the finding was taken.
  | reporting (f : Finding) (next : Except RuleError Unit → Action σ α)
  | noting (n : Note) (next : Action σ α)
  | requesting (line : String) (next : Action σ α)
  | launching (l : Launch) (next : Action σ α)
  | askingRule (next : Option String → Action σ α)
  | askingCount (next : Nat → Action σ α)
  -- The answer is the state before the change.
  | updating (change : σ → σ) (next : σ → Action σ α)
  -- Lets other work run.
  | yielding (next : Action σ α)

namespace Action

variable {σ α β : Type}

def bind : Action σ α → (α → Action σ β) → Action σ β
  | done a, f => f a
  | stopped fault, _ => stopped fault
  | reporting finding next, f => reporting finding fun answer => (next answer).bind f
  | noting n next, f => noting n (next.bind f)
  | requesting line next, f => requesting line (next.bind f)
  | launching l next, f => launching l (next.bind f)
  | askingRule next, f => askingRule fun id => (next id).bind f
  | askingCount next, f => askingCount fun count => (next count).bind f
  | updating change next, f => updating change fun s => (next s).bind f
  | yielding next, f => yielding (next.bind f)

instance : Monad (Action σ) where
  pure := done
  bind := bind

def fail (cause : RuleError) : Action σ α :=
  stopped (.error cause)

def panic : Action σ α :=
  stopped .panic

-- Says something about a node, which must be taken.
def report (n : Node) (text : String) : Action σ Unit :=
  reporting ⟨n, text⟩ fun
    | .ok () => done ()
    | .error cause => fail cause

def note (n : Note) : Action σ Unit :=
  noting n (done ())

def request (line : String) : Action σ Unit :=
  requesting line (done ())

def launch (l : Launch) : Action σ Unit :=
  launching l (done ())

def currentRule : Action σ (Option String) :=
  askingRule done

def reportCount : Action σ Nat :=
  askingCount done

-- Changes the state and gives the one before.
def update (change : σ → σ) : Action σ σ :=
  updating change done

def yield : Action σ Unit :=
  yielding (done ())

-- What one operation comes to: work that goes on, maybe with a finding that was taken, work that
-- lets others run first, or an end.
inductive Progress (σ : Type) where
  | working (finding : Option Finding) (rest : Action σ Unit)
  | yielded (rest : Action σ Unit)
  | ended (fault : Option Fault)

-- Does the next operation.
def perform (r : Running σ) : Action σ Unit → Progress σ × Running σ
  | done _ => (.ended none, r)
  | stopped fault => (.ended (some fault), r)
  | reporting f next =>
    match r.trace.stamp f with
    | .ok report => (.working (some f) (next (.ok ())), r.record report)
    | .error cause => (.working none (next (.error cause)), r)
  | noting n next => (.working none next, r.note n)
  | requesting line next => (.working none next, r.request line)
  | launching l next => (.working none next, r.launch l)
  | askingRule next => (.working none (next r.trace.current), r)
  | askingCount next => (.working none (next r.trace.reports.length), r)
  | updating change next => (.working none (next r.state), r.update change)
  | yielding next => (.yielded next, r)

-- Does all operations while nothing else runs.
def run : Action σ α → Running σ → Except Fault α × Running σ
  | done a, r => (.ok a, r)
  | stopped fault, r => (.error fault, r)
  | reporting f next, r =>
    match r.trace.stamp f with
    | .ok report => (next (.ok ())).run (r.record report)
    | .error cause => (next (.error cause)).run r
  | noting n next, r => next.run (r.note n)
  | requesting line next, r => next.run (r.request line)
  | launching l next, r => next.run (r.launch l)
  | askingRule next, r => (next r.trace.current).run r
  | askingCount next, r => (next r.trace.reports.length).run r
  | updating change next, r => (next r.state).run (r.update change)
  | yielding next, r => next.run r

-- `Rest b a` says that `b` is left of `a` after one operation.
inductive Rest : Action σ α → Action σ α → Prop
  | reporting (answer : Except RuleError Unit) : Rest (next answer) (reporting f next)
  | noting : Rest next (noting n next)
  | requesting : Rest next (requesting line next)
  | launching : Rest next (launching l next)
  | askingRule (id : Option String) : Rest (next id) (askingRule next)
  | askingCount (count : Nat) : Rest (next count) (askingCount next)
  | updating (s : σ) : Rest (next s) (updating change next)
  | yielding : Rest next (yielding next)

theorem rest_acc (a : Action σ α) : Acc Rest a := by
  induction a with
  | done | stopped => exact ⟨_, fun _ h => nomatch h⟩
  | reporting _ _ ih | askingRule _ ih | askingCount _ ih | updating _ _ ih =>
    exact ⟨_, fun _ h => by cases h; exact ih _⟩
  | noting _ _ ih | requesting _ _ ih | launching _ _ ih | yielding _ ih =>
    exact ⟨_, fun _ h => by cases h; exact ih⟩

theorem rest_of_working {a rest : Action σ Unit} {r r' : Running σ} {finding : Option Finding}
    (h : a.perform r = (.working finding rest, r')) : Rest rest a := by
  cases a <;> simp only [perform] at h
  case reporting =>
    split at h <;> injection h with h <;> injection h with _ h <;> exact h ▸ .reporting _
  case askingRule | askingCount | updating | noting | requesting | launching =>
    injection h with h
    injection h with _ h
    exact h ▸ by constructor
  all_goals simp at h

theorem rest_of_yielded {a rest : Action σ Unit} {r r' : Running σ}
    (h : a.perform r = (.yielded rest, r')) : Rest rest a := by
  cases a <;> simp only [perform] at h
  case reporting => split at h <;> simp at h
  case yielding =>
    injection h with h
    injection h with h
    exact h ▸ .yielding
  all_goals simp at h

end Action
end ProposalLint

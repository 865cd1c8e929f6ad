import ProposalLint.Engine.Run
import ProposalLint.Proofs.Engine.Outcome

namespace ProposalLint

namespace Action

variable {σ α : Type}

-- Does the next operation while nothing else runs.
def advance (r : Running σ) : Action σ α → Option (Action σ α × Running σ)
  | done _ | stopped _ => none
  | reporting f next =>
    match r.trace.stamp f with
    | .ok report => some (next (.ok ()), r.record report)
    | .error cause => some (next (.error cause), r)
  | noting n next => some (next, r.note n)
  | requesting line next => some (next, r.request line)
  | launching l next => some (next, r.launch l)
  | askingRule next => some (next r.trace.current, r)
  | askingCount next => some (next r.trace.reports.length, r)
  | updating change next => some (next r.state, r.update change)
  | yielding next => some (next, r)

-- An action that has nothing to do any more.
def finished : Except Fault α → Action σ α
  | .ok a => done a
  | .error fault => stopped fault

variable {a b : Action σ α} {r r' : Running σ}

theorem run_of_advance (h : a.advance r = some (b, r')) : a.run r = b.run r' := by
  cases a <;> simp only [advance] at h
  case done | stopped => cases h
  case reporting =>
    split at h
    case h_1 hs | h_2 hs =>
      cases h
      rw [run, hs]
  all_goals
    cases h
    rfl

-- While no rule is active, an operation adds nothing but log lines, requests and launches.
theorem advance_fresh (hf : r.trace.Fresh) (h : a.advance r = some (b, r')) : r'.trace.Fresh := by
  cases a <;> simp only [advance, Trace.stamp, hf.current] at h
  case done | stopped => cases h
  all_goals
    cases h
    exact ⟨hf.current, hf.reports, hf.dispatches⟩

end Action

-- What is under way is left of what was started.
theorem Call.Lived.path (l : Lived rule (.waiting start) (.active rest) events) :
    ∃ findings, Action.Path rule start findings rest := by
  cases l
  case active p => exact ⟨_, p⟩

theorem Pool.step_reporting {p : Pool σ} (hc : p.running.trace.current = some rule)
    (h : p.calls[i]? = some (.active (.reporting f next))) :
    p.step i = (({ p with
      calls := p.calls.set i (.active (next (.ok ()))),
      running := p.running.record (f.report rule) } : Pool σ).record i (.reported f), .working) := by
  simp only [step, h, Action.perform, Trace.stamp, hc]

-- Where a run stands. The rules and nodes that come next are in their order.
inductive Moment where
  -- Before the setup of the next rule.
  | preparing (ready : List ActiveRule) (later : List Rule) (trace : Trace)
  -- In the setup of a rule of which `rest` is left.
  | creating (ready : List ActiveRule) (rule : Rule) (rest : Action Unit (Setup rule.State))
      (running : Running Unit) (later : List Rule)
  -- Between two dispatches. The first of `visits` is the node that the rules have their turns on.
  | between (had todo : List ActiveRule) (visits : List Visit) (trace : Trace)
  -- While the validators of a rule are under way.
  | dispatching (had : List ActiveRule) (rule : ActiveRule) (visit : Visit)
      (pool : Pool rule.State) (todo : List ActiveRule) (visits : List Visit)
  | ended (result : Except EngineError (List Message)) (trace : Trace)

namespace Moment

-- What can happen next in a run with the nodes `vs`. While validators are under way, any of them
-- that is not over can be the next one.
inductive Step (c : Context) (vs : List Visit) : Moment → Moment → Prop
  | begin : Step c vs (preparing ready (r :: later) t)
      (creating ready r (r.create c) ⟨t, ()⟩ later)
  | work {rest rest' : Action Unit (Setup r.State)} :
      (rest.advance running = some (rest', running')) →
      Step c vs (creating ready r rest running later) (creating ready r rest' running' later)
  | created : Step c vs (creating ready r (.done setup) running later)
      (preparing (ready ++ [.ofSetup r.id setup]) later running.trace)
  | refused : Step c vs (creating ready r (.stopped fault) running later)
      (ended (.error (r.error fault)) running.trace)
  | prepared : Step c vs (preparing ready [] t) (between [] ready vs t)
  | pass : ((r.pool v t).openCalls.isEmpty) →
      Step c vs (between had (r :: todo) (v :: visits) t)
        (between (had ++ [r]) todo (v :: visits) (t.record ⟨v, r.id, []⟩))
  | enter : (¬(r.pool v t).openCalls.isEmpty) →
      Step c vs (between had (r :: todo) (v :: visits) t)
        (dispatching had r v (r.pool v t) todo visits)
  | turn {p : Pool r.State} {call : Call r.State} : (p.calls[i]? = some call) → (call.isOpen) →
      Step c vs (dispatching had r v p todo visits) (dispatching had r v (p.step i).1 todo visits)
  | leave : (∀ call ∈ p.calls, call = .closed) → (p.fault = none) →
      Step c vs (dispatching had r v p todo visits)
        (between (had ++ [{ r with state := p.running.state }]) todo (v :: visits)
          (p.running.trace.leave.record ⟨v, r.id, p.turns⟩))
  | fail : (∀ call ∈ p.calls, call = .closed) → (p.fault = some fault) →
      Step c vs (dispatching had r v p todo visits)
        (ended (.error (r.error v fault)) (p.running.trace.leave.record ⟨v, r.id, p.turns⟩))
  | next : Step c vs (between had [] (v :: visits) t) (between [] had visits t)
  | finish : Step c vs (between had todo [] t) (ended (messages t.reports) t)

-- Any number of steps.
abbrev Steps (c : Context) (vs : List Visit) : Moment → Moment → Prop :=
  Relation.ReflTransGen (Step c vs)

section Steps

variable {c : Context} {vs : List Visit} {s : Scheduler}

theorem creating_steps (rest : Action Unit (Setup r.State)) (running : Running Unit) :
    Steps c vs (creating ready r rest running later)
      (creating ready r (.finished (rest.run running).1) (rest.run running).2 later) := by
  induction rest generalizing running
  case done | stopped => exact .refl
  case reporting f next ih =>
    rw [Action.run]
    split
    case h_1 h => exact .head (.work (by rw [Action.advance, h])) (ih _ _)
    case h_2 h => exact .head (.work (by rw [Action.advance, h])) (ih _ _)
  case askingRule ih | askingCount ih | updating ih => exact .head (.work rfl) (ih _ _)
  case noting ih | requesting ih | launching ih | yielding ih => exact .head (.work rfl) (ih _)

theorem createAll_steps (rules : List Rule) (ready : List ActiveRule) (t : Trace)
    (created : List String) :
    Steps c vs (preparing ready rules t)
      (match createAll c rules t created with
      | (.ok active, t, _) => between [] (ready ++ active) vs t
      | (.error cause, t, _) => ended (.error cause) t) := by
  induction rules generalizing ready t created
  case nil => simpa [createAll] using .single .prepared
  case cons r rules ih =>
    have hs : Steps c vs (preparing ready (r :: rules) t) _ :=
      .head .begin (creating_steps (r.create c) ⟨t, ()⟩)
    rw [createAll]
    generalize (r.create c).run ⟨t, ()⟩ = x at hs ⊢
    obtain ⟨result, running⟩ := x
    cases result
    case error fault => cases fault <;> exact hs.tail .refused
    case ok setup =>
      have hrest := (hs.tail .created).trans (ih _ _ (created ++ [r.id]))
      dsimp only
      generalize createAll c rules running.trace (created ++ [r.id]) = y at hrest ⊢
      obtain ⟨active, _, _⟩ := y
      cases active
      case error => exact hrest
      case ok => simpa using hrest

theorem settle_steps (state : s.State) (p : Pool r.State) :
    Steps c vs (dispatching had r v p todo visits)
      (dispatching had r v (p.settle s state).2 todo visits) := by
  induction state, p using Pool.settle.induct s
  case case1 h => rw [Pool.settle_eq_self h]
  case case2 h _ ih =>
    rw [Pool.settle_eq_step h]
    obtain ⟨_, hi, ho⟩ := Pool.isOpen_of_choose h
    exact .head (.turn hi ho) ih

theorem dispatch_steps (r : ActiveRule) (st : RunState s) :
    Steps c vs (between had (r :: todo) (v :: visits) st.trace)
      (match r.dispatch v st with
      | (r, st, none) => between (had ++ [r]) todo (v :: visits) st.trace
      | (_, st, some cause) => ended (.error cause) st.trace) := by
  unfold ActiveRule.dispatch
  by_cases h : (r.pool v st.trace).openCalls.isEmpty
  case pos =>
    simp only [h, if_true]
    exact .single (.pass h)
  case neg =>
    let state := s.enter st.schedule (r.pool v st.trace).openCalls
    have hs : Steps c vs (between had (r :: todo) (v :: visits) st.trace) _ :=
      .head (.enter h) (settle_steps state (r.pool v st.trace))
    have hclosed : ∀ call ∈ ((r.pool v st.trace).settle s state).2.calls, call = .closed :=
      Pool.settle_closed
    simp only [h]
    cases hf : ((r.pool v st.trace).settle s state).2.fault
    case none => exact hs.tail (.leave hclosed hf)
    case some fault => exact hs.tail (.fail hclosed hf)

theorem dispatchAll_steps (rules had : List ActiveRule) (st : RunState s) :
    Steps c vs (between had rules (v :: visits) st.trace)
      (match dispatchAll v rules st with
      | (rules, st, none) => between (had ++ rules) [] (v :: visits) st.trace
      | (_, st, some cause) => ended (.error cause) st.trace) := by
  induction rules generalizing had st
  case nil => simpa [dispatchAll] using .refl
  case cons r rules ih =>
    have hs : Steps c vs (between had (r :: rules) (v :: visits) st.trace) _ :=
      dispatch_steps r st
    rw [dispatchAll]
    generalize r.dispatch v st = x at hs ⊢
    obtain ⟨r', st', error⟩ := x
    cases error
    case some => exact hs
    case none =>
      have hrest := hs.trans (ih (had ++ [r']) st')
      dsimp only
      generalize dispatchAll v rules st' = y at hrest ⊢
      obtain ⟨_, _, error⟩ := y
      cases error
      case some => exact hrest
      case none => simpa using hrest

theorem visitAll_steps (visits : List Visit) (rules : List ActiveRule) (st : RunState s) :
    Steps c vs (between [] rules visits st.trace)
      (match visitAll visits rules st with
      | (st, none) => ended (messages st.trace.reports) st.trace
      | (st, some cause) => ended (.error cause) st.trace) := by
  induction visits generalizing rules st
  case nil => exact .single .finish
  case cons v visits ih =>
    have hs : Steps c vs (between [] rules (v :: visits) st.trace) _ := dispatchAll_steps rules [] st
    rw [visitAll]
    generalize dispatchAll v rules st = x at hs ⊢
    obtain ⟨rules', st', error⟩ := x
    cases error
    case some => exact hs
    case none => exact (hs.tail .next).trans (ih rules' st')

end Steps

-- Every one of `active` is one of `rules` as it is set up for the document of `c`.
def AllReady (c : Context) (rules : List Rule) (active : List ActiveRule) : Prop :=
  ∀ a ∈ active, ∃ r ∈ rules, r.Ready c a

-- What holds in a run with the rules `rules`: nothing has been reported as long as rules are set up,
-- and all that is under way later are the calls of the rule that is the current one.
def Sound (c : Context) (rules : List Rule) : Moment → Prop
  | preparing ready later t => t.Fresh ∧ AllReady c rules ready ∧ later ⊆ rules
  | creating ready r rest running later =>
    running.trace.Fresh ∧ (rest.run running).1 = r.setup c ∧ AllReady c rules ready ∧
      r :: later ⊆ rules
  | between had todo _ t => t.current = none ∧ AllReady c rules (had ++ todo)
  | dispatching had r v p todo _ =>
    (∃ t, p.Account r.id (r.calls v) t) ∧ AllReady c rules (had ++ r :: todo)
  | ended _ t => t.current = none

section Sound

variable {c : Context} {rules : List Rule} {vs : List Visit} {m m' : Moment}

theorem AllReady.append (h₁ : AllReady c rules as) (h₂ : AllReady c rules bs) :
    AllReady c rules (as ++ bs) :=
  List.forall_mem_append.mpr ⟨h₁, h₂⟩

-- A rule stays ready, whatever its validators do to its state.
theorem AllReady.update (h : AllReady c rules (as ++ a :: bs)) (state : a.State) :
    AllReady c rules (as ++ { a with state := state } :: bs) := by
  have ⟨has, habs⟩ := List.forall_mem_append.mp h
  have ⟨⟨r, hr, setup, _, hs, ha⟩, hbs⟩ := List.forall_mem_cons.mp habs
  subst ha
  exact .append has (List.forall_mem_cons.mpr ⟨⟨r, hr, setup, state, hs, rfl⟩, hbs⟩)

theorem Sound.step (h : m.Sound c rules) (st : Step c vs m m') : m'.Sound c rules := by
  cases st
  case begin r _ _ =>
    have ⟨hf, hr, hl⟩ := h
    exact ⟨hf, r.create_run hf, hr, hl⟩
  case work ha =>
    have ⟨hf, hs, hr, hl⟩ := h
    exact ⟨Action.advance_fresh hf ha, Action.run_of_advance ha ▸ hs, hr, hl⟩
  case created r setup _ _ =>
    have ⟨hf, hs, hr, hl⟩ := h
    have ⟨hm, hl⟩ := List.cons_subset.mp hl
    have ha : AllReady c rules [.ofSetup r.id setup] :=
      List.forall_mem_singleton.mpr ⟨r, hm, setup, setup.state, hs.symm, rfl⟩
    exact ⟨hf, hr.append ha, hl⟩
  case refused => exact h.left.current
  case prepared => exact ⟨h.left.current, h.right.left⟩
  case pass =>
    have ⟨hc, hr⟩ := h
    exact ⟨hc, List.append_cons .. ▸ hr⟩
  case enter => exact ⟨⟨_, ActiveRule.pool_account⟩, h.right⟩
  case turn hi ho =>
    have ⟨⟨t, acc⟩, hr⟩ := h
    exact ⟨⟨t, acc.step (Pool.step_of_isOpen acc.current hi ho)⟩, hr⟩
  case leave => exact ⟨rfl, List.append_cons .. ▸ h.right.update _⟩
  case fail => rfl
  case next =>
    have ⟨hc, hr⟩ := h
    exact ⟨hc, by rwa [List.append_nil] at hr⟩
  case finish => exact h.left

theorem Sound.steps (h : m.Sound c rules) (st : Steps c vs m m') : m'.Sound c rules := by
  induction st
  case refl => exact h
  case tail st ih => exact ih.step st

end Sound

-- What is true while validators of the rule `a` are under way: they belong to a rule that has become
-- the current one, and what they find is taken as coming from it.
structure Executing (c : Context) (rules : List Rule) (a : ActiveRule) (v : Visit)
    (p : Pool a.State) : Prop where
  current : p.running.trace.current = some a.id
  rule    : ∃ r ∈ rules, r.Ready c a
  calls   : ∀ (i : Nat) (rest : Action a.State Unit), p.calls[i]? = some (.active rest) →
    ∃ (w : Validator a.State) (findings : List Finding),
      a.validators[i]? = some w ∧ w.selects v.node ∧ (w.start v).Path a.id findings rest
  taken   : ∀ (i : Nat) (f : Finding) (next : _ → Action a.State Unit),
    p.calls[i]? = some (.active (.reporting f next)) →
    (p.step i).1.calls[i]? = some (.active (next (.ok ()))) ∧
      (p.step i).1.running = p.running.record (f.report a.id)

-- What is true in a setup of which `rest` is left: what it finds is refused, and it goes on with
-- this answer as if it had found nothing.
structure SettingUp (rest : Action Unit α) (running : Running Unit) : Prop where
  current : running.trace.current = none
  reports : running.trace.reports = []
  refused : ∀ f next, rest = .reporting f next →
    rest.advance running = some (next (.error .noActiveRule), running)

-- A rule is the current one exactly while its validators are under way.
def Attributed (c : Context) (rules : List Rule) : Moment → Prop
  | creating _ _ rest running _ => SettingUp rest running
  | dispatching _ a v p _ _ => Executing c rules a v p
  | preparing _ _ t | between _ _ _ t | ended _ t => t.current = none

section Attributed

variable {c : Context} {rules : List Rule} {a : ActiveRule} {m : Moment}

theorem SettingUp.of_fresh {rest : Action Unit α} (h : running.trace.Fresh) :
    SettingUp rest running where
  current := h.current
  reports := h.reports
  refused := by
    intro f next he
    simp [he, Action.advance, Trace.stamp, h.current]

theorem Executing.of_account {p : Pool a.State} (acc : p.Account a.id (a.calls v) t)
    (hr : ∃ r ∈ rules, r.Ready c a) : Executing c rules a v p where
  current := acc.current
  rule := hr
  calls := by
    intro i rest hi
    obtain ⟨h, he⟩ := List.getElem?_eq_some_iff.mp hi
    have hw : i < a.validators.length := by simpa [acc.length, ActiveRule.calls] using h
    have hl := acc.lived i (acc.length ▸ h) h
    simp only [he, ActiveRule.calls, List.getElem_map] at hl
    split at hl
    case isFalse => cases hl
    case isTrue hs =>
      obtain ⟨findings, hp⟩ := hl.path
      exact ⟨_, findings, List.getElem?_eq_getElem hw, hs, hp⟩
  taken := by
    intro i f next hi
    obtain ⟨h, _⟩ := List.getElem?_eq_some_iff.mp hi
    rw [Pool.step_reporting acc.current hi]
    exact ⟨List.getElem?_set_self h, rfl⟩

theorem Sound.attributed (h : m.Sound c rules) : m.Attributed c rules := by
  cases m
  case preparing => exact h.left.current
  case creating => exact .of_fresh h.left
  case between => exact h.left
  case dispatching =>
    have ⟨⟨_, acc⟩, hr⟩ := h
    exact .of_account acc (hr _ (by simp))
  case ended => exact h

end Attributed
end Moment

namespace Engine

-- The first moment of a run.
def start (e : Engine) : Moment :=
  match firstRepeated? (e.active.map (·.id)) with
  | some id => .ended (.error (.duplicateRule id)) {}
  | none => .preparing [] e.active {}

-- The moments that a run on a document can come to.
def Reaches (e : Engine) (root : Node) (path : Option String) : Moment → Prop :=
  Moment.Steps (contextOf root path) (Visit.mk 0 root).walk e.start

theorem start_sound (e : Engine) (c : Context) : e.start.Sound c e.active := by
  unfold start
  split
  case h_1 => rfl
  case h_2 => exact ⟨Trace.fresh_empty, by simp [Moment.AllReady], List.Subset.refl _⟩

-- Whatever the scheduler, a run takes nothing but steps.
theorem reaches_validateTree (e : Engine) (root : Node) (path : Option String) (s : Scheduler) :
    e.Reaches root path
      (.ended (e.validateTree root path s).result (e.validateTree root path s).trace) := by
  unfold Reaches start validateTree
  cases firstRepeated? (e.active.map (·.id))
  case some => exact .refl
  case none =>
    have hs : Moment.Steps (contextOf root path) (Visit.mk 0 root).walk
      (.preparing [] e.active {}) _ := Moment.createAll_steps e.active [] {} []
    dsimp only
    rw [contextOf] at hs ⊢
    generalize createAll _ e.active {} [] = x at hs ⊢
    obtain ⟨active, t, created⟩ := x
    cases active
    case error => exact hs
    case ok active =>
      have hv := hs.trans (Moment.visitAll_steps (Visit.mk 0 root).walk active ⟨t, s.start⟩)
      dsimp only
      generalize visitAll _ active _ = y at hv ⊢
      obtain ⟨st, error⟩ := y
      cases error
      all_goals exact hv

-- In every run, whatever the scheduler does and however the run ends, a rule is the current one
-- exactly while its validators are under way.
theorem validateTree_attributed (e : Engine) (root : Node) (path : Option String) :
    (∀ s, let o := e.validateTree root path s
      e.Reaches root path (.ended o.result o.trace)) ∧
    ∀ m, e.Reaches root path m → m.Attributed (contextOf root path) e.active :=
  ⟨e.reaches_validateTree root path, fun _ st => ((e.start_sound _).steps st).attributed⟩

-- The setup of the rule goes on after what it found was refused. Of its validators one panics before
-- the other is heard.
theorem validateTree_attributed_of_stubborn :
    let root := Node.leaf .text (some ⟨⟨1, 1, some 0⟩, ⟨1, 5, some 4⟩⟩) (.literal "text")
    let stubborn : Rule := {
      id := "stubborn"
      State := Unit
      create := fun _ => .reporting ⟨root, "early"⟩ fun _ => .done {
        state := ()
        validators := [⟨"*", fun _ => .panic⟩, ⟨"text", fun v => .report v.node "late"⟩] } }
    let e : Engine := ⟨[stubborn], {}⟩
    let o := e.validateTree root none .rounds
    o.result = .error (.panicked "stubborn") ∧
      o.trace.reports.map (fun r => (r.ruleId, r.text)) = [("stubborn", "late")] ∧
      e.Reaches root none (.ended o.result o.trace) ∧ o.trace.current = none := by
  intro root stubborn e o
  have ha : e.active = [stubborn] := rfl
  have ⟨ends, attributed⟩ := validateTree_attributed e root none
  refine ⟨?result, ?reports, ends .rounds, attributed _ (ends .rounds)⟩
  all_goals
    subst o
    rw [validateTree, ha]
    subst e stubborn root
    cbv

end Engine
end ProposalLint

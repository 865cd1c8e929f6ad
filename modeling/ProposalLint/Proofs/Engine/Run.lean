import Mathlib.Data.List.Forall2
import ProposalLint.Engine.Run
import ProposalLint.Proofs.Engine.Pool

namespace ProposalLint

-- What can be seen of a validator while its rule has its turn on a node: if it selects the node it
-- is called once and comes to its end, and otherwise it is not called.
inductive Validator.Life (rule : String) (v : Visit) (w : Validator σ) : List CallEvent → Prop
  | called : (w.selects v.node) → ((w.start v).Completes rule findings fault) →
      Life rule v w (.called :: findings.map .reported ++ [.ended fault])
  | passed : (¬w.selects v.node) → Life rule v w []

namespace Dispatch

def Complete (ws : List (Validator σ)) (d : Dispatch) : Prop :=
  ∃ lives, List.Forall₂ (Validator.Life d.rule d.visit) ws lives ∧
    Interleaving (lives.mapIdx fun i life => life.map (Turn.mk i)) d.turns

-- The failure of a run that a fault in a dispatch leads to.
def error (d : Dispatch) : Fault → EngineError
  | .error cause => .validator d.rule d.visit.node.kind.name cause
  | .panic => .panicked d.rule

end Dispatch

namespace ActiveRule

variable {r : ActiveRule} {v : Visit} {t : Trace}

theorem pool_account : (r.pool v t).Account r.id (r.calls v) t where
  current := rfl
  dispatches := rfl
  reports := by simp [pool, Trace.enter]
  fault := rfl
  places := by simp [pool]
  length := rfl
  lived := by
    intro i h _
    simp only [pool, calls, List.getElem_map, Turn.eventsOf_nil]
    split
    case isTrue => exact .waiting
    case isFalse => exact .idle

theorem life_of_lived {w : Validator σ}
    (l : Call.Lived rule (if w.selects v.node then .waiting (w.start v) else .closed) .closed
      events) :
    w.Life rule v events := by
  split at l <;> cases l
  case isTrue.closed hs _ _ hc => exact .called hs hc
  case isFalse.idle hs => exact .passed hs

-- Once all calls are over, each of them has been seen from its beginning to its end.
theorem complete_of_closed {p : Pool r.State} (a : p.Account r.id (r.calls v) t)
    (ho : ∀ c ∈ p.calls, c = .closed) : (Dispatch.mk v r.id p.turns).Complete r.validators := by
  refine ⟨(List.range (r.calls v).length).map (Turn.eventsOf p.turns), ?lives, ?turns⟩
  case lives =>
    apply List.forall₂_iff_get.mpr ⟨by simp [calls], ?_⟩
    intro i h h'
    have hl := a.lived i (by simpa [calls] using h) (by simpa [a.length, calls] using h)
    rw [ho _ (List.getElem_mem _)] at hl
    simp only [calls, List.getElem_map] at hl
    simpa using life_of_lived hl
  case turns =>
    convert Turn.interleaving_eventsOf a.places using 1
    apply List.ext_getElem <;> simp

end ActiveRule

-- `Extends ds t t'` says that `t'` is what the dispatches `ds` make of the record `t`.
structure Extends (ds : List Dispatch) (t t' : Trace) : Prop where
  current    : t'.current = none
  dispatches : t'.dispatches = t.dispatches ++ ds
  reports    : t'.reports = t.reports ++ ds.flatMap (·.reports)

namespace Extends

theorem refl (h : t.current = none) : Extends [] t t where
  current := h
  dispatches := by simp
  reports := by simp

theorem trans (e₁ : Extends ds₁ t₁ t₂) (e₂ : Extends ds₂ t₂ t₃) : Extends (ds₁ ++ ds₂) t₁ t₃ where
  current := e₂.current
  dispatches := by simp [e₂.dispatches, e₁.dispatches]
  reports := by simp [e₂.reports, e₁.reports]

end Extends

namespace ActiveRule

variable {a : ActiveRule} {v : Visit} {s : Scheduler} {st : RunState s}

theorem error_eq : a.error v = Dispatch.error ⟨v, a.id, turns⟩ := by
  funext fault
  cases fault <;> rfl

-- A dispatch changes the state of its rule, adds itself to the record, and fails with the fault of
-- the call that was the first to end in one.
theorem dispatch_spec (hc : st.trace.current = none) :
    ∃ state st' turns, let d : Dispatch := ⟨v, a.id, turns⟩
      a.dispatch v st = ({ a with state := state }, st', d.fault?.map d.error) ∧
      d.Complete a.validators ∧ Extends [d] st.trace st'.trace := by
  simp only [dispatch]
  split
  case isTrue ho =>
    -- No validator selects the node, so that the rule does not even become the current one.
    have hd := complete_of_closed pool_account (Pool.closed_of_openCalls_isEmpty ho)
    exact ⟨_, _, [], rfl, hd, hc, rfl, by simp [Dispatch.reports, Dispatch.findings, Trace.record]⟩
  case isFalse =>
    let q := (a.pool v st.trace).settle s (s.enter st.schedule (a.pool v st.trace).openCalls)
    have acc : q.2.Account a.id (a.calls v) st.trace := pool_account.steps (Pool.settle_steps rfl)
    have hd := complete_of_closed acc Pool.settle_closed
    refine ⟨q.2.running.state, ⟨q.2.running.trace.leave.record ⟨v, a.id, q.2.turns⟩, q.1⟩,
      q.2.turns, ?fault, hd, rfl, ?dispatches, ?reports⟩
    case fault =>
      rw [Dispatch.fault?, ← acc.fault, ← error_eq]
    case dispatches => exact congrArg (· ++ [_]) acc.dispatches
    case reports =>
      simpa [Dispatch.reports, Dispatch.findings, Trace.record, Trace.leave] using acc.reports

end ActiveRule

-- `Ready c r a` says that `a` is the rule `r` as it is set up for the document of `c`, with any
-- state.
def Rule.Ready (c : Context) (r : Rule) (a : ActiveRule) : Prop :=
  ∃ setup state, r.setup c = .ok setup ∧ a = ⟨r.id, r.State, state, setup.validators⟩

-- A dispatch of a rule on a node.
structure Dispatch.Of (c : Context) (v : Visit) (r : Rule) (d : Dispatch) : Prop where
  visit    : d.visit = v
  rule     : d.rule = r.id
  complete : ∃ setup, r.setup c = .ok setup ∧ d.Complete setup.validators

theorem Rule.Ready.dispatch {s : Scheduler} {st : RunState s} (hr : Rule.Ready c r a)
    (hc : st.trace.current = none) :
    ∃ a' st' d, a.dispatch v st = (a', st', d.fault?.map d.error) ∧ Rule.Ready c r a' ∧
      Dispatch.Of c v r d ∧ Extends [d] st.trace st'.trace := by
  have ⟨setup, state, hs, ha⟩ := hr
  have ⟨state', st', turns, he, hd, hx⟩ := a.dispatch_spec (v := v) hc
  subst ha
  exact ⟨_, st', ⟨v, r.id, turns⟩, he, ⟨setup, state', hs, rfl⟩, ⟨rfl, rfl, setup, hs, hd⟩, hx⟩

-- `Follows c plan ds e` says that a run which is to let each rule of `plan` have its turn on its
-- node made the dispatches `ds` and failed with `e`: the turns come in their order, up to the first
-- in which a call ended in a fault.
inductive Follows (c : Context) :
    List (Visit × Rule) → List Dispatch → Option EngineError → Prop
  | done : Follows c [] [] none
  | passed : (Dispatch.Of c v r d) → (d.fault? = none) → (Follows c plan ds e) →
      Follows c ((v, r) :: plan) (d :: ds) e
  | failed : (Dispatch.Of c v r d) → (d.fault? = some fault) →
      Follows c ((v, r) :: plan) [d] (some (d.error fault))

namespace Follows

theorem append (f₁ : Follows c plan₁ ds₁ none) (f₂ : Follows c plan₂ ds₂ e) :
    Follows c (plan₁ ++ plan₂) (ds₁ ++ ds₂) e := by
  generalize he : none = e₁ at f₁
  induction f₁
  case done => exact f₂
  case passed ho hn _ ih => exact .passed ho hn (ih he)
  case failed => simp at he

theorem append_failed (f : Follows c plan₁ ds (some e)) :
    Follows c (plan₁ ++ plan₂) ds (some e) := by
  generalize he : some e = e₁ at f
  induction f
  case done => simp at he
  case passed ho hn _ ih => exact .passed ho hn (ih he)
  case failed ho hf => exact .failed ho hf

theorem of_mem (f : Follows c plan ds e) (hd : d ∈ ds) :
    ∃ v r, (v, r) ∈ plan ∧ Dispatch.Of c v r d := by
  induction f
  case done => simp at hd
  case passed v r _ _ _ _ ho _ _ ih =>
    cases hd
    case head => exact ⟨v, r, List.mem_cons_self, ho⟩
    case tail hd =>
      have ⟨v', r', hm, ho'⟩ := ih hd
      exact ⟨v', r', List.mem_cons_of_mem _ hm, ho'⟩
  case failed v r _ _ _ ho _ =>
    cases List.mem_singleton.mp hd
    exact ⟨v, r, List.mem_cons_self, ho⟩

-- A run that does not fail gives every turn.
theorem turns_of_none (f : Follows c plan ds none) :
    List.Forall₂ (fun turn d => Dispatch.Of c turn.1 turn.2 d) plan ds ∧
      ∀ d ∈ ds, d.fault? = none := by
  generalize he : none = e at f
  induction f
  case done => exact ⟨.nil, by simp⟩
  case passed ho hn _ ih =>
    have ⟨hs, hds⟩ := ih he
    exact ⟨.cons ho hs, List.forall_mem_cons.mpr ⟨hn, hds⟩⟩
  case failed => simp at he

-- A run that fails does so in the last turn that it gives.
theorem turns_of_some (f : Follows c plan ds (some e)) :
    ∃ before v r after earlier d fault, plan = before ++ (v, r) :: after ∧ ds = earlier ++ [d] ∧
      Follows c before earlier none ∧ Dispatch.Of c v r d ∧ d.fault? = some fault ∧
      e = d.error fault := by
  generalize he : some e = e' at f
  induction f
  case done => simp at he
  case passed v r d plan ds e' ho hn _ ih =>
    have ⟨before, v', r', after, earlier, d', fault, hp, hd, hf, hl⟩ := ih he
    exact ⟨(v, r) :: before, v', r', after, d :: earlier, d', fault, by simp [hp], by simp [hd],
      .passed ho hn hf, hl⟩
  case failed v r d fault plan ho hf =>
    injection he with he
    exact ⟨[], v, r, plan, [], d, fault, rfl, rfl, .done, ho, hf, he⟩

end Follows

section Visit

variable {s : Scheduler} {c : Context} {rules : List Rule} {active : List ActiveRule}

-- The turns that rules have on nodes, in the order in which a run gives them.
def planOf (vs : List Visit) (rules : List Rule) : List (Visit × Rule) :=
  vs.flatMap fun v => rules.map (v, ·)

theorem dispatchAll_follows {st : RunState s} (hc : st.trace.current = none)
    (hr : List.Forall₂ (Rule.Ready c) rules active) :
    ∃ active' st' ds e, dispatchAll v active st = (active', st', e) ∧
      List.Forall₂ (Rule.Ready c) rules active' ∧ Follows c (rules.map (v, ·)) ds e ∧
      Extends ds st.trace st'.trace := by
  induction hr generalizing st
  case nil => exact ⟨_, _, _, _, rfl, .nil, .done, .refl hc⟩
  case cons r a rules active hr hrs ih =>
    have ⟨a', st₁, d, hd, hr', ho, hx⟩ := hr.dispatch (v := v) hc
    simp only [dispatchAll, hd]
    cases hf : d.fault?
    -- The rules behind `r` are left as they are.
    case some fault => exact ⟨_, _, _, _, rfl, .cons hr' hrs, .failed ho hf, hx⟩
    case none =>
      have ⟨_, _, ds, e, he, hrs', hfl, hx'⟩ := ih hx.current
      simp only [Option.map_none, he]
      exact ⟨_, _, _, _, rfl, .cons hr' hrs', .passed ho hf hfl, hx.trans hx'⟩

theorem visitAll_follows (vs : List Visit) (st : RunState s) (hc : st.trace.current = none)
    (hr : List.Forall₂ (Rule.Ready c) rules active) :
    ∃ st' ds e, visitAll vs active st = (st', e) ∧ Follows c (planOf vs rules) ds e ∧
      Extends ds st.trace st'.trace := by
  induction vs generalizing st active
  case nil => exact ⟨_, _, _, rfl, .done, .refl hc⟩
  case cons v vs ih =>
    have ⟨active', st₁, ds, e, hd, hr', hf, hx⟩ := dispatchAll_follows (v := v) hc hr
    simp only [visitAll, hd]
    cases e
    case some e => exact ⟨_, _, _, rfl, hf.append_failed, hx⟩
    case none =>
      have ⟨st', ds', e, he, hf', hx'⟩ := ih st₁ hx.current hr'
      exact ⟨st', ds ++ ds', e, he, hf.append hf', hx.trans hx'⟩

end Visit

-- A record of nothing but log lines, requests and launches, as setups can leave it.
structure Trace.Fresh (t : Trace) : Prop where
  current    : t.current = none
  reports    : t.reports = []
  dispatches : t.dispatches = []

theorem Trace.fresh_empty : Trace.Fresh {} :=
  ⟨rfl, rfl, rfl⟩

namespace Rule

-- The failure of a run that a fault in the setup of a rule leads to.
def error (r : Rule) : Fault → EngineError
  | .error cause => .create r.id cause
  | .panic => .aborted r.id

-- A rule sets up the same things, no matter which rules were set up before it.
theorem create_run (r : Rule) (h : t.Fresh) : ((r.create c).run ⟨t, ()⟩).1 = r.setup c :=
  Action.run_agnostic h.current rfl (by simp [h.reports])

theorem create_fresh (r : Rule) (h : t.Fresh) : ((r.create c).run ⟨t, ()⟩).2.trace.Fresh := by
  have ⟨hc, hr, hd⟩ := Action.run_preserves (a := r.create c) (r := ⟨t, ()⟩) h.current
  exact ⟨hc, hr.trans h.reports, hd.trans h.dispatches⟩

end Rule

section Create

variable {c : Context} {t : Trace} (rules : List Rule) (created : List String)

theorem createAll_cons_of_ok (h : t.Fresh) (hs : r.setup c = .ok setup) :
    ∃ t', t'.Fresh ∧ createAll c (r :: rules) t created =
      match createAll c rules t' (created ++ [r.id]) with
      | (.ok active, t, created) => (.ok (ActiveRule.ofSetup r.id setup :: active), t, created)
      | failed => failed := by
  have hr := hs ▸ r.create_run (c := c) h
  refine ⟨_, r.create_fresh (c := c) h, ?_⟩
  rw [createAll]
  generalize (r.create c).run ⟨t, ()⟩ = x at hr ⊢
  have ⟨_, running⟩ := x
  cases hr
  rfl

theorem createAll_ok (h : t.Fresh) (hs : ∀ r ∈ rules, ∃ setup, r.setup c = .ok setup) :
    ∃ active t', createAll c rules t created = (.ok active, t', created ++ rules.map (·.id)) ∧
      List.Forall₂ (Rule.Ready c) rules active ∧ t'.Fresh := by
  induction rules generalizing t created
  case nil => exact ⟨[], t, by simp [createAll], .nil, h⟩
  case cons r rules ih =>
    have ⟨setup, hr⟩ := hs r List.mem_cons_self
    have ⟨t₁, h₁, he⟩ := createAll_cons_of_ok rules created h hr
    have ⟨active, t', he', ha, h'⟩ :=
      ih (created ++ [r.id]) h₁ fun r' hm => hs r' (List.mem_cons_of_mem _ hm)
    refine ⟨.ofSetup r.id setup :: active, t', ?_, .cons ⟨setup, setup.state, hr, rfl⟩ ha, h'⟩
    simp [he, he']

theorem createAll_error (after : List Rule) (h : t.Fresh)
    (hs : ∀ r ∈ before, ∃ setup, r.setup c = .ok setup) (hf : r.setup c = .error fault) :
    ∃ t', createAll c (before ++ r :: after) t created =
      (.error (r.error fault), t', created ++ before.map (·.id) ++ [r.id]) ∧ t'.Fresh := by
  induction before generalizing t created
  case nil =>
    have hr := hf ▸ r.create_run (c := c) h
    refine ⟨_, ?_, r.create_fresh (c := c) h⟩
    rw [List.nil_append, createAll]
    generalize (r.create c).run ⟨t, ()⟩ = x at hr ⊢
    have ⟨_, running⟩ := x
    cases hr
    cases fault <;> simp [Rule.error]
  case cons r' before ih =>
    have ⟨setup, hr⟩ := hs r' List.mem_cons_self
    have ⟨t₁, h₁, he⟩ := createAll_cons_of_ok (before ++ r :: after) created h hr
    have ⟨t', he', h'⟩ :=
      ih (created ++ [r'.id]) h₁ fun r' hm => hs r' (List.mem_cons_of_mem _ hm)
    exact ⟨t', by simp [he, he'], h'⟩

end Create

theorem firstRepeated?_seen_eq_none_iff {xs seen : List String} :
    firstRepeated? xs seen = none ↔ xs.Nodup ∧ ∀ x ∈ xs, x ∉ seen := by
  induction xs generalizing seen
  case nil => simp [firstRepeated?]
  case cons x xs ih =>
    simp only [firstRepeated?]
    split
    case isTrue h => simp_all
    case isFalse h =>
      rw [ih]
      grind

theorem firstRepeated?_eq_none_iff {xs : List String} : firstRepeated? xs = none ↔ xs.Nodup := by
  simp [firstRepeated?_seen_eq_none_iff]

end ProposalLint

import Mathlib.Logic.Relation
import ProposalLint.Engine.Pool
import ProposalLint.Proofs.Engine.Action
import ProposalLint.Proofs.Engine.Interleaving

namespace ProposalLint

variable {σ : Type} {rule : String}

namespace Call

-- `Lived rule c₀ c events` says that a call which began as `c₀` has come to be `c`, and that
-- `events` is what could be seen of it on the way.
inductive Lived (rule : String) : Call σ → Call σ → List CallEvent → Prop
  | idle : Lived rule closed closed []
  | waiting : Lived rule (waiting start) (waiting start) []
  | active : (Action.Path rule start findings rest) →
      Lived rule (waiting start) (active rest) (.called :: findings.map .reported)
  | closed : (Action.Completes rule start findings fault) →
      Lived rule (waiting start) closed (.called :: findings.map .reported ++ [.ended fault])

namespace Lived

variable {c₀ : Call σ} {events : List CallEvent}

theorem call (l : Lived rule c₀ (.waiting start) events) :
    Lived rule c₀ (.active start) (events ++ [.called]) := by
  cases l
  exact .active .refl

theorem work (l : Lived rule c₀ (.active a) events) (op : Action.Op rule a finding rest) :
    Lived rule c₀ (.active rest) (events ++ finding.toList.map .reported) := by
  cases l
  case active p =>
    have := Lived.active (p.snoc op)
    rwa [List.map_append, ← List.cons_append] at this

theorem finish (l : Lived rule c₀ (.active a) events) (e : Action.Ended a fault) :
    Lived rule c₀ .closed (events ++ [.ended fault]) := by
  cases l
  case active p => exact .closed ⟨_, p, e⟩

end Lived
end Call

namespace Pool

-- A step of any call that has something to do. Which call that is, is left open.
inductive Step (rule : String) (p : Pool σ) : Pool σ → Prop
  | called : (p.calls[i]? = some (.waiting start)) →
      Step rule p ⟨p.calls.set i (.active start), p.running, p.turns ++ [⟨i, .called⟩], p.fault⟩
  | worked : (p.calls[i]? = some (.active a)) → (Action.Op rule a finding rest) →
      (Action.Grows rule finding p.running r) →
      Step rule p ⟨p.calls.set i (.active rest), r,
        p.turns ++ finding.toList.map (⟨i, .reported ·⟩), p.fault⟩
  | ended : (p.calls[i]? = some (.active a)) → (Action.Ended a f) →
      Step rule p ⟨p.calls.set i .closed, p.running, p.turns ++ [⟨i, .ended f⟩], p.fault.or f⟩

variable {p q : Pool σ}

theorem step_of_isOpen (hc : p.running.trace.current = some rule) (h : p.calls[i]? = some c)
    (ho : c.isOpen) : Step rule p (p.step i).1 := by
  unfold step
  cases c
  case closed => simp [Call.isOpen] at ho
  case waiting start =>
    simp only [h]
    exact .called h
  case active a =>
    simp only [h]
    split
    case h_1 hp =>
      obtain ⟨op, g⟩ := Action.op_of_working hc hp
      simpa using Step.worked h op g
    case h_2 hp =>
      obtain ⟨op, g⟩ := Action.op_of_working hc hp
      exact .worked h op g
    case h_3 hp =>
      obtain ⟨op, hr⟩ : Action.Op rule a none _ ∧ _ := Action.op_of_yielded hp
      simpa [hr] using Step.worked h op .refl
    case h_4 hp =>
      obtain ⟨e, hr⟩ := Action.ended_of_ended hp
      exact hr ▸ .ended h e

theorem Step.preserves_current (s : Step rule p q) :
    q.running.trace.current = p.running.trace.current := by
  cases s
  case worked g => exact g.current
  all_goals rfl

section Settle

variable {s : Scheduler} {state : s.State}

theorem settle_eq_self (h : p.choose (s.pick state) = none) : p.settle s state = (state, p) := by
  rw [settle]
  split <;> simp_all

theorem settle_eq_step (h : p.choose (s.pick state) = some i) :
    p.settle s state = (p.step i).1.settle s (s.turn state (p.step i).2) := by
  rw [settle]
  split <;> simp_all

-- However the calls are scheduled, the pool only takes steps ...
theorem settle_steps (hc : p.running.trace.current = some rule) :
    Relation.ReflTransGen (Step rule) p (p.settle s state).2 := by
  induction state, p using settle.induct s
  case case1 h => rw [settle_eq_self h]
  case case2 h _ ih =>
    rw [settle_eq_step h]
    have ⟨_, hi, ho⟩ := isOpen_of_choose h
    have st := step_of_isOpen hc hi ho
    exact .head st (ih (st.preserves_current.trans hc))

theorem not_isOpen_of_choose_eq_none (h : p.choose i = none) : ∀ c ∈ p.calls, ¬c.isOpen := by
  unfold choose at h
  split at h
  case isTrue => simp at h
  case isFalse => simpa using List.findIdx?_eq_none_iff.mp h

-- ... until all calls are over.
theorem settle_closed : ∀ c ∈ (p.settle s state).2.calls, c = .closed := by
  induction state, p using settle.induct s
  case case1 h =>
    rw [settle_eq_self h]
    intro c hm
    cases c
    case closed => rfl
    all_goals exact absurd rfl (not_isOpen_of_choose_eq_none h _ hm)
  case case2 h _ ih => rwa [settle_eq_step h]

end Settle

theorem closed_of_openCalls_isEmpty (h : p.openCalls.isEmpty) : ∀ c ∈ p.calls, c = .closed := by
  intro c hm
  have ⟨i, hi, he⟩ := List.getElem_of_mem hm
  have hn := List.filter_eq_nil_iff.mp (List.isEmpty_iff.mp h) i (List.mem_range.mpr hi)
  cases c
  case closed => rfl
  all_goals simp [hi, he, Call.isOpen] at hn

-- What is true of a pool that has come from the calls `cs` and the record `t`, no matter which
-- calls had their steps when.
structure Account (rule : String) (cs : List (Call σ)) (t : Trace) (p : Pool σ) : Prop where
  current    : p.running.trace.current = some rule
  dispatches : p.running.trace.dispatches = t.dispatches
  reports    : p.running.trace.reports =
    t.reports ++ (p.turns.filterMap (·.event.finding?)).map (·.report rule)
  fault      : p.fault = p.turns.findSome? (·.event.fault?)
  places     : ∀ u ∈ p.turns, u.validator < cs.length
  length     : p.calls.length = cs.length
  lived      : ∀ i (h : i < cs.length) (h' : i < p.calls.length),
    Call.Lived rule cs[i] p.calls[i] (Turn.eventsOf p.turns i)

namespace Account

variable {cs : List (Call σ)} {t : Trace}

-- The part that all kinds of steps have in common: one call goes from `c` to `d`, and `events` are
-- what can be seen of that.
theorem advance {running : Running σ} (a : Account rule cs t p) (events : List CallEvent)
    (hi : p.calls[i]? = some c)
    (hl : ∀ {c₀ before}, Call.Lived rule c₀ c before → Call.Lived rule c₀ d (before ++ events))
    (hc : running.trace.current = p.running.trace.current)
    (hd : running.trace.dispatches = p.running.trace.dispatches)
    (hr : running.trace.reports =
      p.running.trace.reports ++ (events.filterMap CallEvent.finding?).map (·.report rule)) :
    Account rule cs t ⟨p.calls.set i d, running, p.turns ++ events.map (Turn.mk i),
      p.fault.or (events.findSome? CallEvent.fault?)⟩ where
  current := hc.trans a.current
  dispatches := hd.trans a.dispatches
  reports := by
    rw [hr, a.reports, List.filterMap_append, List.map_append, List.append_assoc,
      List.filterMap_map]
    rfl
  fault := by
    rw [a.fault, List.findSome?_append, List.findSome?_map]
    rfl
  places := by
    have ⟨hi', _⟩ := List.getElem?_eq_some_iff.mp hi
    intro u hu
    cases List.mem_append.mp hu
    case inl hu => exact a.places u hu
    case inr hu =>
      have ⟨_, _, he⟩ := List.mem_map.mp hu
      exact he ▸ a.length ▸ hi'
  length := by simp [a.length]
  lived := by
    intro j h h'
    rw [Turn.eventsOf_append]
    by_cases hj : i = j
    case pos =>
      subst hj
      have ⟨hi', he⟩ := List.getElem?_eq_some_iff.mp hi
      rw [Turn.eventsOf_map_self, List.getElem_set_self]
      exact hl (he ▸ a.lived i h hi')
    case neg =>
      rw [Turn.eventsOf_map_ne hj, List.append_nil, List.getElem_set_ne hj]
      exact a.lived j h _

theorem step (a : Account rule cs t p) (s : Step rule p q) : Account rule cs t q := by
  cases s
  case called hi =>
    have := a.advance [.called] hi (·.call) rfl rfl (by simp [CallEvent.finding?])
    simpa [CallEvent.fault?] using this
  case worked finding _ _ hi op g =>
    have hr := g.reports
    have := a.advance (finding.toList.map .reported) hi (·.work op) g.current g.dispatches
      (by cases finding <;> simpa [CallEvent.finding?] using hr)
    cases finding <;> simpa [CallEvent.fault?] using this
  case ended f hi e =>
    have := a.advance [.ended f] hi (·.finish e) rfl rfl (by simp [CallEvent.finding?])
    cases f <;> simpa [CallEvent.fault?] using this

theorem steps (a : Account rule cs t p) (s : Relation.ReflTransGen (Step rule) p q) :
    Account rule cs t q := by
  induction s
  case refl => exact a
  case tail s ih => exact ih.step s

end Account
end Pool
end ProposalLint

import ProposalLint.Proofs.Engine.Alone
import ProposalLint.Proofs.Engine.Outcome

namespace ProposalLint

-- What one rule adds to a run in its turn on one node.
structure Contribution where
  visit  : Visit
  rule   : String
  fault  : Option Fault := none
  effect : Effect := {}

namespace Contribution

def reports (c : Contribution) : List Report :=
  c.effect.findings.map (·.report c.rule)

def messages (c : Contribution) : List Message :=
  c.reports.filterMap (·.message?)

-- The contribution as far as the result of the run goes.
def bare (c : Contribution) : Contribution :=
  { c with effect := { findings := c.effect.findings } }

-- The failure of the run that it leads to.
def error? (c : Contribution) : Option EngineError :=
  c.fault.map (Dispatch.error ⟨c.visit, c.rule, []⟩)

-- What is left of it in the record of the run.
structure Recorded (c : Contribution) (d : Dispatch) : Prop where
  visit    : d.visit = c.visit
  rule     : d.rule = c.rule
  findings : d.findings = c.effect.findings
  fault    : d.fault? = c.fault

def firstError? (cs : List Contribution) : Option EngineError :=
  cs.findSome? error?

-- The contributions up to the first that makes the run fail.
def upToFault : List Contribution → List Contribution
  | [] => []
  | c :: cs => if c.fault.isSome then [c] else c :: upToFault cs

theorem firstError?_append (cs ds : List Contribution) :
    firstError? (cs ++ ds) = (firstError? cs).or (firstError? ds) :=
  List.findSome?_append

theorem firstError?_eq_none_iff {cs : List Contribution} :
    firstError? cs = none ↔ ∀ c ∈ cs, c.fault = none := by
  simp [firstError?, error?]

theorem upToFault_singleton (c : Contribution) : upToFault [c] = [c] := by
  simp [upToFault]

theorem upToFault_append_of_none (h : firstError? cs = none) (ds : List Contribution) :
    upToFault (cs ++ ds) = cs ++ upToFault ds := by
  rw [firstError?_eq_none_iff] at h
  induction cs
  case nil => rfl
  case cons c cs ih =>
    have ⟨hc, hcs⟩ := List.forall_mem_cons.mp h
    simp [upToFault, hc, ih hcs]

theorem upToFault_of_none (h : firstError? cs = none) : upToFault cs = cs := by
  simpa [upToFault] using upToFault_append_of_none h []

theorem upToFault_append_of_some (h : firstError? cs = some e) (ds : List Contribution) :
    upToFault (cs ++ ds) = upToFault cs := by
  induction cs
  case nil => simp [firstError?] at h
  case cons c cs ih =>
    cases hf : c.fault
    case some => simp [upToFault, hf]
    case none =>
      have h : firstError? cs = some e := by simpa [firstError?, error?, hf] using h
      simp [upToFault, hf, ih h]

theorem upToFault_prefix (cs : List Contribution) : upToFault cs <+: cs := by
  induction cs
  case nil => exact List.prefix_rfl
  case cons c cs ih =>
    unfold upToFault
    split
    case isTrue => simp
    case isFalse => simpa using ih

end Contribution

open Contribution

-- `Adds cs t t'` says that `t'` is what the contributions `cs` make of the record `t`.
structure Adds (cs : List Contribution) (t t' : Trace) : Prop where
  current    : t'.current = none
  dispatches : ∃ ds, List.Forall₂ Recorded cs ds ∧ t'.dispatches = t.dispatches ++ ds
  reports    : t'.reports = t.reports ++ cs.flatMap (·.reports)
  notes      : t'.notes = t.notes ++ cs.flatMap (·.effect.notes)
  requests   : t'.requests = t.requests ++ cs.flatMap (·.effect.requests)
  launches   : t'.launches = t.launches ++ cs.flatMap (·.effect.launches)

namespace Adds

theorem refl (h : t.current = none) : Adds [] t t where
  current := h
  dispatches := ⟨[], .nil, by simp⟩
  reports := by simp
  notes := by simp
  requests := by simp
  launches := by simp

theorem trans (h₁ : Adds cs₁ t₁ t₂) (h₂ : Adds cs₂ t₂ t₃) : Adds (cs₁ ++ cs₂) t₁ t₃ where
  current := h₂.current
  dispatches := by
    have ⟨ds₁, hr₁, hd₁⟩ := h₁.dispatches
    have ⟨ds₂, hr₂, hd₂⟩ := h₂.dispatches
    exact ⟨ds₁ ++ ds₂, List.rel_append hr₁ hr₂, by simp [hd₁, hd₂]⟩
  reports := by simp [h₂.reports, h₁.reports]
  notes := by simp [h₂.notes, h₁.notes]
  requests := by simp [h₂.requests, h₁.requests]
  launches := by simp [h₂.launches, h₁.launches]

-- The record tells of each rule where it was called and what it found there.
theorem findings_of_rule (h : Adds cs {} t) (rule : String) :
    (t.dispatches.filter (·.rule = rule)).map (fun d => (d.visit, d.findings)) =
      (cs.filter (·.rule = rule)).map fun c => (c.visit, c.effect.findings) := by
  have ⟨ds, hr, hd⟩ := h.dispatches
  rw [show t.dispatches = ds by simpa using hd]
  clear h hd
  induction hr
  case nil => rfl
  case cons c d cs ds hr _ ih =>
    simp only [List.filter_cons, hr.rule]
    split <;> simp [ih, hr.visit, hr.findings]

end Adds

namespace ActiveRule

-- What a rule with one validator does in its turn on a node when it does not matter how many
-- reports there are: the rule afterwards, and what it adds to the run.
def contribute (a : ActiveRule) (v : Visit) : ActiveRule × Contribution :=
  match a.validators with
  | [w] =>
    if w.selects v.node then
      let e := (w.start v).alone a.id 0 a.state
      ({ a with state := e.state }, ⟨v, a.id, e.fault?, e.effect⟩)
    else (a, ⟨v, a.id, none, {}⟩)
  | _ => (a, ⟨v, a.id, none, {}⟩)

-- A rule that has one validator and takes no notice of other rules.
def Lone (online : Prop) (a : ActiveRule) : Prop :=
  ∃ w, a.validators = [w] ∧ ∀ v, (w.start v).Lone online

section

variable {id : String} {σ : Type} {state : σ} {w : Validator σ} {v : Visit}

theorem contribute_of_selects (h : w.selects v.node) :
    (ActiveRule.mk id σ state [w]).contribute v =
      let e := (w.start v).alone id 0 state
      (⟨id, σ, e.state, [w]⟩, ⟨v, id, e.fault?, e.effect⟩) := by
  simp [contribute, h]

theorem contribute_of_not_selects (h : ¬w.selects v.node) :
    (ActiveRule.mk id σ state [w]).contribute v = (⟨id, σ, state, [w]⟩, ⟨v, id, none, {}⟩) := by
  simp [contribute, h]

end

variable {a : ActiveRule} {online : Prop}

@[simp]
theorem contribute_id (a : ActiveRule) (v : Visit) : (a.contribute v).1.id = a.id := by
  unfold contribute
  split
  case h_1 => split <;> rfl
  case h_2 => rfl

@[simp]
theorem contribute_rule (a : ActiveRule) (v : Visit) : (a.contribute v).2.rule = a.id := by
  unfold contribute
  split
  case h_1 => split <;> rfl
  case h_2 => rfl

theorem Lone.contribute (h : a.Lone online) (v : Visit) : (a.contribute v).1.Lone online := by
  obtain ⟨id, σ, state, _⟩ := a
  obtain ⟨w, hw, hf⟩ := h
  dsimp only at hw w hf
  subst hw
  by_cases hs : w.selects v.node
  case pos => exact contribute_of_selects hs ▸ ⟨w, rfl, hf⟩
  case neg => exact contribute_of_not_selects hs ▸ ⟨w, rfl, hf⟩

theorem Lone.contribute_requests (h : a.Lone False) (v : Visit) :
    (a.contribute v).2.effect.requests = [] := by
  obtain ⟨id, σ, state, _⟩ := a
  obtain ⟨w, hw, hf⟩ := h
  dsimp only at hw w hf
  subst hw
  by_cases hs : w.selects v.node
  case pos => exact contribute_of_selects hs ▸ (hf v).requests_eq_nil id 0 state
  case neg => exact contribute_of_not_selects hs ▸ rfl

-- What can be seen of a call that runs alone.
theorem recorded_turns (v : Visit) (id : String) (fault : Option Fault) (e : Effect) :
    Recorded ⟨v, id, fault, e⟩ ⟨v, id,
      [⟨0, .called⟩] ++ e.findings.map (⟨0, .reported ·⟩) ++ [⟨0, .ended fault⟩]⟩ where
  visit := rfl
  rule := rfl
  findings := by
    simp [Dispatch.findings, CallEvent.finding?, List.filterMap_map]
  fault := by
    have hn : (e.findings.map (Turn.mk 0 <| .reported ·)).findSome? (·.event.fault?) = none := by
      simp [CallEvent.fault?]
    simp only [Dispatch.fault?, List.findSome?_append, hn]
    cases fault <;> rfl

variable {s : Scheduler} {st : RunState s}

-- A rule of its own does in its turn what it would do alone, whatever the scheduler does and
-- whatever other rules have added to the record.
theorem Lone.dispatch (h : a.Lone online) (hc : st.trace.current = none) (v : Visit) :
    ∃ st', a.dispatch v st = ((a.contribute v).1, st', (a.contribute v).2.error?) ∧
      Adds [(a.contribute v).2] st.trace st'.trace := by
  obtain ⟨id, σ, state, _⟩ := a
  obtain ⟨w, hw, hf⟩ := h
  dsimp only at hw w hf
  subst hw
  by_cases hs : w.selects v.node
  case neg =>
    have hp : ((ActiveRule.mk id σ state [w]).pool v st.trace).openCalls.isEmpty := by
      simp [pool, calls, hs, Pool.openCalls, Call.isOpen]
    rw [contribute_of_not_selects hs, dispatch, if_pos hp]
    refine ⟨_, rfl, hc, ⟨[_], .cons ⟨rfl, rfl, rfl, rfl⟩ .nil, rfl⟩, ?_, ?_, ?_, ?_⟩
    all_goals simp [Trace.record, Contribution.reports]
  case pos =>
    let e := (w.start v).alone id 0 state
    have hp : ¬((ActiveRule.mk id σ state [w]).pool v st.trace).openCalls.isEmpty := by
      simp [pool, calls, hs, Pool.openCalls, Call.isOpen]
    have hset (sched : s.State) :
        (((ActiveRule.mk id σ state [w]).pool v st.trace).settle s sched).2 =
          ⟨[.closed], ⟨(st.trace.enter id).add id e.effect, e.state⟩,
            [⟨0, .called⟩] ++ e.effect.findings.map (⟨0, .reported ·⟩) ++ [⟨0, .ended e.fault?⟩],
            e.fault?⟩ := by
      obtain ⟨_, h⟩ := Pool.settle_called (t := st.trace.enter id) (s := state) [] none sched
        (w.start v)
      simp only [pool, calls, List.map_cons, hs, if_pos, List.map_nil]
      rw [h, Pool.settle_alone _ _ _ _ _ _ rfl, (hf v).alone_eq]
      rfl
    rw [contribute_of_selects hs, dispatch, if_neg hp]
    simp only [hset]
    refine ⟨_, rfl, rfl, ⟨[_], .cons (recorded_turns v id e.fault? e.effect) .nil, rfl⟩, ?_, ?_, ?_,
      ?_⟩
    all_goals simp [e, Trace.record, Trace.leave, Trace.enter, Trace.add, Contribution.reports]

end ActiveRule

-- What rules add on some nodes, the nodes in their order and on each node the rules in theirs.
def contributions : List Visit → List ActiveRule → List Contribution
  | [], _ => []
  | v :: vs, as =>
    as.map (fun a => (a.contribute v).2) ++ contributions vs (as.map fun a => (a.contribute v).1)

section Visit

variable {s : Scheduler} {as : List ActiveRule} {online : Prop}

theorem lone_contribute (h : ∀ a ∈ as, a.Lone online) (v : Visit) :
    ∀ a ∈ as.map (fun a => (a.contribute v).1), a.Lone online := by
  simpa using fun a ha => (h a ha).contribute v

theorem dispatchAll_contributions {st : RunState s} (h : ∀ a ∈ as, a.Lone online)
    (hc : st.trace.current = none) (v : Visit) :
    let cs := as.map fun a => (a.contribute v).2
    ∃ as' st', dispatchAll v as st = (as', st', firstError? cs) ∧
      (firstError? cs = none → as' = as.map fun a => (a.contribute v).1) ∧
      Adds (upToFault cs) st.trace st'.trace := by
  induction as generalizing st
  case nil => exact ⟨[], st, rfl, fun _ => rfl, .refl hc⟩
  case cons a as ih =>
    obtain ⟨ha, has⟩ := List.forall_mem_cons.mp h
    obtain ⟨st₁, hd, hx⟩ := ha.dispatch hc v
    simp only [dispatchAll, hd, List.map_cons, firstError?, List.findSome?_cons, upToFault]
    cases hf : (a.contribute v).2.fault
    case some fault =>
      exact ⟨(a.contribute v).1 :: as, st₁, by simp [error?, hf], by simp [error?, hf],
        by simpa using hx⟩
    case none =>
      obtain ⟨as', st', hd', hn, hx'⟩ := ih has hx.current
      simp only [error?, hf, Option.map_none, hd']
      exact ⟨_, st', rfl, fun h => by rw [hn h], by simpa using hx.trans hx'⟩

-- A run of rules of their own is what each of them does in its turns, up to the first turn that
-- makes the run fail.
theorem visitAll_contributions (vs : List Visit) (st : RunState s) (h : ∀ a ∈ as, a.Lone online)
    (hc : st.trace.current = none) :
    ∃ st', visitAll vs as st = (st', firstError? (contributions vs as)) ∧
      Adds (upToFault (contributions vs as)) st.trace st'.trace := by
  induction vs generalizing st as
  case nil => exact ⟨st, rfl, .refl hc⟩
  case cons v vs ih =>
    obtain ⟨as', st₁, hd, hn, hx⟩ := dispatchAll_contributions h hc v
    simp only [visitAll, hd, contributions, firstError?_append]
    cases he : firstError? (as.map fun a => (a.contribute v).2)
    case some e => exact ⟨st₁, rfl, upToFault_append_of_some he _ ▸ hx⟩
    case none =>
      obtain rfl := hn he
      obtain ⟨st', hv, hx'⟩ := ih st₁ (lone_contribute h v) hx.current
      refine ⟨st', hv, ?_⟩
      rw [upToFault_append_of_none he]
      exact (upToFault_of_none he ▸ hx).trans hx'

end Visit

section Projection

variable {as : List ActiveRule} {vs : List Visit}

theorem mem_contributions_iff {c : Contribution} :
    c ∈ contributions vs as ↔ ∃ a ∈ as, c ∈ contributions vs [a] := by
  induction vs generalizing as
  case nil => simp [contributions]
  case cons v vs ih =>
    have hrest := @ih (as.map fun a => (a.contribute v).1)
    simp only [contributions, List.mem_append, hrest, List.mem_map, List.map_cons, List.map_nil,
      List.mem_singleton]
    grind

-- What some of the rules add among others is what they add by themselves.
theorem filter_contributions (vs : List Visit) (as : List ActiveRule) (p : String → Bool) :
    (contributions vs as).filter (p ·.rule) = contributions vs (as.filter (p ·.id)) := by
  induction vs generalizing as
  case nil => rfl
  case cons v vs ih =>
    simp [contributions, List.filter_map, Function.comp_def, ih]

theorem contributions_perm (vs : List Visit) (h : as.Perm as') :
    (contributions vs as).Perm (contributions vs as') := by
  induction vs generalizing as as'
  case nil => exact .refl _
  case cons v vs ih => exact (h.map _).append (ih (h.map _))

theorem contributions_nil (vs : List Visit) : contributions vs [] = [] := by
  induction vs
  case nil => rfl
  case cons v vs ih => simpa [contributions] using ih

theorem length_contributions (vs : List Visit) (a : ActiveRule) :
    (contributions vs [a]).length = vs.length := by
  induction vs generalizing a
  case nil => rfl
  case cons v vs ih => simp [contributions, ih]

theorem contributions_take (vs : List Visit) (a : ActiveRule) (n : Nat) :
    contributions (vs.take n) [a] = (contributions vs [a]).take n := by
  induction vs generalizing a n
  case nil => simp [contributions]
  case cons v vs ih =>
    cases n
    case zero => rfl
    case succ n => simp [contributions, ih]

theorem rule_of_mem_contributions {c : Contribution} (h : c ∈ contributions vs [a]) :
    c.rule = a.id := by
  induction vs generalizing a
  case nil => simp [contributions] at h
  case cons v vs ih =>
    simp only [contributions, List.map_cons, List.map_nil, List.mem_append,
      List.mem_singleton] at h
    cases h
    case inl h => simp [h]
    case inr h => simpa using ih h

-- A rule that asks no servers adds no requests.
theorem requests_of_mem_contributions {c : Contribution} (ha : a.Lone False)
    (h : c ∈ contributions vs [a]) : c.effect.requests = [] := by
  induction vs generalizing a
  case nil => simp [contributions] at h
  case cons v vs ih =>
    simp only [contributions, List.map_cons, List.map_nil, List.mem_append,
      List.mem_singleton] at h
    cases h
    case inl h => exact h ▸ ha.contribute_requests v
    case inr h => exact ih (ha.contribute v) h

-- Two rules that say the same about every node.
def ActiveRule.Alike (a a' : ActiveRule) : Prop :=
  ∀ vs, (contributions vs [a]).map (·.bare) = (contributions vs [a']).map (·.bare)

theorem ActiveRule.Alike.contribute {a a' : ActiveRule} (h : a.Alike a') (v : Visit) :
    (a.contribute v).2.bare = (a'.contribute v).2.bare ∧
      (a.contribute v).1.Alike (a'.contribute v).1 := by
  have hv (vs : List Visit) := h (v :: vs)
  simp only [contributions, List.map_cons, List.map_nil, List.singleton_append,
    List.cons.injEq] at hv
  exact ⟨(hv []).left, fun vs => (hv vs).right⟩

theorem contributions_alike (h : List.Forall₂ ActiveRule.Alike as as') (vs : List Visit) :
    (contributions vs as).map (·.bare) = (contributions vs as').map (·.bare) := by
  induction vs generalizing as as'
  case nil => rfl
  case cons v vs ih =>
    have hturn : (as.map fun a => (a.contribute v).2).map (·.bare) =
        (as'.map fun a => (a.contribute v).2).map (·.bare) := by
      induction h
      case nil => rfl
      case cons ha _ ih => simpa [(ha.contribute v).left] using ih
    have hnext : List.Forall₂ ActiveRule.Alike (as.map fun a => (a.contribute v).1)
        (as'.map fun a => (a.contribute v).1) := by
      simpa using h.imp fun _ _ ha => (ha.contribute v).right
    simp only [contributions, List.map_append, hturn, ih hnext]

end Projection
end ProposalLint

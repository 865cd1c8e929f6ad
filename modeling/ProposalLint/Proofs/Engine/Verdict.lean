import ProposalLint.Proofs.Engine.Outcome
import ProposalLint.Rules.Script

namespace ProposalLint

namespace Dispatch

variable {d : Dispatch}

-- A call of the dispatch ends in the fault, and no call that ends before it has one.
def FirstFault (d : Dispatch) (fault : Fault) : Prop :=
  ∃ before i after, d.turns = before ++ ⟨i, .ended (some fault)⟩ :: after ∧
    ∀ t ∈ before, t.event.fault? = none

theorem firstFault_of_fault? (h : d.fault? = some fault) : d.FirstFault fault := by
  have ⟨before, t, after, ht, hf, hb⟩ := List.findSome?_eq_some_iff.mp h
  have ⟨i, event⟩ := t
  cases event <;> simp only [CallEvent.fault?, reduceCtorEq] at hf
  case ended => exact ⟨before, i, after, hf ▸ ht, hb⟩

end Dispatch

-- All rules have been set up, in their order.
structure Outcome.Ready (c : Context) (rules : List Rule) (o : Outcome) : Prop where
  setups  : ∀ r ∈ rules, ∃ setup, r.setup c = .ok setup
  created : o.created = rules.map (·.id)

-- The turns have been given in their order, each of them to its end, and no call ended in a fault.
structure Passed (c : Context) (plan : List (Visit × Rule)) (ds : List Dispatch) : Prop where
  turns    : List.Forall₂ (fun turn d => Dispatch.Of c turn.1 turn.2 d) plan ds
  no_fault : ∀ d ∈ ds, ∀ t ∈ d.turns, t.event.fault? = none

theorem Follows.passed_of_none (f : Follows c plan ds none) : Passed c plan ds := by
  have ⟨ht, hn⟩ := f.turns_of_none
  exact ⟨ht, fun d hd => by simpa [Dispatch.fault?] using hn d hd⟩

-- How a run comes out. No two of the cases can meet, so that each of them is decided before the
-- next ones: the first rule that cannot be set up, the first turn in which a call ends in a fault,
-- the first report about a node without a position.
inductive Verdict (c : Context) (rules : List Rule) (plan : List (Visit × Rule)) (o : Outcome) :
    Prop
  | unready : (rules = before ++ r :: after) → (∀ b ∈ before, ∃ setup, b.setup c = .ok setup) →
      (r.setup c = .error fault) → (o.created = before.map (·.id) ++ [r.id]) →
      (o.trace.dispatches = []) → (o.result = .error (r.error fault)) → Verdict c rules plan o
  | failed : (o.Ready c rules) → (plan = before ++ (v, r) :: after) →
      (o.trace.dispatches = earlier ++ [d]) → (Passed c before earlier) → (Dispatch.Of c v r d) →
      (d.FirstFault fault) → (o.result = .error (d.error fault)) → Verdict c rules plan o
  | unplaced : (o.Ready c rules) → (Passed c plan o.trace.dispatches) →
      (o.trace.reports = before ++ r :: after) → (∀ b ∈ before, b.position.isSome) →
      (r.position = none) → (o.result = .error (.missingPosition r.ruleId r.kind.name)) →
      Verdict c rules plan o
  | passed : (o.Ready c rules) → (Passed c plan o.trace.dispatches) →
      (∀ r ∈ o.trace.reports, r.position.isSome) →
      (o.result = .ok (o.trace.reports.filterMap (·.message?))) → Verdict c rules plan o

namespace Verdict

variable {o : Outcome}

theorem of_messages (hr : o.Ready c rules) (hp : Passed c plan o.trace.dispatches)
    (h : o.result = messages o.trace.reports) : Verdict c rules plan o := by
  rw [messages_eq] at h
  split at h
  case h_1 r hf =>
    have ⟨hn, before, after, he, hb⟩ := List.find?_eq_some_iff_append.mp hf
    exact .unplaced hr hp he (by simpa [← Option.ne_none_iff_isSome] using hb) (by simpa using hn) h
  case h_2 hf =>
    have hs := List.find?_eq_none.mp hf
    exact .passed hr hp (by simpa [← Option.ne_none_iff_isSome] using hs) h

theorem no_duplicate (v : Verdict c rules plan o) (name : String) :
    o.result ≠ .error (.duplicateRule name) := by
  cases v
  case unready fault _ _ _ _ _ h => cases fault <;> simp [h, Rule.error]
  case failed fault _ _ _ _ _ _ h => cases fault <;> simp [h, Dispatch.error]
  case unplaced h => simp [h]
  case passed h => simp [h]

end Verdict

namespace Engine

variable {e : Engine} {rules : List Rule} {config : Config}

theorem build_eq_error_iff :
    (∃ id, build rules config = .error (.duplicateRule id)) ↔ ¬(rules.map (·.id)).Nodup := by
  rw [← firstRepeated?_eq_none_iff, build]
  split
  case h_1 h => simp [h]
  case h_2 h => simp [h]

theorem verdict_of_build (hb : build rules config = .ok e) (root : Node) (path : Option String)
    (s : Scheduler) :
    Verdict (contextOf root path) e.active (e.plan root) (e.validateTree root path s) := by
  cases setups_or_first_fault (contextOf root path) e.active
  case inr h =>
    have ⟨_, _, _, _, ha, hs, hf⟩ := h
    have ⟨hr, hc, hd⟩ := validateTree_of_fault (s := s) hb ha hs hf
    exact .unready ha hs hf hc hd hr
  case inl hs =>
    have ⟨error, hf, hc, _, hr⟩ := validateTree_of_setups (s := s) hb hs
    cases error
    case some =>
      have ⟨_, _, _, _, _, _, _, hp, hd, hp', ho, hf', he⟩ := hf.turns_of_some
      have hff := Dispatch.firstFault_of_fault? hf'
      exact .failed ⟨hs, hc⟩ hp hd hp'.passed_of_none ho hff (he ▸ hr)
    case none => exact .of_messages ⟨hs, hc⟩ hf.passed_of_none hr

-- Only rules with different names make an engine, and whatever the scheduler does, a run of the
-- engine comes to its verdict.
theorem validateTree_verdict (rules : List Rule) (config : Config) :
    ((∃ id, build rules config = .error (.duplicateRule id)) ↔ ¬(rules.map (·.id)).Nodup) ∧
      ∀ e, build rules config = .ok e → ∀ root path s, let o := e.validateTree root path s
        Verdict (contextOf root path) e.active (e.plan root) o ∧
          ∀ id, o.result ≠ .error (.duplicateRule id) := by
  refine ⟨build_eq_error_iff, ?_⟩
  intro e hb root path s
  have v := verdict_of_build hb root path s
  exact ⟨v, v.no_duplicate⟩

-- The first of two rules has a validator that fails late, one that panics early, and one that
-- reports once both have ended.
theorem validateTree_verdict_of_panic :
    let first := Script.ScriptRule.rule ⟨"first", [],
      [⟨"*", true, [.yield, .error (.other "late")]⟩, ⟨"text", true, [.panic]⟩,
        ⟨"text", true, [.yield, .yield, .report "a"]⟩]⟩
    let second := Script.ScriptRule.rule ⟨"second", [], [⟨"*", true, [.report "b"]⟩]⟩
    let root := Node.leaf .text (some ⟨⟨1, 1, some 0⟩, ⟨1, 5, some 4⟩⟩) (.literal "text")
    let e : Engine := ⟨[first, second], {}⟩
    let o := e.validateTree root none .rounds
    build [first, second] {} = .ok e ∧ o.result = .error (.panicked "first") ∧
      o.trace.reports.map (·.text) = ["a"] ∧
      Verdict (contextOf root none) e.active (e.plan root) o ∧
      ∀ id, o.result ≠ .error (.duplicateRule id) := by
  intro first second root e o
  have hb : build [first, second] {} = .ok e := rfl
  have ha : e.active = [first, second] := rfl
  have ⟨_, runs⟩ := validateTree_verdict [first, second] {}
  refine ⟨hb, ?result, ?reports, runs e hb root none .rounds⟩
  all_goals
    subst o
    rw [validateTree, ha]
    subst e first second root
    cbv

end Engine
end ProposalLint

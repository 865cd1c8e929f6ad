import ProposalLint.Proofs.Engine.Outcome
import ProposalLint.Rules.Script

namespace ProposalLint

namespace Validator

variable {v : Visit}

-- The findings that a validator can make on a node before it ends well. One that does not select
-- the node makes none.
def Finds (rule : String) (v : Visit) (w : Validator σ) (findings : List Finding) : Prop :=
  if w.selects v.node then (w.start v).Completes rule findings none else findings = []

-- What can be seen of a validator that makes some findings on a node and ends well.
def events (v : Visit) (w : Validator σ) (findings : List Finding) : List CallEvent :=
  if w.selects v.node then .called :: findings.map .reported ++ [.ended none] else []

theorem events_findings {w : Validator σ} (h : w.Finds rule v findings) :
    (w.events v findings).filterMap (·.finding?) = findings := by
  unfold Finds at h
  unfold events
  split at h
  case isTrue hs => simp [hs, CallEvent.finding?, List.filterMap_map]
  case isFalse hs => simp [hs, h]

theorem Life.finds {w : Validator σ} (l : w.Life rule v life)
    (h : ∀ e ∈ life, e.fault? = none) :
    ∃ findings, w.Finds rule v findings ∧ life = w.events v findings := by
  cases l
  case called findings fault hs hc =>
    have hf : fault = none := h (.ended fault) (by simp)
    subst hf
    exact ⟨findings, by simpa [Finds, hs] using hc, by simp [events, hs]⟩
  case passed hs => exact ⟨[], by simp [Finds, hs], by simp [events, hs]⟩

theorem lives_find {ws : List (Validator σ)} (l : List.Forall₂ (Life rule v) ws lives)
    (h : ∀ life ∈ lives, ∀ e ∈ life, e.fault? = none) :
    ∃ parts, List.Forall₂ (Finds rule v) ws parts ∧ lives = List.zipWith (events v) ws parts := by
  induction l
  case nil => exact ⟨[], .nil, rfl⟩
  case cons w life ws lives l _ ih =>
    have ⟨findings, hf, he⟩ := l.finds (h life List.mem_cons_self)
    have ⟨parts, hp, hl⟩ := ih fun life hm => h life (List.mem_cons_of_mem _ hm)
    exact ⟨findings :: parts, .cons hf hp, by simp [he, hl]⟩

-- The events of each validator tell its findings, also when they name the place they come from.
theorem parts_of_events {ws : List (Validator σ)} (h : List.Forall₂ (Finds rule v) ws parts) :
    ((List.zipWith (events v) ws parts).mapIdx fun i es => es.map (Turn.mk i)).map
      (List.filterMap (·.event.finding?)) = parts := by
  apply List.ext_getElem (by simp [h.length_eq])
  intro i _ hi
  have := events_findings (h.get (h.length_eq ▸ hi) hi)
  simpa [List.filterMap_map, Function.comp_def] using this

end Validator

namespace Dispatch

def messages (d : Dispatch) : List Message :=
  d.reports.filterMap (·.message?)

-- The messages of a rule on a node: each validator that selects the node is called exactly once, no
-- other one is called, and the messages are the findings of all validators, each at the end of the
-- node it is about. The findings of one validator keep their order.
structure Block (c : Context) (v : Visit) (r : Rule) (d : Dispatch) : Prop where
  visit       : d.visit = v
  rule        : d.rule = r.id
  attributed  : ∀ m ∈ d.messages, m.ruleId = r.id
  interleaved : ∃ setup parts, r.setup c = .ok setup ∧
    List.Forall₂ (Validator.Finds r.id v) setup.validators parts ∧
    Interleaving ((List.zipWith (Validator.events v) setup.validators parts).mapIdx
      fun i events => events.map (Turn.mk i)) d.turns ∧
    Interleaving (parts.map (List.map fun f =>
      f.node.position.map fun p => ⟨r.id, f.text, p.stop.line, p.stop.column⟩))
      (d.messages.map some)

variable {d : Dispatch}

theorem fault?_eq_none_iff : d.fault? = none ↔ ∀ t ∈ d.turns, t.event.fault? = none := by
  simp [fault?]

theorem messages_map_some (h : ∀ r ∈ d.reports, r.position.isSome) :
    d.messages.map some = d.reports.map (·.message?) := by
  unfold messages
  generalize d.reports = reports at h
  induction reports
  case nil => rfl
  case cons r reports ih =>
    have ⟨p, hp⟩ := Option.isSome_iff_exists.mp (h r List.mem_cons_self)
    have hm : r.message? = some ⟨r.ruleId, r.text, p.stop.line, p.stop.column⟩ := by
      simp [Report.message?, hp]
    simp [hm, ih fun r' hr => h r' (List.mem_cons_of_mem _ hr)]

theorem ruleId_of_mem_messages (h : m ∈ d.messages) : m.ruleId = d.rule := by
  simp only [messages, reports, List.mem_filterMap, List.mem_map] at h
  obtain ⟨_, ⟨_, _, hf⟩, hm⟩ := h
  subst hf
  obtain ⟨_, _, hp⟩ := Option.map_eq_some_iff.mp hm
  exact hp ▸ rfl

theorem Of.block (ho : Of c v r d) (hf : d.fault? = none)
    (hp : ∀ r ∈ d.reports, r.position.isSome) : Block c v r d := by
  have ⟨setup, hs, lives, hl, hi⟩ := ho.complete
  have hv := ho.visit
  have hr := ho.rule
  subst hv
  rw [hr] at hl
  -- Each life is part of the turns, where no call ends in a fault.
  have hn : ∀ life ∈ lives, ∀ e ∈ life, e.fault? = none := by
    intro life hm e he
    have ⟨i, hli⟩ := List.getElem?_of_mem hm
    have ht : Turn.mk i e ∈ d.turns := (Turn.mem_iff_of_interleaving hi).mpr ⟨life, hli, he⟩
    exact fault?_eq_none_iff.mp hf _ ht
  have ⟨parts, hparts, he⟩ := Validator.lives_find hl hn
  subst he
  refine ⟨rfl, hr, fun m hm => hr ▸ ruleId_of_mem_messages hm, setup, parts, hs, hparts, hi, ?_⟩
  have hfi : Interleaving parts d.findings := by
    have := hi.filterMap (·.event.finding?)
    rwa [Validator.parts_of_events hparts] at this
  rw [messages_map_some hp, reports, List.map_map]
  have := hfi.map fun f => (f.report d.rule).message?
  rw [hr] at this ⊢
  exact this

end Dispatch

namespace Follows

theorem blocks (f : Follows c plan ds none) (h : ∀ d ∈ ds, ∀ r ∈ d.reports, r.position.isSome) :
    List.Forall₂ (fun turn d => Dispatch.Block c turn.1 turn.2 d) plan ds := by
  have ⟨ho, hn⟩ := f.turns_of_none
  apply List.forall₂_iff_get.mpr ⟨ho.length_eq, ?_⟩
  intro i hp hd
  exact (ho.get hp hd).block (hn _ (List.get_mem ..)) (h _ (List.get_mem ..))

end Follows

namespace Engine

variable {e : Engine} {rules : List Rule} {config : Config}

-- Whatever the scheduler does, the messages of a run that succeeds are those of one block for each
-- node and rule, the nodes in pre-order and on each node the enabled rules in their order.
theorem validateTree_messages (hb : build rules config = .ok e) (root : Node) (path : Option String)
    (s : Scheduler) (ok : (e.validateTree root path s).result = .ok ms) :
    let ds := (e.validateTree root path s).trace.dispatches
    ms = ds.flatMap (·.messages) ∧
      List.Forall₂ (fun turn d => Dispatch.Block (contextOf root path) turn.1 turn.2 d)
        (e.plan root) ds := by
  have ⟨hf, hm⟩ := validateTree_of_ok hb ok
  have ⟨hp, hms⟩ := messages_eq_ok_iff.mp hm
  refine ⟨?messages, hf.blocks fun d hd r hr => hp r (List.mem_flatMap_of_mem hd hr)⟩
  rw [hms, List.filterMap_flatMap]
  rfl

-- Two validators that take turns on one node.
theorem validateTree_messages_of_pair :
    let rule := Script.ScriptRule.rule ⟨"pair", [],
      [⟨"*", true, [.report "a", .yield, .report "b"]⟩, ⟨"text", true, [.report "c"]⟩]⟩
    let root := Node.leaf .text (some ⟨⟨1, 1, some 0⟩, ⟨1, 5, some 4⟩⟩) (.literal "text")
    let e : Engine := ⟨[rule], {}⟩
    let o := e.validateTree root none .rounds
    let ms : List Message := [⟨"pair", "a", 1, 5⟩, ⟨"pair", "c", 1, 5⟩, ⟨"pair", "b", 1, 5⟩]
    build [rule] {} = .ok e ∧ o.result = .ok ms ∧ ms = o.trace.dispatches.flatMap (·.messages) ∧
      List.Forall₂ (fun turn d => Dispatch.Block (contextOf root none) turn.1 turn.2 d)
        (e.plan root) o.trace.dispatches := by
  intro rule root e o ms
  have hb : build [rule] {} = .ok e := rfl
  have ok : o.result = .ok ms := by
    have ha : e.active = [rule] := rfl
    subst o
    rw [validateTree, ha]
    subst e rule root ms
    cbv
  exact ⟨hb, ok, validateTree_messages hb root none .rounds ok⟩

end Engine
end ProposalLint

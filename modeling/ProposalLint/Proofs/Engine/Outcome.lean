import Mathlib.Data.List.Permutation
import ProposalLint.Proofs.Document.Walk
import ProposalLint.Proofs.Engine.Run

namespace ProposalLint

-- Something holds of a whole list, or there is a first place where it does not.
theorem forall_or_first_not {α : Type _} (p : α → Prop) (xs : List α) :
    (∀ x ∈ xs, p x) ∨
      ∃ before x after, xs = before ++ x :: after ∧ (∀ b ∈ before, p b) ∧ ¬p x := by
  induction xs
  case nil => simp
  case cons x xs ih =>
    by_cases hx : p x
    case neg => exact .inr ⟨[], x, xs, rfl, by simp, hx⟩
    case pos =>
      cases ih
      case inl h => exact .inl (List.forall_mem_cons.mpr ⟨hx, h⟩)
      case inr h =>
        obtain ⟨before, y, after, he, hb, hy⟩ := h
        exact .inr ⟨x :: before, y, after, by simp [he], List.forall_mem_cons.mpr ⟨hx, hb⟩, hy⟩

-- Rules are set up either all, or up to a first one that fails.
theorem setups_or_first_fault (c : Context) (rules : List Rule) :
    (∀ r ∈ rules, ∃ setup, r.setup c = .ok setup) ∨
      ∃ before r after fault, rules = before ++ r :: after ∧
        (∀ b ∈ before, ∃ setup, b.setup c = .ok setup) ∧ r.setup c = .error fault := by
  refine (forall_or_first_not _ rules).imp_right ?_
  intro ⟨before, r, after, he, hb, hr⟩
  cases hs : r.setup c
  case ok setup => exact absurd ⟨setup, hs⟩ hr
  case error fault => exact ⟨before, r, after, fault, he, hb, hs⟩

-- Either some report is about a node without a position, and the first such report decides, or
-- every report becomes a message.
theorem messages_eq (reports : List Report) :
    messages reports = match reports.find? (·.position.isNone) with
      | some r => .error (.missingPosition r.ruleId r.kind.name)
      | none => .ok (reports.filterMap (·.message?)) := by
  induction reports
  case nil => rfl
  case cons r reports ih =>
    rw [messages, List.mapM_cons, ← messages, ih]
    cases hp : r.position
    case none =>
      have hm : r.message? = none := by simp [Report.message?, hp]
      simp only [hm, List.find?_cons, hp, Option.isNone_none]
      rfl
    case some p =>
      have hm : r.message? = some ⟨r.ruleId, r.text, p.stop.line, p.stop.column⟩ := by
        simp [Report.message?, hp]
      simp only [hm, List.find?_cons, hp, Option.isNone_some, List.filterMap_cons]
      cases reports.find? (·.position.isNone) <;> rfl

theorem messages_eq_ok_iff : messages reports = .ok ms ↔
    (∀ r ∈ reports, r.position.isSome) ∧ ms = reports.filterMap (·.message?) := by
  rw [messages_eq]
  split
  case h_1 r h =>
    have hp := List.find?_some h
    simp only [reduceCtorEq, false_iff]
    intro ⟨hs, _⟩
    simp [Option.isSome_iff_ne_none.mp (hs r (List.mem_of_find?_eq_some h))] at hp
  case h_2 h =>
    have hs : ∀ r ∈ reports, r.position.isSome := by
      simpa [← Option.ne_none_iff_isSome] using List.find?_eq_none.mp h
    constructor
    case mp =>
      intro he
      injection he with he
      exact ⟨hs, he.symm⟩
    case mpr => exact fun ⟨_, he⟩ => he ▸ rfl

namespace Engine

variable {e : Engine} {rules : List Rule} {config : Config}

theorem build_eq_ok_iff :
    build rules config = .ok e ↔ (rules.map (·.id)).Nodup ∧ e = ⟨rules, config⟩ := by
  rw [← firstRepeated?_eq_none_iff, build]
  split
  case h_1 h => simp [h]
  case h_2 h => simp [h, eq_comm]

theorem active_nodup (hb : build rules config = .ok e) : (e.active.map (·.id)).Nodup := by
  have ⟨hn, he⟩ := build_eq_ok_iff.mp hb
  subst he
  exact (List.filter_sublist.map _).nodup hn

-- What the rules of a run know about the document.
def contextOf (root : Node) (path : Option String) : Context :=
  ⟨path, Annotations.collect ⟨0, root⟩⟩

-- The turns that the enabled rules have on the nodes of a document.
def plan (e : Engine) (root : Node) : List (Visit × Rule) :=
  planOf (root.preorder.zipIdx.map fun (n, i) => ⟨i, n⟩) e.active

variable {root : Node} {path : Option String} {s : Scheduler}

theorem validateTree_of_setups (hb : build rules config = .ok e)
    (hs : ∀ r ∈ e.active, ∃ setup, r.setup (contextOf root path) = .ok setup) :
    ∃ error, let o := e.validateTree root path s
      Follows (contextOf root path) (e.plan root) o.trace.dispatches error ∧
      o.created = e.active.map (·.id) ∧
      o.trace.reports = o.trace.dispatches.flatMap (·.reports) ∧
      o.result = match error with
        | some error => .error error
        | none => messages o.trace.reports := by
  have ⟨active, t, hc, ha, hf⟩ := createAll_ok e.active [] Trace.fresh_empty hs
  have ⟨st, ds, error, hv, hfl, hx⟩ :=
    visitAll_follows (s := s) (Visit.mk 0 root).walk ⟨t, s.start⟩ hf.current ha
  have hd : st.trace.dispatches = ds := by simpa [hf.dispatches] using hx.dispatches
  have hr : st.trace.reports = ds.flatMap (·.reports) := by simpa [hf.reports] using hx.reports
  -- The run goes by the stack, the plan by the recursion.
  have hw : (Visit.mk 0 root).walk = root.preorder.zipIdx.map fun (n, i) => ⟨i, n⟩ := by
    simp [Visit.walk, Node.walk_eq_preorder]
  refine ⟨error, ?_⟩
  simp only [contextOf] at hc
  simp only [validateTree, firstRepeated?_eq_none_iff.mpr (active_nodup hb), hc, hv]
  cases error
  all_goals exact ⟨by rw [plan, ← hw]; exact hd ▸ hfl, by simp, hd ▸ hr, rfl⟩

theorem validateTree_of_fault (hb : build rules config = .ok e)
    (ha : e.active = before ++ r :: after)
    (hs : ∀ b ∈ before, ∃ setup, b.setup (contextOf root path) = .ok setup)
    (hf : r.setup (contextOf root path) = .error fault) :
    let o := e.validateTree root path s
    o.result = .error (r.error fault) ∧ o.created = before.map (·.id) ++ [r.id] ∧
      o.trace.dispatches = [] := by
  have ⟨t, hc, h⟩ := createAll_error [] after Trace.fresh_empty hs hf
  rw [← ha] at hc
  simp only [contextOf] at hc
  simp only [validateTree, firstRepeated?_eq_none_iff.mpr (active_nodup hb), hc]
  exact ⟨trivial, by simp, h.dispatches⟩

theorem validateTree_of_ok (hb : build rules config = .ok e)
    (ok : (e.validateTree root path s).result = .ok ms) :
    let ds := (e.validateTree root path s).trace.dispatches
    Follows (contextOf root path) (e.plan root) ds none ∧
      messages (ds.flatMap (·.reports)) = .ok ms := by
  cases setups_or_first_fault (contextOf root path) e.active
  case inr h =>
    have ⟨_, _, _, _, ha, hs, hf⟩ := h
    simp [(validateTree_of_fault (s := s) hb ha hs hf).left] at ok
  case inl hs =>
    have ⟨error, hf, _, hp, hr⟩ := validateTree_of_setups (s := s) hb hs
    cases error
    case some => simp [hr] at ok
    case none => exact ⟨hf, hp ▸ hr.symm.trans ok⟩

end Engine
end ProposalLint

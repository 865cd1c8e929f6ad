import ProposalLint.Proofs.Engine.Outcome

namespace ProposalLint

namespace Action

variable {σ α β : Type} {P : Node → Prop}

-- `Harmless P a` says that `a` does not stop as long as its findings are taken, whatever else it is
-- told, and that all its findings are about nodes with `P`.
inductive Harmless (P : Node → Prop) : Action σ α → Prop
  | done : Harmless P (done x)
  | reporting : (P f.node) → (Harmless P (next (.ok ()))) → Harmless P (reporting f next)
  | noting : (Harmless P next) → Harmless P (noting n next)
  | requesting : (Harmless P next) → Harmless P (requesting line next)
  | launching : (Harmless P next) → Harmless P (launching l next)
  | askingRule : (∀ id, Harmless P (next id)) → Harmless P (askingRule next)
  | askingCount : (∀ count, Harmless P (next count)) → Harmless P (askingCount next)
  | updating : (∀ s, Harmless P (next s)) → Harmless P (updating change next)
  | yielding : (Harmless P next) → Harmless P (yielding next)

namespace Harmless

theorem bind {a : Action σ α} {f : α → Action σ β} (ha : Harmless P a)
    (hf : ∀ x, Harmless P (f x)) : Harmless P (a >>= f) := by
  induction ha
  case done => exact hf _
  case reporting h _ ih => exact .reporting h ih
  case noting ih => exact .noting ih
  case requesting ih => exact .requesting ih
  case launching ih => exact .launching ih
  case askingRule ih => exact .askingRule ih
  case askingCount ih => exact .askingCount ih
  case updating ih => exact .updating ih
  case yielding ih => exact .yielding ih

theorem pure : Harmless P (pure x : Action σ α) :=
  .done

theorem report (h : P n) : Harmless P (report n text : Action σ Unit) :=
  .reporting h .done

theorem report_if (h : P n) (cond : Bool) :
    Harmless P (if cond then Action.report n text else .done () : Action σ Unit) := by
  cases cond
  case true => exact report h
  case false => exact .done

theorem note : Harmless P (note n : Action σ Unit) :=
  .noting .done

theorem request : Harmless P (request line : Action σ Unit) :=
  .requesting .done

theorem update : Harmless P (update change : Action σ σ) :=
  .updating fun _ => .done

theorem forM {f : α → Action σ Unit} {xs : List α} (h : ∀ x ∈ xs, Harmless P (f x)) :
    Harmless P (xs.forM f) := by
  induction xs
  case nil => exact .done
  case cons x xs ih =>
    have ⟨hx, hxs⟩ := List.forall_mem_cons.mp h
    exact hx.bind fun _ => ih hxs

theorem op {a b : Action σ α} (h : Harmless P a) (op : Op rule a finding b) :
    Harmless P b ∧ ∀ f ∈ finding, P f.node := by
  cases op <;> cases h
  case reporting hf hn => exact ⟨hn, by simpa using hf⟩
  case noting h | requesting h | launching h | yielding h => exact ⟨h, by simp⟩
  case askingRule h | askingCount h | updating h => exact ⟨h _, by simp⟩

theorem path {a b : Action σ α} (h : Harmless P a) (p : Path rule a findings b) :
    Harmless P b ∧ ∀ f ∈ findings, P f.node := by
  induction p
  case refl => exact ⟨h, by simp⟩
  case snoc op ih =>
    have ⟨hb, hfs⟩ := ih
    have ⟨hc, hf⟩ := hb.op op
    refine ⟨hc, fun f hm => ?_⟩
    cases List.mem_append.mp hm
    case inl hm => exact hfs f hm
    case inr hm => exact hf f (by simpa using hm)

theorem completes {a : Action σ Unit} (h : Harmless P a) (hc : Completes rule a findings fault) :
    fault = none ∧ ∀ f ∈ findings, P f.node := by
  have ⟨b, p, he⟩ := hc
  have ⟨hb, hf⟩ := h.path p
  cases he
  case done => exact ⟨rfl, hf⟩
  case stopped => cases hb

end Harmless
end Action

-- A rule that can be set up for every document, does not fail on any node, and reports only nodes
-- under the one that it is called on.
def Rule.Harmless (r : Rule) : Prop :=
  ∀ c, ∃ setup, r.setup c = .ok setup ∧
    ∀ w ∈ setup.validators, ∀ v : Visit, (w.start v).Harmless (· ∈ v.node.preorder)

theorem Rule.single_harmless {work : Context → Visit → Action σ Unit}
    (h : ∀ c v, (work c v).Harmless (· ∈ v.node.preorder)) :
    (Rule.single name text selector state work).Harmless := by
  intro c
  exact ⟨_, rfl, List.forall_mem_singleton.mpr (h c)⟩

theorem Validator.Life.harmless {w : Validator σ} (l : w.Life rule v life)
    (h : (w.start v).Harmless P) :
    ∀ e ∈ life, e.fault? = none ∧ ∀ f ∈ e.finding?, P f.node := by
  cases l
  case passed => simp
  case called findings fault _ hc =>
    have ⟨hn, hf⟩ := h.completes hc
    simp only [hn, List.forall_mem_append, List.forall_mem_cons, List.forall_mem_map]
    simpa [CallEvent.fault?, CallEvent.finding?] using hf

-- A dispatch of a rule that does no harm has no fault, and its findings are about nodes under its
-- own.
theorem Dispatch.Of.harmless (ho : Dispatch.Of c v r d) (h : r.Harmless) :
    d.fault? = none ∧ ∀ f ∈ d.findings, f.node ∈ v.node.preorder := by
  obtain ⟨setup, hs, lives, hl, hi⟩ := ho.complete
  obtain ⟨_, hs', hw⟩ := h c
  cases hs.symm.trans hs'
  rw [ho.visit] at hl
  have ht : ∀ t ∈ d.turns, t.event.fault? = none ∧
      ∀ f ∈ t.event.finding?, f.node ∈ v.node.preorder := by
    intro t ht
    obtain ⟨life, hli, hm⟩ := (Turn.mem_iff_of_interleaving hi).mp ht
    obtain ⟨hlt, he⟩ := List.getElem?_eq_some_iff.mp hli
    subst he
    exact (hl.get (hl.length_eq ▸ hlt) hlt).harmless (hw _ (List.get_mem ..) v) t.event hm
  refine ⟨by simpa [Dispatch.fault?] using fun t hm => (ht t hm).left, fun f hf => ?_⟩
  obtain ⟨t, hm, he⟩ := List.mem_filterMap.mp hf
  exact (ht t hm).right f he

namespace Engine

variable {e : Engine} {rules : List Rule} {config : Config} {root : Node}

theorem node_mem_of_mem_plan (h : (v, r) ∈ e.plan root) :
    v.node ∈ root.preorder ∧ r ∈ e.active := by
  simp only [plan, planOf, List.mem_flatMap, List.mem_map] at h
  obtain ⟨_, ⟨⟨n, i⟩, hn, hv⟩, r', hr, he⟩ := h
  cases he
  subst hv
  exact ⟨List.fst_mem_of_mem_zipIdx hn, hr⟩

-- No turn of rules that do no harm can make a run fail.
theorem follows_harmless (hr : ∀ r ∈ e.active, r.Harmless) (f : Follows c (e.plan root) ds error) :
    error = none ∧ ∀ d ∈ ds, ∀ f ∈ d.findings, f.node ∈ root.preorder := by
  have hd : ∀ d ∈ ds, d.fault? = none ∧ ∀ f ∈ d.findings, f.node ∈ root.preorder := by
    intro d hd
    have ⟨v, r, hm, ho⟩ := f.of_mem hd
    have ⟨hv, ha⟩ := node_mem_of_mem_plan hm
    have ⟨hn, hf⟩ := ho.harmless (hr r ha)
    exact ⟨hn, fun f hm => Node.mem_preorder_trans (hf f hm) root hv⟩
  refine ⟨?_, fun d hm => (hd d hm).right⟩
  cases error
  case none => rfl
  case some =>
    -- The last dispatch of a run that fails has a fault.
    have ⟨_, _, _, _, _, d, _, _, he, _, _, hf, _⟩ := f.turns_of_some
    have ⟨hn, _⟩ := hd d (by simp [he])
    simp [hn] at hf

-- Rules that do no harm let every run on a document with positions succeed, and each message is at
-- the end of a node of the document.
theorem validateTree_of_harmless (hb : build rules config = .ok e)
    (hr : ∀ r ∈ e.active, r.Harmless) (hp : ∀ n ∈ root.preorder, n.position.isSome)
    (path : Option String) (s : Scheduler) :
    ∃ ms, (e.validateTree root path s).result = .ok ms ∧ ∀ m ∈ ms, ∃ n ∈ root.preorder,
      ∃ p ∈ n.position, m.line = p.stop.line ∧ m.column = p.stop.column := by
  have hs : ∀ r ∈ e.active, ∃ setup, r.setup (contextOf root path) = .ok setup := by
    intro r hm
    have ⟨setup, hs, _⟩ := hr r hm (contextOf root path)
    exact ⟨setup, hs⟩
  have ⟨error, hf, _, hre, hres⟩ := validateTree_of_setups (s := s) hb hs
  have ⟨hn, hd⟩ := follows_harmless hr hf
  subst hn
  generalize e.validateTree root path s = o at hd hre hres ⊢
  -- A report keeps the position of the node that it is about.
  have hnode : ∀ r ∈ o.trace.reports, ∃ n ∈ root.preorder, r.position = n.position := by
    intro r hm
    rw [hre] at hm
    have ⟨d, hdm, hm⟩ := List.mem_flatMap.mp hm
    have ⟨f, hf, he⟩ := List.mem_map.mp hm
    exact ⟨f.node, hd d hdm f hf, he ▸ rfl⟩
  refine ⟨_, hres.trans (messages_eq_ok_iff.mpr ⟨?positions, rfl⟩), ?places⟩
  case positions =>
    intro r hm
    have ⟨n, hn, he⟩ := hnode r hm
    exact he ▸ hp n hn
  case places =>
    intro m hm
    have ⟨r, hr, he⟩ := List.mem_filterMap.mp hm
    have ⟨n, hn, hpos⟩ := hnode r hr
    have ⟨p, hp, he⟩ := Option.map_eq_some_iff.mp he
    exact ⟨n, hn, p, hpos ▸ hp, he ▸ rfl, he ▸ rfl⟩

end Engine
end ProposalLint

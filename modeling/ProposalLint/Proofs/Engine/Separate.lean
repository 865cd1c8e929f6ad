import Mathlib.Data.List.Perm.Basic
import ProposalLint.Proofs.Engine.Contribution

namespace ProposalLint

open Contribution

namespace Contribution

-- It neither makes a run fail nor is about a node without a position.
structure Clean (c : Contribution) : Prop where
  fault  : c.fault = none
  placed : ∀ f ∈ c.effect.findings, f.node.position.isSome

theorem ruleId_of_mem_messages (h : m ∈ messages c) : m.ruleId = c.rule := by
  simp only [messages, reports, List.mem_filterMap, List.mem_map] at h
  obtain ⟨_, ⟨_, _, hf⟩, hm⟩ := h
  subst hf
  obtain ⟨_, _, hp⟩ := Option.map_eq_some_iff.mp hm
  exact hp ▸ rfl

-- Each finding that is about a node with a position becomes a message.
theorem Clean.messages (h : Clean c) :
    c.messages.map some = c.effect.findings.map fun f => (f.report c.rule).message? := by
  have hp := h.placed
  simp only [Contribution.messages, reports, List.filterMap_map]
  generalize c.effect.findings = fs at hp
  induction fs
  case nil => rfl
  case cons f fs ih =>
    obtain ⟨hf, hfs⟩ := List.forall_mem_cons.mp hp
    obtain ⟨p, hp⟩ := Option.isSome_iff_exists.mp hf
    have hm : (f.report c.rule).message? = some ⟨c.rule, f.text, p.stop.line, p.stop.column⟩ := by
      simp [Finding.report, Report.message?, hp]
    simp [hm, ← ih hfs]

theorem filter_messages (cs : List Contribution) (p : String → Bool) :
    (cs.flatMap messages).filter (p ·.ruleId) = (cs.filter (p ·.rule)).flatMap messages := by
  induction cs
  case nil => rfl
  case cons c cs ih =>
    have hc : (messages c).filter (p ·.ruleId) = if p c.rule then messages c else [] := by
      split
      case isTrue h => simpa using fun m hm => ruleId_of_mem_messages hm ▸ h
      case isFalse h => exact List.filter_eq_nil_iff.mpr fun m hm => ruleId_of_mem_messages hm ▸ h
    simp only [List.flatMap_cons, List.filter_append, hc, ih, List.filter_cons]
    split <;> simp

theorem firstError?_bare (cs : List Contribution) :
    firstError? (cs.map (·.bare)) = firstError? cs :=
  List.findSome?_map ..

theorem reports_bare (cs : List Contribution) :
    (cs.map (·.bare)).flatMap (·.reports) = cs.flatMap (·.reports) :=
  List.flatMap_map ..

theorem clean_iff {cs : List Contribution} : (∀ c ∈ cs, Clean c) ↔
    firstError? cs = none ∧ ∀ r ∈ cs.flatMap (·.reports), r.position.isSome := by
  rw [firstError?_eq_none_iff]
  constructor
  case mp =>
    refine fun h => ⟨fun c hc => (h c hc).fault, ?_⟩
    intro r hr
    have ⟨c, hc, hr⟩ := List.mem_flatMap.mp hr
    have ⟨f, hf, he⟩ := List.mem_map.mp hr
    exact he ▸ (h c hc).placed f hf
  case mpr =>
    refine fun ⟨hf, hp⟩ c hc => ⟨hf c hc, fun f hm => ?_⟩
    exact hp (f.report c.rule) (List.mem_flatMap_of_mem hc (List.mem_map_of_mem hm))

end Contribution

namespace Rule

-- The setup of the rule touches nothing, and its one validator takes no notice of other rules.
def Lone (online : Prop) (r : Rule) : Prop :=
  ∀ c, (∃ fault, r.create c = .stopped fault) ∨
    ∃ state w, r.create c = pure ⟨state, [w]⟩ ∧ ∀ v, (w.start v).Lone online

theorem single_lone {work : Context → Visit → Action σ Unit} (h : ∀ c v, (work c v).Lone online) :
    (Rule.single name text selector state work).Lone online :=
  fun c => .inr ⟨_, _, rfl, h c⟩

-- The rule as it is set up for a document.
def activate? (c : Context) (r : Rule) : Option ActiveRule :=
  match r.setup c with
  | .ok setup => some (.ofSetup r.id setup)
  | .error _ => none

variable {r : Rule} {c : Context} {a : ActiveRule} {online : Prop}

theorem activate?_id (h : r.activate? c = some a) : a.id = r.id := by
  unfold activate? at h
  split at h
  case h_1 => cases h; rfl
  case h_2 => cases h

theorem activate?_isSome_iff : (r.activate? c).isSome ↔ ∃ setup, r.setup c = .ok setup := by
  unfold activate?
  split
  case h_1 h => simp [h]
  case h_2 h => simp [h]

-- What goes wrong when a rule is set up for a document.
def fault? (r : Rule) (c : Context) : Option Fault :=
  match r.setup c with
  | .ok _ => none
  | .error f => some f

theorem setup_ok_iff : (∃ setup, r.setup c = .ok setup) ↔ r.fault? c = none := by
  unfold fault?
  cases r.setup c <;> simp

theorem setup_error_iff {f : Fault} : r.setup c = .error f ↔ r.fault? c = some f := by
  unfold fault?
  cases r.setup c <;> simp

theorem Lone.activate (hl : r.Lone online) (h : r.activate? c = some a) :
    a.Lone online ∧ ∃ setup, r.create c = pure setup ∧ a = .ofSetup r.id setup := by
  obtain ⟨_, hc⟩ | ⟨state, w, hc, hw⟩ := hl c
  case inl => simp [activate?, setup, hc, Action.run] at h
  case inr =>
    have ha : a = .ofSetup r.id ⟨state, [w]⟩ := by
      simp [activate?, setup, hc, Pure.pure, Action.run] at h
      exact h.symm
    exact ⟨ha ▸ ⟨w, rfl, hw⟩, _, hc, ha⟩

end Rule

-- The rules that can be set up for a document, as they are at the start of a run.
def activeRules (c : Context) (rules : List Rule) : List ActiveRule :=
  rules.filterMap (·.activate? c)

section

variable {c : Context} {rules : List Rule} {online : Prop}

theorem filter_activeRules (c : Context) (rules : List Rule) (p : String → Bool) :
    (activeRules c rules).filter (p ·.id) = activeRules c (rules.filter (p ·.id)) := by
  induction rules
  case nil => rfl
  case cons r rules ih =>
    simp only [activeRules, List.filterMap_cons, List.filter_cons] at ih ⊢
    cases ha : r.activate? c
    case none => by_cases h : p r.id <;> simp [h, ha, ih]
    case some a => by_cases h : p r.id <;> simp [r.activate?_id ha, h, ha, ih]

theorem filter_ids_of_sublist (h : rules'.Sublist rules) (hn : (rules.map (·.id)).Nodup) :
    rules.filter (fun r => (rules'.map (·.id)).contains r.id) = rules' := by
  induction h
  case slnil => rfl
  case cons rules' rules r h ih =>
    have ⟨hr, hn⟩ := List.nodup_cons.mp hn
    have hr : r.id ∉ rules'.map (·.id) := fun hm => hr ((h.map _).subset hm)
    rw [List.filter_cons_of_neg (by simpa using hr), ih hn]
  case cons_cons rules' rules r h ih =>
    have ⟨hr, hn⟩ := List.nodup_cons.mp hn
    have hc : ∀ r' ∈ rules, ((r :: rules').map (·.id)).contains r'.id =
        (rules'.map (·.id)).contains r'.id := by
      intro r' hm
      have : r'.id ≠ r.id := fun he => hr (List.mem_map.mpr ⟨r', hm, he⟩)
      simp [this]
    rw [List.filter_cons_of_pos (by simp), List.filter_congr hc, ih hn]

theorem activeRules_lone (h : ∀ r ∈ rules, r.Lone online) :
    ∀ a ∈ activeRules c rules, a.Lone online := by
  intro a ha
  have ⟨r, hr, he⟩ := List.mem_filterMap.mp ha
  exact ((h r hr).activate he).left

theorem createAll_lone (h : ∀ r ∈ rules, r.Lone online) (hs : ∀ r ∈ rules, (r.activate? c).isSome)
    (t : Trace) (created : List String) :
    createAll c rules t created = (.ok (activeRules c rules), t, created ++ rules.map (·.id)) := by
  induction rules generalizing created
  case nil => simp [createAll, activeRules]
  case cons r rules ih =>
    obtain ⟨hr, hrs⟩ := List.forall_mem_cons.mp h
    obtain ⟨hsr, hsrs⟩ := List.forall_mem_cons.mp hs
    obtain ⟨a, ha⟩ := Option.isSome_iff_exists.mp hsr
    obtain ⟨_, setup, hc, he⟩ := hr.activate ha
    have hrun : (r.create c).run ⟨t, ()⟩ = (.ok setup, ⟨t, ()⟩) := by rw [hc]; rfl
    simp [createAll, hrun, ih hrs hsrs, activeRules, ha, he]

theorem createAll_trace (h : ∀ r ∈ rules, r.Lone online) (t : Trace) (created : List String) :
    (createAll c rules t created).2.1 = t := by
  induction rules generalizing created
  case nil => rfl
  case cons r rules ih =>
    have ⟨hr, hrs⟩ := List.forall_mem_cons.mp h
    obtain ⟨fault, hc⟩ | ⟨state, w, hc, _⟩ := hr c
    case inl => cases fault <;> simp [createAll, hc, Action.run]
    case inr =>
      have hrun : (r.create c).run ⟨t, ()⟩ = (.ok ⟨state, [w]⟩, ⟨t, ()⟩) := by rw [hc]; rfl
      have := ih hrs (created ++ [r.id])
      simp only [createAll, hrun]
      split <;> simp_all

end

-- What a rule finds on some nodes when it is the only one.
def Rule.found (r : Rule) (c : Context) (vs : List Visit) : List Finding :=
  (contributions vs (activeRules c [r])).flatMap (·.effect.findings)

-- What a rule has found in a run, by the record of it.
def Outcome.found (o : Outcome) (rule : String) : List Finding :=
  (o.trace.dispatches.filter (·.rule = rule)).flatMap (·.findings)

theorem Adds.found {o : Outcome} (h : Adds cs {} o.trace) (rule : String) :
    o.found rule = (cs.filter (·.rule = rule)).flatMap (·.effect.findings) := by
  have hf := congrArg (List.flatMap (·.2)) (h.findings_of_rule rule)
  simp only [List.flatMap_map] at hf
  rw [Outcome.found, hf]

namespace Engine

-- What the rules of an engine add to a run on a document, each of them by itself.
def contributions (e : Engine) (root : Node) (path : Option String) : List Contribution :=
  ProposalLint.contributions (Visit.mk 0 root).walk (activeRules (contextOf root path) e.active)

variable {e : Engine} {rules : List Rule} {config : Config} {root : Node} {path : Option String}
  {s : Scheduler} {online : Prop}

-- What is left of a run of rules of their own, also of one that fails.
theorem validateTree_adds (hb : build rules config = .ok e) (hl : ∀ r ∈ e.active, r.Lone online)
    (hs : ∀ r ∈ e.active, (r.activate? (contextOf root path)).isSome) :
    let cs := e.contributions root path
    let o := e.validateTree root path s
    Adds (upToFault cs) {} o.trace ∧ o.result = match firstError? cs with
      | some error => .error error
      | none => ProposalLint.messages (cs.flatMap (·.reports)) := by
  have hc := createAll_lone hl hs {} []
  have ⟨st, hv, hx⟩ := visitAll_contributions (s := s) (Visit.mk 0 root).walk ⟨{}, s.start⟩
    (activeRules_lone (c := contextOf root path) hl) rfl
  have hr := hx.reports
  rw [← contributions] at hv hx hr
  simp only [contextOf] at hc hv
  simp only [validateTree, firstRepeated?_eq_none_iff.mpr (active_nodup hb), hc, hv]
  cases he : firstError? (e.contributions root path)
  case some error => exact ⟨hx, rfl⟩
  case none =>
    rw [upToFault_of_none he] at hr
    exact ⟨hx, by simp [hr]⟩

theorem validateTree_trace_of_fault {fault : Fault} (hb : build rules config = .ok e)
    (hl : ∀ r ∈ e.active, r.Lone online) (ha : e.active = before ++ r :: after)
    (hs : ∀ b ∈ before, ∃ setup, b.setup (contextOf root path) = .ok setup)
    (hf : r.setup (contextOf root path) = .error fault) :
    (e.validateTree root path s).trace = {} := by
  have ⟨t, hc, _⟩ := createAll_error [] after Trace.fresh_empty hs hf
  have ht := createAll_trace (c := contextOf root path) hl {} []
  rw [← ha] at hc
  rw [hc] at ht
  simp only [contextOf] at hc
  simpa only [validateTree, firstRepeated?_eq_none_iff.mpr (active_nodup hb), hc] using ht

-- A run leaves what its rules add up to some point, and all of it if it succeeds.
theorem validateTree_adds_prefix (hb : build rules config = .ok e)
    (hl : ∀ r ∈ e.active, r.Lone online) (root : Node) (path : Option String) (s : Scheduler) :
    let o := e.validateTree root path s
    ∃ cs, cs <+: e.contributions root path ∧ Adds cs {} o.trace ∧
      ∀ ms, o.result = .ok ms → cs = e.contributions root path := by
  cases setups_or_first_fault (contextOf root path) e.active
  case inr h =>
    have ⟨_, _, _, _, ha, hs, hf⟩ := h
    have ht := validateTree_trace_of_fault (s := s) hb hl ha hs hf
    have hr := validateTree_of_fault (s := s) hb ha hs hf
    exact ⟨[], List.nil_prefix, by rw [ht]; exact .refl rfl, by simp [hr]⟩
  case inl hs =>
    have ⟨hx, hr⟩ := validateTree_adds (s := s) hb hl
      fun r hr => Rule.activate?_isSome_iff.mpr (hs r hr)
    refine ⟨_, upToFault_prefix _, hx, fun ms ok => ?_⟩
    rw [hr] at ok
    cases hf : firstError? (e.contributions root path)
    case none => exact upToFault_of_none hf
    case some => simp [hf] at ok

theorem validateTree_eq_ok_iff (hb : build rules config = .ok e)
    (hl : ∀ r ∈ e.active, r.Lone online) :
    (e.validateTree root path s).result = .ok ms ↔
      (∀ r ∈ e.active, (r.activate? (contextOf root path)).isSome) ∧
      (∀ c ∈ e.contributions root path, c.Clean) ∧
      ms = (e.contributions root path).flatMap (·.messages) := by
  cases setups_or_first_fault (contextOf root path) e.active
  case inr h =>
    have ⟨_, r, _, _, ha, hs, hf⟩ := h
    simp only [validateTree_of_fault (s := s) hb ha hs hf, reduceCtorEq, false_iff]
    intro ⟨hs, _⟩
    have := hs r (by simp [ha])
    simp [Rule.activate?, hf] at this
  case inl hs =>
    have hs : ∀ r ∈ e.active, (r.activate? (contextOf root path)).isSome :=
      fun r hr => Rule.activate?_isSome_iff.mpr (hs r hr)
    rw [(validateTree_adds hb hl hs).right, clean_iff]
    cases firstError? (e.contributions root path)
    case some => simp
    case none =>
      simp only [messages_eq_ok_iff, List.filterMap_flatMap]
      exact ⟨fun ⟨hp, hm⟩ => ⟨hs, ⟨trivial, hp⟩, hm⟩, fun ⟨_, ⟨_, hp⟩, hm⟩ => ⟨hp, hm⟩⟩

-- Rules that say the same let a run come out the same, also one that fails.
theorem validateTree_result_congr {e' : Engine} {rules' : List Rule} (hb : build rules config = .ok e)
    (hb' : build rules' config = .ok e') (hl : ∀ r ∈ e.active, r.Lone online)
    (hl' : ∀ r ∈ e'.active, r.Lone online)
    (hs : ∀ r ∈ e.active, r.fault? (contextOf root path) = none)
    (hs' : ∀ r ∈ e'.active, r.fault? (contextOf root path) = none)
    (hc : (e.contributions root path).map (·.bare) = (e'.contributions root path).map (·.bare))
    (s' : Scheduler) :
    (e.validateTree root path s).result = (e'.validateTree root path s').result := by
  have activates {r : Rule} (h : r.fault? (contextOf root path) = none) :
      (r.activate? (contextOf root path)).isSome :=
    Rule.activate?_isSome_iff.mpr (Rule.setup_ok_iff.mpr h)
  rw [(validateTree_adds hb hl fun r hr => activates (hs r hr)).right,
    (validateTree_adds hb' hl' fun r hr => activates (hs' r hr)).right]
  -- Neither the first error nor the reports depend on more than the bare contributions.
  rw [← Contribution.firstError?_bare, ← Contribution.reports_bare, hc,
    Contribution.firstError?_bare, Contribution.reports_bare]

theorem filter_contributions (e : Engine) (root : Node) (path : Option String)
    (p : String → Bool) : (e.contributions root path).filter (p ·.rule) =
      (Engine.mk (e.rules.filter (p ·.id)) e.config).contributions root path := by
  simp [contributions, ProposalLint.filter_contributions, filter_activeRules, active,
    List.filter_filter, Bool.and_comm]

-- What a rule adds among others is what it adds as the only one.
theorem own_contributions {r : Rule} (hn : (e.rules.map (·.id)).Nodup) (hr : r ∈ e.rules) :
    (e.contributions root path).filter (·.rule = r.id) =
      (Engine.mk [r] e.config).contributions root path := by
  have he : e.rules.filter (·.id = r.id) = [r] := by
    simpa using filter_ids_of_sublist (List.singleton_sublist.mpr hr) hn
  rw [← he, filter_contributions e root path (· = r.id)]

-- What a rule finds among others is what it finds as the only one.
theorem own_findings {r : Rule} (hn : (rules.map (·.id)).Nodup) (hr : r ∈ rules)
    (he : config.isEnabled r.id) (root : Node) (path : Option String) :
    (((Engine.mk rules config).contributions root path).filter (·.rule = r.id)).flatMap
        (·.effect.findings) = r.found (contextOf root path) (Visit.mk 0 root).walk := by
  have ha : (Engine.mk [r] config).active = [r] := by simp [active, he]
  have hown := @own_contributions ⟨rules, config⟩ root path r hn hr
  rw [hown, Engine.contributions, ha, Rule.found]

theorem exists_rule_of_mem_contributions
    (h : c ∈ (Engine.mk rules config).contributions root path) :
    ∃ r ∈ rules, config.isEnabled r.id ∧ c.rule = r.id := by
  have ⟨a, ha, hc⟩ := mem_contributions_iff.mp h
  have ⟨r, hr, ha⟩ := List.mem_filterMap.mp ha
  have ⟨hr, he⟩ := List.mem_filter.mp hr
  exact ⟨r, hr, he, (rule_of_mem_contributions hc).trans (Rule.activate?_id ha)⟩

theorem found_of_adds {r : Rule} {o : Outcome} (hb : build rules config = .ok e) (hr : r ∈ rules)
    (he : config.isEnabled r.id) (hx : Adds (e.contributions root path) {} o.trace) :
    o.found r.id = r.found (contextOf root path) (Visit.mk 0 root).walk := by
  have ⟨hn, hm⟩ := build_eq_ok_iff.mp hb
  subst hm
  rw [hx.found, own_findings hn hr he root path]

-- A rule finds among others what it finds as the only one, and each finding becomes a message.
theorem validateTree_found {r : Rule} (hb : build rules config = .ok e)
    (hl : ∀ r ∈ rules, r.Lone online) (hr : r ∈ rules) (he : config.isEnabled r.id)
    (ok : (e.validateTree root path s).result = .ok ms) :
    let o := e.validateTree root path s
    o.found r.id = r.found (contextOf root path) (Visit.mk 0 root).walk ∧
      (ms.filter (·.ruleId = r.id)).map some =
        (o.found r.id).map fun f => (f.report r.id).message? := by
  have ⟨hn, hm⟩ := build_eq_ok_iff.mp hb
  subst hm
  have hla : ∀ r ∈ (Engine.mk rules config).active, r.Lone online :=
    fun r hr => hl r (List.mem_of_mem_filter hr)
  have ⟨_, hc, hms⟩ := (validateTree_eq_ok_iff hb hla).mp ok
  have ⟨cs, _, hx, hall⟩ := validateTree_adds_prefix hb hla root path s
  rw [hall ms ok] at hx
  have hfound := found_of_adds hb hr he hx
  refine ⟨hfound, ?messages⟩
  case messages =>
    rw [hfound, ← own_findings hn hr he root path, hms, filter_messages _ (· = r.id), List.map_flatMap,
      List.map_flatMap]
    refine List.flatMap_congr fun c hcm => ?_
    have ⟨hcm, hid⟩ := List.mem_filter.mp hcm
    rw [(hc c hcm).messages, of_decide_eq_true hid]

variable {e' : Engine} {rules' : List Rule}

-- An engine with fewer rules succeeds where one with more does.
theorem validateTree_of_subset (hb : build rules config = .ok e)
    (hb' : build rules' config = .ok e') (hl : ∀ r ∈ rules, r.Lone online) (h : rules' ⊆ rules)
    (ok : (e.validateTree root path s).result = .ok ms) (s' : Scheduler) :
    (e'.validateTree root path s').result =
      .ok ((e'.contributions root path).flatMap (·.messages)) := by
  have ⟨_, he⟩ := build_eq_ok_iff.mp hb
  have ⟨_, he'⟩ := build_eq_ok_iff.mp hb'
  subst he he'
  have ha : (Engine.mk rules' config).active ⊆ (Engine.mk rules config).active :=
    List.filter_subset _ h
  have hla : ∀ r ∈ (Engine.mk rules config).active, r.Lone online :=
    fun r hr => hl r (List.mem_of_mem_filter hr)
  have ⟨hs, hc, _⟩ := (validateTree_eq_ok_iff hb hla).mp ok
  refine (validateTree_eq_ok_iff hb' fun r hr => hla r (ha hr)).mpr
    ⟨fun r hr => hs r (ha hr), fun c hm => hc c ?_, rfl⟩
  have ⟨a, har, hm⟩ := mem_contributions_iff.mp hm
  exact mem_contributions_iff.mpr ⟨a, List.filterMap_subset _ ha har, hm⟩

-- An engine with some of the rules gives the messages of these rules.
theorem validateTree_of_sublist (hb : build rules config = .ok e)
    (hb' : build rules' config = .ok e') (hl : ∀ r ∈ rules, r.Lone online)
    (h : rules'.Sublist rules) (ok : (e.validateTree root path s).result = .ok ms) (s' : Scheduler) :
    (e'.validateTree root path s').result =
      .ok (ms.filter fun m => (rules'.map (·.id)).contains m.ruleId) := by
  rw [validateTree_of_subset hb hb' hl h.subset ok s']
  have ⟨hn, he⟩ := build_eq_ok_iff.mp hb
  have ⟨_, he'⟩ := build_eq_ok_iff.mp hb'
  subst he he'
  have ⟨_, _, hm⟩ :=
    (validateTree_eq_ok_iff hb fun r hr => hl r (List.mem_of_mem_filter hr)).mp ok
  rw [hm, filter_messages _ (rules'.map (·.id)).contains, filter_contributions,
    filter_ids_of_sublist h hn]

-- An engine with the same rules in another order gives the same messages in another order.
theorem validateTree_of_perm (hb : build rules config = .ok e) (hb' : build rules' config = .ok e')
    (hl : ∀ r ∈ rules, r.Lone online) (h : rules'.Perm rules)
    (ok : (e.validateTree root path s).result = .ok ms) (s' : Scheduler) :
    ∃ ms', (e'.validateTree root path s').result = .ok ms' ∧ ms'.Perm ms := by
  refine ⟨_, validateTree_of_subset hb hb' hl h.subset ok s', ?_⟩
  have ⟨_, he⟩ := build_eq_ok_iff.mp hb
  have ⟨_, he'⟩ := build_eq_ok_iff.mp hb'
  subst he he'
  have ⟨_, _, hm⟩ :=
    (validateTree_eq_ok_iff hb fun r hr => hl r (List.mem_of_mem_filter hr)).mp ok
  rw [hm]
  exact (contributions_perm _ ((h.filter _).filterMap _)).flatMap_right _

end Engine
end ProposalLint

import ProposalLint.Proofs.Engine.Harmless
import ProposalLint.Proofs.Engine.Separate

namespace ProposalLint

open Contribution

theorem Action.Harmless.fault?_alone {σ α : Type} {P : Node → Prop} {a : Action σ α}
    (h : a.Harmless P) (rule : String) (count : Nat) (s : σ) :
    (a.alone rule count s).fault? = none := by
  induction h generalizing count s
  case done => rfl
  case reporting ih => simpa [alone] using ih (count + 1) s
  case noting ih | requesting ih | launching ih | yielding ih => simpa [alone] using ih count s
  case askingRule ih => exact ih (some rule) count s
  case askingCount ih => exact ih count count s
  case updating ih => exact ih s count _

namespace Contribution

-- It leaves a run as it is.
structure Idle (c : Contribution) : Prop where
  fault  : c.fault = none
  effect : c.effect = {}

theorem firstError?_eq_none_of_idle (h : ∀ c ∈ cs, Idle c) : firstError? cs = none :=
  firstError?_eq_none_iff.mpr fun c hc => (h c hc).fault

variable {before after : List Contribution} (own : List Contribution)

theorem firstError?_of_idle (hb : ∀ c ∈ before, c.Idle) (ha : ∀ c ∈ after, c.Idle) :
    firstError? (before ++ own ++ after) = firstError? own := by
  rw [firstError?_append, firstError?_append, firstError?_eq_none_of_idle hb,
    firstError?_eq_none_of_idle ha, Option.none_or, Option.or_none]

theorem flatMap_of_idle {f : Effect → List α} (hf : f {} = []) (hb : ∀ c ∈ before, c.Idle)
    (ha : ∀ c ∈ after, c.Idle) :
    (before ++ own ++ after).flatMap (f ·.effect) = own.flatMap (f ·.effect) := by
  have nil {cs : List Contribution} (h : ∀ c ∈ cs, c.Idle) : cs.flatMap (f ·.effect) = [] :=
    List.flatMap_eq_nil_iff.mpr fun c hc => by rw [(h c hc).effect, hf]
  rw [List.flatMap_append, List.flatMap_append, nil hb, nil ha, List.nil_append, List.append_nil]

theorem upToFault_of_idle (hb : ∀ c ∈ before, c.Idle) (ha : ∀ c ∈ after, c.Idle) :
    ∃ rest, (∀ c ∈ rest, c.Idle) ∧
      upToFault (before ++ own ++ after) = before ++ upToFault own ++ rest := by
  rw [List.append_assoc, upToFault_append_of_none (firstError?_eq_none_of_idle hb)]
  cases he : firstError? own
  case some => exact ⟨[], by simp, by rw [upToFault_append_of_some he, List.append_nil]⟩
  case none =>
    refine ⟨after, ha, ?_⟩
    rw [upToFault_append_of_none he, upToFault_of_none he,
      upToFault_of_none (firstError?_eq_none_of_idle ha), List.append_assoc]

end Contribution

namespace ActiveRule

-- The validators of the rule do no harm.
def Harmless (a : ActiveRule) : Prop :=
  ∀ w ∈ a.validators, ∀ v : Visit, (w.start v).Harmless (· ∈ v.node.preorder)

variable {a : ActiveRule}

theorem Harmless.contribute (h : a.Harmless) (v : Visit) :
    (a.contribute v).1.Harmless ∧ (a.contribute v).2.fault = none := by
  unfold ActiveRule.contribute
  split
  case h_1 w hw =>
    split
    case isTrue => exact ⟨h, (h w (by simp [hw]) v).fault?_alone ..⟩
    case isFalse => exact ⟨h, rfl⟩
  case h_2 => exact ⟨h, rfl⟩

end ActiveRule

theorem firstError?_of_harmless {as : List ActiveRule} (h : ∀ a ∈ as, a.Harmless)
    (vs : List Visit) : firstError? (contributions vs as) = none := by
  induction vs generalizing as
  case nil => rfl
  case cons v vs ih =>
    have hnow : firstError? (as.map fun a => (a.contribute v).2) = none := by
      rw [firstError?_eq_none_iff]
      simpa using fun a ha => ((h a ha).contribute v).right
    have hnext : ∀ a ∈ as.map (fun a => (a.contribute v).1), a.Harmless := by
      simpa using fun a ha => ((h a ha).contribute v).left
    rw [contributions, firstError?_append, hnow, ih hnext, Option.or_none]

theorem Rule.Harmless.activate {r : Rule} (h : r.Harmless) (c : Context) :
    ∃ a, r.activate? c = some a ∧ a.Harmless := by
  have ⟨setup, hs, hw⟩ := h c
  exact ⟨.ofSetup r.id setup, by simp [activate?, hs], hw⟩

-- A report that cannot be placed is an error, so that silence means that there are no reports.
theorem messages_eq_nil_iff {reports : List Report} : messages reports = .ok [] ↔ reports = [] := by
  rw [messages_eq_ok_iff]
  constructor
  case mp =>
    intro ⟨hp, hm⟩
    rw [List.eq_nil_iff_forall_not_mem]
    intro r hr
    have ⟨p, hp⟩ := Option.isSome_iff_exists.mp (hp r hr)
    have hnone := List.filterMap_eq_nil_iff.mp hm.symm r hr
    simp [Report.message?, hp] at hnone
  case mpr =>
    intro h
    simp [h]

namespace Engine

variable {e : Engine} {rules : List Rule} {config : Config} {root : Node} {path : Option String}
  {s : Scheduler} {online : Prop}

-- Rules that do no harm and take no notice of each other add all that they have to say, also where
-- a node has no position.
theorem validateTree_adds_all (hb : build rules config = .ok e)
    (hl : ∀ r ∈ rules, r.Lone online) (hh : ∀ r ∈ rules, r.Harmless) (root : Node)
    (path : Option String) (s : Scheduler) :
    let cs := e.contributions root path
    let o := e.validateTree root path s
    Adds cs {} o.trace ∧ o.result = ProposalLint.messages (cs.flatMap (·.reports)) := by
  have ⟨_, he⟩ := build_eq_ok_iff.mp hb
  subst he
  let active := (Engine.mk rules config).active
  have hla : ∀ r ∈ active, r.Lone online := fun r hr => hl r (List.mem_of_mem_filter hr)
  have hha : ∀ r ∈ active, r.Harmless := fun r hr => hh r (List.mem_of_mem_filter hr)
  have hs : ∀ r ∈ active, (r.activate? (contextOf root path)).isSome := by
    intro r hr
    have ⟨_, ha, _⟩ := (hha r hr).activate (contextOf root path)
    simp [ha]
  have hrules : ∀ a ∈ activeRules (contextOf root path) active, a.Harmless := by
    intro a ha
    have ⟨r, hr, ha⟩ := List.mem_filterMap.mp ha
    have ⟨_, ha', h⟩ := (hha r hr).activate (contextOf root path)
    cases ha.symm.trans ha'
    exact h
  have hn : firstError? ((Engine.mk rules config).contributions root path) = none :=
    firstError?_of_harmless hrules _
  have ⟨hx, hres⟩ := validateTree_adds (s := s) hb hla hs
  rw [upToFault_of_none hn] at hx
  exact ⟨hx, by simpa [hn] using hres⟩

theorem found_of_harmless {r : Rule} (hb : build rules config = .ok e)
    (hl : ∀ r ∈ rules, r.Lone online) (hh : ∀ r ∈ rules, r.Harmless) (hr : r ∈ rules)
    (he : config.isEnabled r.id) :
    (e.validateTree root path s).found r.id =
      r.found (contextOf root path) (Visit.mk 0 root).walk := by
  have ⟨hx, _⟩ := validateTree_adds_all hb hl hh root path s
  exact found_of_adds hb hr he hx

-- A run is silent exactly if none of its rules finds anything.
theorem result_eq_nil_iff (hb : build rules config = .ok e)
    (hl : ∀ r ∈ rules, r.Lone online) (hh : ∀ r ∈ rules, r.Harmless) :
    (e.validateTree root path s).result = .ok [] ↔ ∀ r ∈ rules, config.isEnabled r.id →
      r.found (contextOf root path) (Visit.mk 0 root).walk = [] := by
  have ⟨_, hres⟩ := validateTree_adds_all hb hl hh root path s
  have ⟨hn, he⟩ := build_eq_ok_iff.mp hb
  subst he
  rw [hres, messages_eq_nil_iff]
  constructor
  case mp =>
    intro h r hr he
    rw [← own_findings hn hr he root path, List.flatMap_eq_nil_iff]
    intro c hc
    have := List.flatMap_eq_nil_iff.mp h c (List.mem_of_mem_filter hc)
    simpa [reports] using this
  case mpr =>
    intro h
    rw [List.flatMap_eq_nil_iff]
    intro c hc
    obtain ⟨r, hr, he, hid⟩ := exists_rule_of_mem_contributions hc
    have hown := own_findings hn hr he root path
    rw [h r hr he, List.flatMap_eq_nil_iff] at hown
    simp [reports, hown c (List.mem_filter.mpr ⟨hc, by simpa using hid⟩)]

section Single

variable {r : Rule}

theorem rule_of_single (h : c ∈ (Engine.mk [r] {}).contributions root path) : c.rule = r.id := by
  have ⟨r', hr, _, hid⟩ := exists_rule_of_mem_contributions h
  rw [hid, List.mem_singleton.mp hr]

theorem reports_of_single (r : Rule) (root : Node) (path : Option String) :
    let cs := (Engine.mk [r] {}).contributions root path
    cs.flatMap (·.reports) = (cs.flatMap (·.effect.findings)).map (·.report r.id) := by
  intro cs
  rw [List.map_flatMap]
  exact List.flatMap_congr fun c hc => by rw [reports, rule_of_single hc]

-- A rule that is the only one leaves what it finds.
theorem result_of_single (hl : r.Lone online) (hh : r.Harmless) :
    ((Engine.mk [r] {}).validateTree root path s).result = ProposalLint.messages
      ((r.found (contextOf root path) (Visit.mk 0 root).walk).map (·.report r.id)) := by
  have hb : build [r] {} = .ok ⟨[r], {}⟩ := rfl
  have ha : (Engine.mk [r] {}).active = [r] := rfl
  have ⟨_, hres⟩ := validateTree_adds_all hb (by simpa using hl) (by simpa using hh) root path s
  rw [hres, reports_of_single, Engine.contributions, ha, Rule.found]

-- The run of a rule leaves what the rule does where it is not idle.
theorem validateTree_of_idle {own before after : List Contribution} (hl : r.Lone online)
    (hs : (r.activate? (contextOf root path)).isSome)
    (hc : (Engine.mk [r] {}).contributions root path = before ++ own ++ after)
    (hb : ∀ c ∈ before, c.Idle) (ha : ∀ c ∈ after, c.Idle) (s : Scheduler) :
    let o := (Engine.mk [r] {}).validateTree root path s
    o.trace.launches = (upToFault own).flatMap (·.effect.launches) ∧
      o.found r.id = (upToFault own).flatMap (·.effect.findings) ∧
      o.result = match firstError? own with
        | some error => .error error
        | none => ProposalLint.messages
          ((own.flatMap (·.effect.findings)).map (·.report r.id)) := by
  have hbuild : build [r] {} = .ok ⟨[r], {}⟩ := rfl
  have hactive : (Engine.mk [r] {}).active = [r] := rfl
  have hsetup : ∀ r' ∈ (Engine.mk [r] {}).active, (r'.activate? (contextOf root path)).isSome := by
    simpa [hactive] using hs
  have ⟨hx, hres⟩ := validateTree_adds (s := s) hbuild (by simpa [hactive] using hl) hsetup
  have hrule : ∀ c ∈ (Engine.mk [r] {}).contributions root path, c.rule = r.id :=
    fun _ => rule_of_single
  rw [reports_of_single] at hres
  rw [hc] at hx hres hrule
  have ⟨rest, hrest, hup⟩ := upToFault_of_idle own hb ha
  refine ⟨?launches, ?found, ?result⟩
  case launches =>
    have hlaunches := hx.launches
    rw [hup] at hlaunches
    exact hlaunches.trans (flatMap_of_idle _ rfl hb hrest)
  case found =>
    have hsub := upToFault_prefix (before ++ own ++ after)
    have hown : (upToFault (before ++ own ++ after)).filter (·.rule = r.id) =
        upToFault (before ++ own ++ after) :=
      List.filter_eq_self.mpr fun c hm => decide_eq_true (hrule c (hsub.subset hm))
    rw [hx.found, hown, hup]
    exact flatMap_of_idle _ rfl hb hrest
  case result =>
    have hfindings := flatMap_of_idle own (f := Effect.findings) rfl hb ha
    rw [firstError?_of_idle own hb ha, hfindings] at hres
    exact hres

end Single

-- A rule leaves a message exactly if it finds something.
theorem exists_message_iff {r : Rule} (hb : build rules config = .ok e)
    (hl : ∀ r ∈ rules, r.Lone online) (hr : r ∈ rules) (he : config.isEnabled r.id)
    (ok : (e.validateTree root path s).result = .ok ms) :
    (∃ m ∈ ms, m.ruleId = r.id) ↔ r.found (contextOf root path) (Visit.mk 0 root).walk ≠ [] := by
  have ⟨hfound, hms⟩ := validateTree_found hb hl hr he ok
  have hlen := congrArg List.length hms
  rw [hfound, List.length_map, List.length_map] at hlen
  rw [← List.length_pos_iff, ← hlen, List.length_pos_iff]
  simp [List.filter_eq_nil_iff]

theorem forall_message_iff {r : Rule} (hb : build rules config = .ok e)
    (hl : ∀ r ∈ rules, r.Lone online) (hr : r ∈ rules) (he : config.isEnabled r.id)
    (ok : (e.validateTree root path s).result = .ok ms) :
    (∀ m ∈ ms, m.ruleId ≠ r.id) ↔ r.found (contextOf root path) (Visit.mk 0 root).walk = [] := by
  simpa using not_congr (exists_message_iff hb hl hr he ok)

end Engine
end ProposalLint

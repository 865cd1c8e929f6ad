import ProposalLint.Proofs.Rules.Links

namespace ProposalLint

open Rules

-- How the work that runs side by side gets on in a run: the checks of links, and the validators of
-- a rule.
structure Timing where
  turns     : Nat → List Nat
  scheduler : Scheduler

def World.withTurns (world : World) (turns : Nat → List Nat) : World :=
  { world with turns := turns }

theorem linkRule_alike (world : World) (turns : Nat → List Nat) :
    (linkRule world {}).Alike (linkRule (world.withTurns turns) {}) := by
  intro vs
  have ⟨_, _, _, h, _⟩ := linkRule_contributions (sound_empty world) vs
  have ⟨_, _, _, h', _⟩ := linkRule_contributions (sound_empty (world.withTurns turns)) vs
  exact h.trans h'.symm

namespace RuleName

variable {world : World} {s : RuleSettings} {names names' : List RuleName} {c : Context}
  {config : Config}

-- The turns of the checks make no difference to what is set up and what is said.
theorem activate?_withTurns (name : RuleName) (turns : Nat → List Nat) :
    Option.Rel ActiveRule.Alike ((name.rule world s).activate? c)
      ((name.rule (world.withTurns turns) s).activate? c) := by
  have refl (a : Option ActiveRule) : Option.Rel ActiveRule.Alike a a := by
    cases a
    case none => exact .none
    case some => exact .some fun _ => rfl
  cases name
  case badLink =>
    simp only [rule, activate?_badLink]
    split
    case isTrue => exact .none
    case isFalse => exact .some (linkRule_alike world turns)
  all_goals exact refl _

theorem activeRules_withTurns (turns : Nat → List Nat) :
    List.Forall₂ ActiveRule.Alike (activeRules c (names.map (rule world s)))
      (activeRules c (names.map (rule (world.withTurns turns) s))) := by
  induction names
  case nil => exact .nil
  case cons name names ih =>
    have h := @activate?_withTurns world s c name turns
    simp only [activeRules, List.map_cons, List.filterMap_cons] at ih ⊢
    generalize (name.rule world s).activate? c = a at h
    generalize (name.rule (world.withTurns turns) s).activate? c = a' at h
    cases h
    case none => exact ih
    case some h => exact .cons h ih

-- The engine with some of the rules.
def engine (world : World) (s : RuleSettings) (config : Config) (names : List RuleName) : Engine :=
  ⟨names.map (rule world s), config⟩

theorem build_engine (h : names.Nodup) :
    Engine.build (names.map (rule world s)) config = .ok (engine world s config names) :=
  Engine.build_eq_ok_iff.mpr ⟨ids_nodup h world s, rfl⟩

theorem engine_active : (engine world s config names).active =
    (names.filter fun name => config.isEnabled name.id).map (rule world s) := by
  simp [engine, Engine.active, List.filter_map, Function.comp_def, rule_id]

theorem fault?_withTurns (name : RuleName) (turns : Nat → List Nat) (c : Context) :
    (name.rule (world.withTurns turns) s).fault? c = (name.rule world s).fault? c := by
  cases name
  case badLink =>
    simp only [rule, Rule.fault?, Rules.badLink_setup]
    by_cases hp : Rules.maxPermits < s.links.permits
    case pos => simp only [if_pos hp]
    case neg => simp only [if_neg hp]
  all_goals rfl

-- The first rule that cannot be set up decides.
theorem validateTree_of_fault_at {root : Node} {path : Option String} (h : names.Nodup)
    (hn : names.filter (fun name => config.isEnabled name.id) = before ++ name :: after)
    (hs : ∀ b ∈ before, (b.rule world s).fault? (Engine.contextOf root path) = none)
    (hf : (name.rule world s).fault? (Engine.contextOf root path) = some fault)
    (sch : Scheduler) : ((engine world s config names).validateTree root path sch).result =
      .error ((name.rule world s).error fault) := by
  have ha : (engine world s config names).active =
      before.map (rule world s) ++ name.rule world s :: after.map (rule world s) := by
    simp [engine_active, hn]
  have hs : ∀ b ∈ before.map (rule world s),
      ∃ setup, b.setup (Engine.contextOf root path) = .ok setup :=
    List.forall_mem_map.mpr fun b hb => Rule.setup_ok_iff.mpr (hs b hb)
  exact (Engine.validateTree_of_fault (build_engine h) ha hs (Rule.setup_error_iff.mpr hf)).left

-- A run comes out the same, however the work that runs side by side gets on.
theorem validateTree_timing {root : Node} {path : Option String} (h : names.Nodup)
    (turns : Nat → List Nat) (sch sch' : Scheduler) :
    ((engine world s config names).validateTree root path sch).result =
      ((engine (world.withTurns turns) s config names).validateTree root path sch').result := by
  let c := Engine.contextOf root path
  let enabled := names.filter fun name => config.isEnabled name.id
  have hl (world : World) : ∀ r ∈ (engine world s config names).active, r.Lone True :=
    fun _ hr => lone_of_mem_map (List.mem_of_mem_filter hr)
  cases forall_or_first_not (fun name : RuleName => (name.rule world s).fault? c = none) enabled
  case inr hf =>
    have ⟨before, name, after, hn, hb, hname⟩ := hf
    have ⟨fault, hname⟩ := Option.ne_none_iff_exists'.mp hname
    rw [validateTree_of_fault_at h hn hb hname,
      validateTree_of_fault_at h hn (by simpa only [fault?_withTurns] using hb)
        (by simpa only [fault?_withTurns] using hname)]
    simp only [Rule.error, rule_id]
  case inl hs =>
    refine Engine.validateTree_result_congr (build_engine h) (build_engine h) (hl _) (hl _)
      ?setups ?setups' ?said sch'
    case setups =>
      rw [engine_active]
      exact List.forall_mem_map.mpr hs
    case setups' =>
      rw [engine_active]
      exact List.forall_mem_map.mpr fun name hm =>
        (fault?_withTurns name turns c).trans (hs name hm)
    case said =>
      simp only [Engine.contributions, engine_active]
      exact contributions_alike (activeRules_withTurns turns) _

end RuleName

-- What can be told of checks of one document with some of the rules, given how such a check comes
-- out: a rule has the same messages among others and by itself.
structure Separate (check : List RuleName → Timing → Outcome) (names : List RuleName) : Prop where
  alone     : ∀ t ms, (check names t).result = .ok ms → ∀ r ∈ names, ∀ t',
    (check [r] t').result = .ok (ms.filter (·.ruleId = r.id))
  reordered : ∀ t ms, (check names t).result = .ok ms → ∀ names', names'.Perm names → ∀ t',
    ∃ ms', (check names' t').result = .ok ms' ∧ ms'.Perm ms
  added     : ∀ before r after, names = before ++ r :: after → ∀ t ms,
    (check names t).result = .ok ms → ∀ t',
      (check (before ++ after) t').result = .ok (ms.filter (·.ruleId ≠ r.id))

namespace RuleName

variable {world : World} {s : RuleSettings} {names names' : List RuleName} {config : Config}
  {root : Node} {path : Option String} {sch : Scheduler}

theorem ruleId_of_mem (h : names.Nodup)
    (ok : ((engine world s config names).validateTree root path sch).result = .ok ms)
    (hm : m ∈ ms) : ∃ name ∈ names, m.ruleId = name.id := by
  have ⟨_, _, he⟩ := (Engine.validateTree_eq_ok_iff (build_engine h) fun _ hr =>
    lone_of_mem_map (List.mem_of_mem_filter hr)).mp ok
  have ⟨c, hc, hm⟩ := List.mem_flatMap.mp (he ▸ hm)
  have ⟨a, ha, hc⟩ := mem_contributions_iff.mp hc
  have ⟨r, hr, ha⟩ := List.mem_filterMap.mp ha
  have ⟨name, hn, hr⟩ := List.mem_map.mp (List.mem_of_mem_filter hr)
  refine ⟨name, hn, ?_⟩
  rw [Contribution.ruleId_of_mem_messages hm, rule_of_mem_contributions hc, Rule.activate?_id ha,
    ← hr, rule_id]

-- The check of a document with some of the rules.
def check (world : World) (s : RuleSettings) (config : Config) (root : Node) (path : Option String)
    (names : List RuleName) (t : Timing) : Outcome :=
  (engine (world.withTurns t.turns) s config names).validateTree root path t.scheduler

theorem check_timing (h : names.Nodup) {t : Timing}
    (ok : (check world s config root path names t).result = .ok ms) (t' : Timing) :
    (check world s config root path names t').result = .ok ms := by
  have same : (check world s config root path names t).result =
      (check world s config root path names t').result :=
    validateTree_timing h t'.turns t.scheduler t'.scheduler
  exact same.symm.trans ok

theorem check_sublist (h : names.Nodup) (hs : names'.Sublist names) {t : Timing}
    (ok : (check world s config root path names t).result = .ok ms) (t' : Timing) :
    (check world s config root path names' t').result =
      .ok (ms.filter fun m => (names'.map id).contains m.ruleId) := by
  have := Engine.validateTree_of_sublist (build_engine h) (build_engine (h.sublist hs))
    (fun _ => lone_of_mem_map) (hs.map _) (check_timing h ok t') t'.scheduler
  simpa [check, Function.comp_def, rule_id] using this

theorem separate (h : names.Nodup) (world : World) (s : RuleSettings) (config : Config)
    (root : Node) (path : Option String) : Separate (check world s config root path) names where
  alone t ms ok r hr t' := by
    simpa using check_sublist h (List.singleton_sublist.mpr hr) ok t'
  reordered t ms ok names' hp t' :=
    Engine.validateTree_of_perm (build_engine h) (build_engine (hp.nodup_iff.mpr h))
      (fun _ => lone_of_mem_map) (hp.map _) (check_timing h ok t') t'.scheduler
  added before r after hn t ms ok t' := by
    subst hn
    have hc : ∀ m ∈ ms,
        ((before ++ after).map id).contains m.ruleId = decide (m.ruleId ≠ r.id) := by
      intro m hm
      have ⟨name, hname, he⟩ := ruleId_of_mem h ok hm
      have hr : r ∉ before ++ after := (List.nodup_middle.mp h).notMem
      have hname : name ∈ before ++ after ↔ name ≠ r := by grind
      rw [Bool.eq_iff_iff]
      simpa [he, id_injective.eq_iff] using hname
    rw [← List.filter_congr hc]
    exact check_sublist h (by simp) ok t'

end RuleName

namespace Engine

-- No rule of the catalogue makes a difference to what another says, on a tree or on a text, and
-- however the work that runs side by side gets on.
theorem validate_separate (world : World) (s : RuleSettings) (config : Config)
    (names : List RuleName) (h : names.Nodup) (path : Option String) :
    let engineOf (names : List RuleName) (t : Timing) : Engine :=
      RuleName.engine (world.withTurns t.turns) s config names
    (∀ names' t, names'.Nodup →
      build (names'.map (RuleName.rule (world.withTurns t.turns) s)) config =
        .ok (engineOf names' t)) ∧
    (∀ root, Separate (fun names t => (engineOf names t).validateTree root path t.scheduler)
      names) ∧
    ∀ source, Separate (fun names t => (engineOf names t).validateSource source path t.scheduler)
      names := by
  intro engineOf
  refine ⟨?built, ?tree, ?source⟩
  case built => exact fun _ _ hn => RuleName.build_engine hn
  case tree => exact fun root => RuleName.separate h world s config root path
  case source => exact fun source => RuleName.separate h world s config (Markdown.parse source) path

-- Two rules that are called on the same node and speak on different ones.
theorem validate_separate_of_pair :
    let world : World := { today := ⟨2024, 1, 2⟩ }
    let at' (line : Nat) : Option Position := some ⟨⟨line, 1, none⟩, ⟨line, 4, none⟩⟩
    let block (line : Nat) : Node := .leaf .yaml (at' line) (.literal " ")
    let root : Node := .branch .root (at' 1) .none [block 2, block 3]
    let names : List RuleName := [.preambleExists, .copyright]
    let t : Timing := ⟨fun _ => [], .rounds⟩
    let engineOf (names : List RuleName) (t : Timing) : Engine :=
      RuleName.engine (world.withTurns t.turns) {} {} names
    names.Nodup ∧
      ((engineOf names t).validateTree root none t.scheduler).result = .ok [
        ⟨"preamble-exists", "Too many preambles", 3, 4⟩,
        ⟨"copyright", "No copyright postamble found or is malformed", 1, 4⟩] ∧
    (∀ names' t, names'.Nodup →
      build (names'.map (RuleName.rule (world.withTurns t.turns) {})) {} =
        .ok (engineOf names' t)) ∧
    (∀ root, Separate (fun names t => (engineOf names t).validateTree root none t.scheduler)
      names) ∧
    ∀ source, Separate (fun names t => (engineOf names t).validateSource source none t.scheduler)
      names := by
  intro world at' block root names t engineOf
  have h : names.Nodup := by decide
  refine ⟨h, ?result, validate_separate world {} {} names h none⟩
  case result =>
    have hl : ∀ r ∈ (engineOf names t).active, r.Lone True :=
      fun _ hr => RuleName.lone_of_mem_map (List.mem_of_mem_filter hr)
    have hs : ∀ r ∈ (engineOf names t).active, (r.activate? (contextOf root none)).isSome := by
      decide
    rw [(validateTree_adds (RuleName.build_engine h) hl hs).right]
    decide +kernel

end Engine
end ProposalLint

import Mathlib.Algebra.Group.Int.Defs
import Mathlib.Algebra.Group.Nat.Defs
import ProposalLint.Proofs.Engine.Verdict
import ProposalLint.Proofs.Rules.Links
import ProposalLint.Proofs.Rules.Options

namespace ProposalLint

open Rules

namespace Outcome.Ready

variable {o : Outcome}

theorem not_fault (h : o.Ready c rules) (hr : r ∈ rules) : r.setup c ≠ .error fault := by
  have ⟨_, hs⟩ := h.setups r hr
  simp [hs]

end Outcome.Ready

namespace Engine

variable {e : Engine} {rules : List Rule} {config : Config} {root : Node} {path : Option String}
  {s : Scheduler}

-- Once all rules are set up, nothing that they do can bring a run down.
theorem exists_panic_of_aborted (hb : build rules config = .ok e)
    (h : (e.validateTree root path s).result = .error (.aborted name)) :
    ∃ r ∈ e.active, r.id = name ∧ r.setup (contextOf root path) = .error .panic := by
  cases verdict_of_build hb root path s
  case unready r _ fault ha _ hf _ _ hr =>
    cases fault <;> rw [h] at hr <;> cases hr
    exact ⟨r, by simp [ha], rfl, hf⟩
  case failed fault _ _ _ _ _ _ hr => cases fault <;> rw [h] at hr <;> cases hr
  case unplaced hr =>
    rw [h] at hr
    cases hr
  case passed hr =>
    rw [h] at hr
    cases hr

-- If some rule cannot be set up, the run fails on one that cannot.
theorem exists_fault_of_mem (hb : build rules config = .ok e) (hm : r ∈ e.active)
    (hf : r.setup (contextOf root path) = .error fault) (s : Scheduler) :
    ∃ r' ∈ e.active, ∃ fault', r'.setup (contextOf root path) = .error fault' ∧
      (e.validateTree root path s).result = .error (r'.error fault') := by
  cases verdict_of_build hb root path s
  case unready r' _ fault' ha _ hf' _ _ hr => exact ⟨r', by simp [ha], fault', hf', hr⟩
  case failed ready _ _ _ _ _ _ => exact absurd hf (ready.not_fault hm)
  case unplaced ready _ _ _ _ _ => exact absurd hf (ready.not_fault hm)
  case passed ready _ _ _ => exact absurd hf (ready.not_fault hm)

end Engine

theorem RuleName.exists_setup {name : RuleName} (h : name ≠ .badLink) (world : World)
    (s : RuleSettings) (c : Context) : ∃ setup, (name.rule world s).setup c = .ok setup := by
  cases name
  case badLink => exact absurd rfl h
  all_goals exact ⟨_, rfl⟩

namespace Config

variable {c : Config} {p : Preset} {world : World} {rs : List Rule}

-- How many requests the configuration lets be under way at once.
def Permits (c : Config) (n : Nat) : Prop :=
  ∃ given, Taken ((c.given .badLink).option? "max_concurrent") 8 given ∧ n = max 1 given

-- The rule on links that a configuration asks for has as many permits as the configuration says.
theorem Chosen.exists_badLink (h : c.Chosen world p chosen rs) (hs : .badLink ∈ c.selection p) :
    ∃ limits, badLink world limits ∈ rs ∧ c.Permits limits.permits := by
  rw [← h.order] at hs
  have ⟨⟨name, s⟩, hm, hname⟩ := List.mem_map.mp hs
  have hset := h.settings _ hm
  dsimp only at hname hset
  subst hname
  cases RuleName.settings_eq_ok_iff.mp hset
  case inr h => cases h.left
  case inl hc =>
    have ⟨limits, he, ht, _⟩ := hc
    refine ⟨limits, ?mem, limits.maxConcurrent, ht, rfl⟩
    case mem =>
      subst he
      exact h.rules ▸ List.mem_map_of_mem hm

-- No other rule can fail to be set up.
theorem Chosen.id_of_fault (h : c.Chosen world p chosen rs) (hr : r ∈ rs)
    (hf : r.setup context = .error fault) : r.id = "bad-link" ∧ fault = .panic := by
  rw [h.rules] at hr
  have ⟨⟨name, s⟩, _, he⟩ := List.mem_map.mp hr
  subst he
  by_cases hn : name = .badLink
  case pos =>
    subst hn
    refine ⟨rfl, ?_⟩
    change (badLink world s.links).setup context = _ at hf
    rw [badLink_setup] at hf
    split at hf <;> cases hf
    rfl
  case neg =>
    have ⟨_, hs⟩ := RuleName.exists_setup hn world s context
    rw [hs] at hf
    cases hf

end Config

namespace Engine

-- A configuration that asks for more permits than can be given out is accepted. The rule on links
-- then cannot be set up, and every run in which it is to have part goes down; this is the only way
-- in which a run can.
theorem validateTree_permits (world : World) (c : Config) (p : Preset) (rs : List Rule)
    (h : c.rulesOf world = .ok rs) (hp : c.Names p) (hs : .badLink ∈ c.selection p) :
    ∃ r ∈ rs, r.id = "bad-link" ∧ ∃ n, c.Permits n ∧
      (∀ context, (n ≤ (2 ^ 64 - 1) >>> 3 → ∃ setup, r.setup context = .ok setup) ∧
        ((2 ^ 64 - 1) >>> 3 < n → r.setup context = .error .panic)) ∧
      ∃ e, build rs c = .ok e ∧ ∀ root path s name,
        (e.validateTree root path s).result = .error (.aborted name) ↔
          name = "bad-link" ∧ c.isEnabled "bad-link" ∧ (2 ^ 64 - 1) >>> 3 < n := by
  have ⟨p', chosen, hc⟩ := Config.exists_chosen h
  have hp : p' = p := (Config.presetOf_eq_ok_iff.mp hc.preset).eq hp
  subst hp
  have ⟨limits, hm, hn⟩ := hc.exists_badLink hs
  have setup (context : Context) := badLink_setup world limits context
  have hb : build rs c = .ok ⟨rs, c⟩ := build_eq_ok_iff.mpr ⟨hc.nodup, rfl⟩
  have hmax : maxPermits = (2 ^ 64 - 1) >>> 3 := by decide
  rw [hmax] at setup
  refine ⟨badLink world limits, hm, rfl, limits.permits, hn, ?setup, ⟨rs, c⟩, hb, ?run⟩
  case setup =>
    intro context
    refine ⟨fun hle => ?_, fun hlt => ?_⟩
    · exact ⟨_, (setup context).trans (if_neg (Nat.not_lt.mpr hle))⟩
    · exact (setup context).trans (if_pos hlt)
  case run =>
    intro root path s name
    constructor
    case mp =>
      intro ha
      have ⟨r, hr, hname, hf⟩ := exists_panic_of_aborted hb ha
      have ⟨hr, he⟩ := List.mem_filter.mp hr
      have hid := (hc.id_of_fault hr hf).left
      -- There is only one rule of this name.
      have hone : r = badLink world limits :=
        List.inj_on_of_nodup_map hc.nodup hr hm hid
      subst hone
      refine ⟨hname.symm, he, ?_⟩
      by_contra hle
      rw [setup, if_neg hle] at hf
      cases hf
    case mpr =>
      intro ⟨hname, he, hlt⟩
      have ha : badLink world limits ∈ (Engine.mk rs c).active := List.mem_filter.mpr ⟨hm, he⟩
      have hf := (setup (contextOf root path)).trans (if_pos hlt)
      have ⟨r, hr, fault, hf, hres⟩ := exists_fault_of_mem hb ha hf s
      have ⟨hid, hpanic⟩ := hc.id_of_fault (List.mem_of_mem_filter hr) hf
      subst hpanic
      rw [hres, hname, ← hid]
      rfl

-- The rule comes on top of a preset, with the most permits that there can be.
theorem validateTree_permits_of_most :
    let world : World := { today := ⟨2024, 1, 2⟩ }
    let c : Config := { preset := some "minimal", rules := [("bad-link", {
      enabled := some true, options := [("max_concurrent", .integer (2 ^ 61 - 1))] })] }
    let rs : List Rule := [Rules.filename, Rules.copyright, Rules.preambleExists,
      Rules.badLink world { maxConcurrent := 2 ^ 61 - 1 }]
    c.rulesOf world = .ok rs ∧ c.Names .minimal ∧ .badLink ∈ c.selection .minimal ∧
    ∃ r ∈ rs, r.id = "bad-link" ∧ ∃ n, c.Permits n ∧
      (∀ context, (n ≤ (2 ^ 64 - 1) >>> 3 → ∃ setup, r.setup context = .ok setup) ∧
        ((2 ^ 64 - 1) >>> 3 < n → r.setup context = .error .panic)) ∧
      ∃ e, build rs c = .ok e ∧ ∀ root path s name,
        (e.validateTree root path s).result = .error (.aborted name) ↔
          name = "bad-link" ∧ c.isEnabled "bad-link" ∧ (2 ^ 64 - 1) >>> 3 < n := by
  intro world c rs
  have h : c.rulesOf world = .ok rs := rfl
  have hp : c.Names .minimal := .inl rfl
  have hs : .badLink ∈ c.selection .minimal := by decide
  exact ⟨h, hp, hs, validateTree_permits world c .minimal rs h hp hs⟩

-- One more is accepted as well, and no run comes to its end.
theorem not_setup_of_too_many_permits :
    let world : World := { today := ⟨2024, 1, 2⟩ }
    let c : Config := { preset := some "minimal", rules := [("bad-link", {
      enabled := some true, options := [("max_concurrent", .integer (2 ^ 61))] })] }
    let links := Rules.badLink world { maxConcurrent := 2 ^ 61 }
    let rs : List Rule := [Rules.filename, Rules.copyright, Rules.preambleExists, links]
    c.rulesOf world = .ok rs ∧ (∀ context, links.setup context = .error .panic) ∧
      ∃ e, build rs c = .ok e ∧ ∀ root path s,
        (e.validateTree root path s).result = .error (.aborted "bad-link") := by
  intro world c links rs
  have setup (context : Context) : links.setup context = .error .panic :=
    (badLink_setup ..).trans (if_pos (by decide))
  have hb : build rs c = .ok ⟨rs, c⟩ := rfl
  refine ⟨rfl, setup, ⟨rs, c⟩, hb, fun root path s => ?_⟩
  have ha : (Engine.mk rs c).active =
      [Rules.filename, Rules.copyright, Rules.preambleExists] ++ [links] := rfl
  have hs : ∀ r ∈ [Rules.filename, Rules.copyright, Rules.preambleExists],
      ∃ setup, r.setup (contextOf root path) = .ok setup := by
    simp only [List.forall_mem_cons]
    exact ⟨⟨_, rfl⟩, ⟨_, rfl⟩, ⟨_, rfl⟩, by simp⟩
  exact (validateTree_of_fault hb ha hs (setup _)).left

end Engine
end ProposalLint

import Mathlib.Data.List.Nodup
import ProposalLint.Engine.Batch
import ProposalLint.Proofs.Attempts
import ProposalLint.Proofs.Rules.Catalogue

namespace ProposalLint

namespace Preset

theorem rules_nodup (p : Preset) : p.rules.Nodup := by
  cases p <;> decide

end Preset

namespace Config

variable {c : Config} {p : Preset} {name : RuleName} {world : World} {rs : List Rule}

-- Whether the configuration turns a rule on or off.
def switch? (c : Config) (name : RuleName) : Option Bool :=
  (c.rule? name.id).bind (·.enabled)

-- The preset that the configuration names. Without a name it is the recommended one.
def presetOf (c : Config) : Except RuleError Preset :=
  match c.preset with
  | some name => Preset.ofName name
  | none => .ok .recommended

-- The rules of a preset, then the others that are turned on.
def selection (c : Config) (p : Preset) : List RuleName :=
  p.rules ++ RuleName.all.filter fun name => c.switch? name = some true ∧ name ∉ p.rules

-- A rule counts if it is turned on, or if it is in the preset and not turned off.
def InEffect (c : Config) (p : Preset) (name : RuleName) : Prop :=
  c.switch? name = some true ∨ name ∈ p.rules ∧ c.switch? name ≠ some false

instance (c : Config) (p : Preset) (name : RuleName) : Decidable (c.InEffect p name) :=
  inferInstanceAs (Decidable (_ ∨ _))

theorem selected_eq (c : Config) : c.selected = c.presetOf.map c.selection := by
  have hf (p : Preset) : c.selection p = p.rules ++ RuleName.all.filter fun name =>
      ((c.rule? name.id).bind (·.enabled) == some true) && !p.rules.contains name := by
    simp only [selection, switch?]
    congr 2
    funext name
    grind
  unfold selected presetOf
  cases c.preset
  case none => exact congrArg Except.ok (hf _).symm
  case some name =>
    cases hp : Preset.ofName name
    case error => simp [hp, Except.map, Bind.bind, Except.bind]
    case ok p =>
      simp only [hp, Except.map, hf]
      rfl

theorem selection_nodup (c : Config) (p : Preset) : (c.selection p).Nodup := by
  refine List.Nodup.append p.rules_nodup (List.Nodup.filter _ (by decide)) ?_
  intro name hp hs
  simp [hp] at hs

theorem mem_selection_of_inEffect (h : c.InEffect p name) : name ∈ c.selection p := by
  have hall : name ∈ RuleName.all := by cases name <;> decide
  by_cases hp : name ∈ p.rules
  case pos => exact List.mem_append_left _ hp
  case neg =>
    have hs : c.switch? name = some true := h.resolve_right fun h => hp h.left
    exact List.mem_append_right _ (by simp [hall, hs, hp])

-- Of the rules that are selected, those in effect are the ones that are not turned off.
theorem isEnabled_iff_inEffect (h : name ∈ c.selection p) :
    c.isEnabled name.id ↔ c.InEffect p name := by
  have hc : c.isEnabled name.id = (c.switch? name).getD true := rfl
  simp only [selection, List.mem_append, List.mem_filter, decide_eq_true_eq] at h
  rw [hc, InEffect]
  cases hs : c.switch? name
  case none => simpa [hs] using h
  case some on => cases on <;> simp

-- What the rules are that a configuration asks for, given the preset they come from and the settings
-- of each.
structure Chosen (world : World) (c : Config) (p : Preset)
    (chosen : List (RuleName × RuleSettings)) (rs : List Rule) : Prop where
  preset   : c.presetOf = .ok p
  order    : chosen.map (·.1) = c.selection p
  settings : ∀ choice ∈ chosen, choice.1.settings ((c.rule? choice.1.id).getD {}) = .ok choice.2
  rules    : rs = chosen.map fun choice => choice.1.rule world choice.2
  nodup    : (rs.map (·.id)).Nodup
  complete : ∀ name, c.InEffect p name → name ∈ chosen.map (·.1)

theorem choice_ok (hc : c.choice = .ok chosen) :
    ∃ p, c.presetOf = .ok p ∧ chosen.map (·.1) = c.selection p ∧
      ∀ choice ∈ chosen, choice.1.settings ((c.rule? choice.1.id).getD {}) = .ok choice.2 := by
  rw [choice, selected_eq] at hc
  cases hp : c.presetOf
  case error => simp [hp, Except.map, Bind.bind, Except.bind] at hc
  case ok p =>
    rw [hp] at hc
    have hall := forall₂_of_mapM (c.selection p) hc
    refine ⟨p, rfl, ?_⟩
    clear hc
    generalize c.selection p = names at hall
    induction hall
    case nil => simp
    case cons name choice _ _ h _ ih =>
      cases hs : name.settings ((c.rule? name.id).getD {})
      case error => simp [hs, Bind.bind, Except.bind] at h
      case ok s =>
        simp only [hs] at h
        cases h
        simpa [hs] using ih

theorem exists_chosen (h : c.rulesOf world = .ok rs) :
    ∃ p chosen, c.Chosen world p chosen rs := by
  unfold rulesOf at h
  cases hc : c.choice
  case error => simp [hc, Except.map] at h
  case ok chosen =>
    rw [hc] at h
    cases h
    have ⟨p, hp, horder, hsettings⟩ := choice_ok hc
    refine ⟨p, chosen, hp, horder, hsettings, rfl, ?nodup, ?complete⟩
    case nodup =>
      have hn := (c.selection_nodup p).map RuleName.id_injective
      simpa [← horder, RuleName.rule_id, Function.comp_def] using hn
    case complete => exact fun name hn => horder ▸ mem_selection_of_inEffect hn

end Config

-- The rules whose setup is started in a run are the first ones.
theorem createAll_created (c : Context) (rules : List Rule) (t : Trace) (created : List String) :
    (createAll c rules t created).2.2 <+: created ++ rules.map (·.id) := by
  induction rules generalizing t created
  case nil => simp [createAll]
  case cons r rules ih =>
    have hrest := fun t => ih t (created ++ [r.id])
    simp only [createAll]
    split
    case h_1 running _ =>
      have h := hrest running.trace
      split
      case h_1 he => simpa [he] using h
      case h_2 => simpa using h
    case h_2 | h_3 => simp

namespace Engine

variable {e e' : Engine} {c : Config} {p : Preset} {world : World} {rs : List Rule}

-- Engines that come to the same, whatever they check.
structure Agree (e e' : Engine) : Prop where
  tree   : ∀ root path s, e.validateTree root path s = e'.validateTree root path s
  source : ∀ source path s, e.validateSource source path s = e'.validateSource source path s
  files  : ∀ fs paths s, e.validateFiles fs paths s = e'.validateFiles fs paths s

-- Only the rules that are enabled matter.
theorem agree_of_active_eq (h : e.active = e'.active) : e.Agree e' := by
  have htree (root path s) : e.validateTree root path s = e'.validateTree root path s := by
    simp only [validateTree, h]
  have hsource (source path s) : e.validateSource source path s = e'.validateSource source path s :=
    htree ..
  refine ⟨htree, hsource, fun fs paths s => ?_⟩
  have hfile (path) : e.validateFile fs path s = e'.validateFile fs path s := by
    simp only [validateFile, hsource]
  have hfrom (paths r notes requests) :
      e.validateFrom fs s paths r notes requests = e'.validateFrom fs s paths r notes requests := by
    induction paths generalizing r notes requests
    case nil => rfl
    case cons path paths ih => simp only [validateFrom, hfile, ih]
  exact hfrom ..

theorem created_isPrefix (e : Engine) (root : Node) (path : Option String) (s : Scheduler) :
    (e.validateTree root path s).created <+: e.active.map (·.id) := by
  have h := createAll_created (contextOf root path) e.active {} []
  unfold validateTree
  split
  case h_1 => exact List.nil_prefix
  case h_2 =>
    dsimp only
    split
    case h_1 he => simpa [contextOf, he] using h
    case h_2 he =>
      split
      all_goals simpa [contextOf, he] using h

theorem active_eq_inEffect (h : c.Chosen world p chosen rs) :
    (Engine.mk rs c).active = (chosen.filter fun choice => c.InEffect p choice.1).map fun choice =>
      choice.1.rule world choice.2 := by
  have hf : ∀ choice ∈ chosen, c.isEnabled choice.1.id = decide (c.InEffect p choice.1) := by
    intro choice hm
    have hs : choice.1 ∈ c.selection p := h.order ▸ List.mem_map_of_mem hm
    rw [Bool.eq_iff_iff, decide_eq_true_eq]
    exact Config.isEnabled_iff_inEffect hs
  simp only [active, h.rules, List.filter_map, Function.comp_def, RuleName.rule_id]
  rw [List.filter_congr hf]

-- A rule that is turned off is the same as a rule that is not there.
theorem validate_configured (world : World) (c : Config) (rs : List Rule)
    (h : c.rulesOf world = .ok rs) :
    ∃ p chosen, c.Chosen world p chosen rs ∧ ∃ e e', build rs c = .ok e ∧
      build ((chosen.filter fun choice => c.InEffect p choice.1).map fun choice =>
        choice.1.rule world choice.2) {} = .ok e' ∧ e.Agree e' ∧
      ∀ root path s name, name.id ∈ (e.validateTree root path s).created → c.InEffect p name := by
  have ⟨p, chosen, hc⟩ := Config.exists_chosen h
  have ha := active_eq_inEffect hc
  have hb : build rs c = .ok ⟨rs, c⟩ := build_eq_ok_iff.mpr ⟨hc.nodup, rfl⟩
  have hb' : build (Engine.mk rs c).active {} = .ok ⟨(Engine.mk rs c).active, {}⟩ :=
    build_eq_ok_iff.mpr ⟨active_nodup hb, rfl⟩
  refine ⟨p, chosen, hc, _, _, hb, ha ▸ hb', agree_of_active_eq ?active, ?created⟩
  case active => exact ha.trans (by simp [active, Config.isEnabled, Config.rule?])
  case created =>
    intro root path s name hm
    have hm := (created_isPrefix _ root path s).subset hm
    rw [ha, List.map_map] at hm
    obtain ⟨choice, hk, he⟩ := List.mem_map.mp hm
    have he : choice.1 = name := RuleName.id_injective (choice.1.rule_id world choice.2 ▸ he)
    exact he ▸ of_decide_eq_true (List.mem_filter.mp hk).right

-- A rule of the preset that is turned off, one outside of it that is turned on with an option, and
-- one that does not exist.
theorem validate_configured_of_minimal :
    let world : World := { today := ⟨2024, 1, 2⟩ }
    let c : Config := { preset := some "minimal", rules := [
      ("copyright", { enabled := some false }), ("filename", {}),
      ("spelling", { enabled := some true }),
      ("bad-link", { enabled := some true, options := [("max_concurrent", .integer 2)] })] }
    let rs : List Rule := [Rules.filename, Rules.copyright, Rules.preambleExists,
      Rules.badLink world { maxConcurrent := 2 }]
    c.rulesOf world = .ok rs ∧
    ∃ p chosen, c.Chosen world p chosen rs ∧ ∃ e e', build rs c = .ok e ∧
      build ((chosen.filter fun choice => c.InEffect p choice.1).map fun choice =>
        choice.1.rule world choice.2) {} = .ok e' ∧ e.Agree e' ∧
      ∀ root path s name, name.id ∈ (e.validateTree root path s).created → c.InEffect p name := by
  intro world c rs
  have h : c.rulesOf world = .ok rs := rfl
  exact ⟨h, validate_configured world c rs h⟩

end Engine
end ProposalLint

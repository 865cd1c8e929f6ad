import ProposalLint.Proofs.Rules.Selection

namespace ProposalLint

open Rules

theorem Preset.ofName_eq_ok_iff {p : Preset} : ofName s = .ok p ↔ s = p.name := by
  constructor
  case mp =>
    intro h
    unfold ofName at h
    split at h <;> cases h <;> rfl
  case mpr =>
    intro h
    subst h
    cases p <;> rfl

-- A whole number that is not negative.
def Toml.Value.IsNatural (v : Toml.Value) : Prop :=
  ∃ n : Nat, v = .integer n

-- A text that is a date.
def Toml.Value.IsDate (v : Toml.Value) : Prop :=
  ∃ text date, v = .string text ∧ Date.read text = .ok date

-- A number is what an option says, or the default if there is no such option.
def Taken (option : Option Toml.Value) (default n : Nat) : Prop :=
  option = none ∧ n = default ∨ option = some (.integer n)

-- The same for the date that an option says.
def Referred (option : Option Toml.Value) (r : Reference) : Prop :=
  option = none ∧ r = .lastChange ∨
    ∃ text date, option = some (.string text) ∧ Date.read text = .ok date ∧ r = .fixed date

theorem exists_taken_iff (default : Nat) :
    (∃ n, Taken option default n) ↔ ∀ v, option = some v → v.IsNatural := by
  cases option <;> simp [Taken, Toml.Value.IsNatural]

theorem exists_referred_iff :
    (∃ r, Referred option r) ↔ ∀ v, option = some v → v.IsDate := by
  cases option <;> simp [Referred, Toml.Value.IsDate]

namespace RuleName

variable {c : RuleConfig} {name : RuleName} {s : RuleSettings}

-- The options that a rule has, and what they may be.
def documented : RuleName → List (String × (Toml.Value → Prop))
  | badLink =>
    [("max_concurrent", (·.IsNatural)), ("timeout_secs", (·.IsNatural)),
      ("min_interval_ms", (·.IsNatural))]
  | gitUpdated => [("reference_date", (·.IsDate))]
  | _ => []

def OptionsValid (c : RuleConfig) (name : RuleName) : Prop :=
  ∀ option ∈ name.documented, ∀ v, c.option? option.1 = some v → option.2 v

-- The settings of a rule are what its options say.
def Carries (c : RuleConfig) : RuleName → RuleSettings → Prop
  | badLink, s => ∃ limits, s = { links := limits } ∧
    Taken (c.option? "max_concurrent") 8 limits.maxConcurrent ∧
    Taken (c.option? "timeout_secs") 10 limits.timeoutSeconds ∧
    Taken (c.option? "min_interval_ms") 100 limits.minIntervalMilliseconds
  | gitUpdated, s =>
    ∃ reference, s = { reference := reference } ∧ Referred (c.option? "reference_date") reference
  | _, s => s = {}

-- There is a date to compare with, but it is not a text.
def Untold (c : RuleConfig) : Prop :=
  ∃ v, c.option? "reference_date" = some v ∧ v.string? = none

theorem natural_eq_ok_iff {default n : Nat} :
    natural c key default = .ok n ↔ Taken (c.option? key) default n := by
  unfold natural Taken
  cases c.option? key
  case none => simp [eq_comm]
  case some v =>
    cases v
    case integer i =>
      cases i
      case ofNat m =>
        simp only [Toml.Value.integer?, Except.ok.injEq, reduceCtorEq, false_and, false_or,
          Option.some.injEq, Toml.Value.integer.injEq]
        exact Int.ofNat_inj.symm
      case negSucc m => simp [Toml.Value.integer?]
    all_goals simp [Toml.Value.integer?]

theorem reference_eq_ok_iff : reference c = .ok r ↔
    Referred (c.option? "reference_date") r ∨ Untold c ∧ r = .lastChange := by
  unfold reference RuleConfig.string? Referred Untold
  cases c.option? "reference_date"
  case none => simp [eq_comm]
  case some v =>
    cases v
    case string text => cases hd : Date.read text <;> simp [Toml.Value.string?, hd, eq_comm]
    all_goals simp [Toml.Value.string?, eq_comm]

theorem linkLimits_eq_ok_iff {limits : LinkLimits} : linkLimits c = .ok limits ↔
    Taken (c.option? "max_concurrent") 8 limits.maxConcurrent ∧
    Taken (c.option? "timeout_secs") 10 limits.timeoutSeconds ∧
    Taken (c.option? "min_interval_ms") 100 limits.minIntervalMilliseconds := by
  obtain ⟨m, t, i⟩ := limits
  simp only [← natural_eq_ok_iff, linkLimits]
  cases natural c "max_concurrent" 8 <;> cases natural c "timeout_secs" 10 <;>
    cases natural c "min_interval_ms" 100 <;>
      simp [Bind.bind, Except.bind, Pure.pure, Except.pure]

-- A rule takes its settings from its options, except for a date that is not a text: it is passed
-- over as if it was not there.
theorem settings_eq_ok_iff : settings c name = .ok s ↔
    Carries c name s ∨ name = .gitUpdated ∧ Untold c ∧ s = {} := by
  cases name
  case badLink =>
    simp only [settings, Carries, ← linkLimits_eq_ok_iff]
    cases linkLimits c <;> simp [Bind.bind, Except.bind, Pure.pure, Except.pure, eq_comm]
  case gitUpdated =>
    have hs : settings c .gitUpdated = .ok s ↔
        ∃ r, s = { reference := r } ∧ reference c = .ok r := by
      cases hr : reference c <;>
        simp [settings, hr, Bind.bind, Except.bind, Pure.pure, Except.pure, eq_comm]
    simp only [hs, reference_eq_ok_iff, Carries]
    grind
  all_goals simp [settings, Carries, Pure.pure, Except.pure, eq_comm]

theorem optionsValid_iff : OptionsValid c name ↔ ∃ s, Carries c name s := by
  cases name
  case badLink =>
    simp only [OptionsValid, documented, List.forall_mem_cons]
    constructor
    case mp =>
      intro ⟨hm, ht, hi, _⟩
      obtain ⟨m, hm⟩ := (exists_taken_iff 8).mpr hm
      obtain ⟨t, ht⟩ := (exists_taken_iff 10).mpr ht
      obtain ⟨i, hi⟩ := (exists_taken_iff 100).mpr hi
      exact ⟨_, ⟨m, t, i⟩, rfl, hm, ht, hi⟩
    case mpr =>
      intro ⟨_, limits, _, hm, ht, hi⟩
      exact ⟨(exists_taken_iff 8).mp ⟨_, hm⟩, (exists_taken_iff 10).mp ⟨_, ht⟩,
        (exists_taken_iff 100).mp ⟨_, hi⟩, by simp⟩
  case gitUpdated =>
    simp only [OptionsValid, documented, List.forall_mem_singleton, ← exists_referred_iff]
    constructor
    case mp => exact fun ⟨r, hr⟩ => ⟨_, r, rfl, hr⟩
    case mpr => exact fun ⟨_, r, _, hr⟩ => ⟨r, hr⟩
  all_goals simp [OptionsValid, documented, Carries]

-- Settings are taken from the options and from nothing else.
theorem settings_congr {c' : RuleConfig} (h : c'.options = c.options) (name : RuleName) :
    settings c' name = settings c name := by
  have ho : c'.option? = c.option? := by
    funext key
    simp only [RuleConfig.option?, h]
  cases name <;>
    simp only [settings, linkLimits, natural, reference, RuleConfig.string?, ho]

end RuleName

namespace Config

open RuleName

variable {c c' : Config} {p : Preset} {name : RuleName} {world : World} {rs : List Rule}

-- The preset is given by its name, or it is the recommended one if no name is given.
def Names (c : Config) (p : Preset) : Prop :=
  c.preset = some p.name ∨ c.preset = none ∧ p = .recommended

theorem presetOf_eq_ok_iff : c.presetOf = .ok p ↔ c.Names p := by
  unfold presetOf Names
  cases c.preset
  case none => simp [eq_comm]
  case some name => simp [Preset.ofName_eq_ok_iff]

theorem Names.eq (hp : c.Names p) (hp' : c.Names p') : p = p' := by
  rw [← presetOf_eq_ok_iff] at hp hp'
  exact Except.ok.inj (hp.symm.trans hp')

-- What is configured for a rule.
def given (c : Config) (name : RuleName) : RuleConfig :=
  (c.rule? name.id).getD {}

theorem exists_rulesOf_iff : (∃ rs, c.rulesOf world = .ok rs) ↔
    ∃ p, c.Names p ∧ ∀ name ∈ c.selection p, ∃ s, name.settings (c.given name) = .ok s := by
  constructor
  case mp =>
    intro ⟨rs, h⟩
    have ⟨p, chosen, hc⟩ := exists_chosen h
    refine ⟨p, presetOf_eq_ok_iff.mp hc.preset, fun name hn => ?_⟩
    rw [← hc.order] at hn
    obtain ⟨choice, hm, he⟩ := List.mem_map.mp hn
    exact he ▸ ⟨_, hc.settings choice hm⟩
  case mpr =>
    intro ⟨p, hp, hs⟩
    have hall : ∀ name ∈ c.selection p, ∃ choice,
        (do return (name, ← name.settings (c.given name)) : Except RuleError _) = .ok choice := by
      intro name hn
      obtain ⟨s, hs⟩ := hs name hn
      exact ⟨(name, s), by simp [hs, Bind.bind, Except.bind, Pure.pure, Except.pure]⟩
    obtain ⟨chosen, hc⟩ := mapM_ok_of_forall hall
    refine ⟨chosen.map fun choice => choice.1.rule world choice.2, ?_⟩
    have : c.choice = .ok chosen := by
      rw [choice, selected_eq, presetOf_eq_ok_iff.mpr hp]
      exact hc
    rw [rulesOf, this]
    rfl

-- A configuration is taken at its word: it is accepted if and only if its preset and the options of
-- the rules that it selects are valid, the rules are then set to what the options say, and the
-- options of all other rules make no difference.
structure Faithful (world : World) (c : Config) : Prop where
  accepted   : (∃ rs, c.rulesOf world = .ok rs) ↔
    ∃ p, c.Names p ∧ ∀ name ∈ c.selection p, OptionsValid (c.given name) name
  carried    : ∀ rs, c.rulesOf world = .ok rs → ∃ p,
    ∃ chosen : List (RuleName × RuleSettings), c.Names p ∧ chosen.map (·.1) = c.selection p ∧
    rs = chosen.map (fun choice => choice.1.rule world choice.2) ∧
      ∀ choice ∈ chosen, Carries (c.given choice.1) choice.1 choice.2
  unselected : ∀ c' : Config, c'.preset = c.preset → (∀ name, c'.switch? name = c.switch? name) →
    (∀ p, c.Names p → ∀ name ∈ c.selection p, (c'.given name).options = (c.given name).options) →
    c'.rulesOf world = c.rulesOf world

-- The date to compare with is given, but not as a text, and nothing else is wrong.
def LosesDate (c : Config) : Prop :=
  ∃ p, c.Names p ∧ .gitUpdated ∈ c.selection p ∧ Untold (c.given .gitUpdated) ∧
    ∀ name ∈ c.selection p, name ≠ .gitUpdated → OptionsValid (c.given name) name

theorem rulesOf_congr (hp : c'.preset = c.preset) (hs : ∀ name, c'.switch? name = c.switch? name)
    (ho : ∀ p, c.Names p → ∀ name ∈ c.selection p,
      (c'.given name).options = (c.given name).options) :
    c'.rulesOf world = c.rulesOf world := by
  have hpreset : c'.presetOf = c.presetOf := by simp only [presetOf, hp]
  have hselection : c'.selection = c.selection := by
    funext p
    simp only [selection, hs]
  have hchoice : c'.choice = c.choice := by
    rw [choice, choice, selected_eq, selected_eq, hpreset, hselection]
    cases h : c.presetOf
    case error => rfl
    case ok p =>
      refine mapM_congr fun name hn => ?_
      have := settings_congr (ho p (presetOf_eq_ok_iff.mp h) name hn) name
      simp only [given] at this
      rw [this]
  rw [rulesOf, rulesOf, hchoice]

theorem accepted_of_valid (hp : c.Names p)
    (hv : ∀ name ∈ c.selection p, OptionsValid (c.given name) name) :
    ∃ rs, c.rulesOf world = .ok rs := by
  refine exists_rulesOf_iff.mpr ⟨p, hp, fun name hn => ?_⟩
  obtain ⟨s, hs⟩ := optionsValid_iff.mp (hv name hn)
  exact ⟨s, settings_eq_ok_iff.mpr (.inl hs)⟩

-- Unless a date is lost, all rules have the settings that their options say.
theorem carries_of_not_losesDate (h : ¬c.LosesDate) (hp : c.Names p)
    (hall : ∀ name ∈ c.selection p, ∃ s, name.settings (c.given name) = .ok s)
    (hn : name ∈ c.selection p) (hs : name.settings (c.given name) = .ok s) :
    Carries (c.given name) name s := by
  cases settings_eq_ok_iff.mp hs
  case inl hc => exact hc
  case inr hu =>
    obtain ⟨he, hu, _⟩ := hu
    subst he
    refine absurd ⟨p, hp, hn, hu, fun name' hn' hne => ?_⟩ h
    obtain ⟨s', hs'⟩ := hall name' hn'
    have hc := (settings_eq_ok_iff.mp hs').resolve_right fun hg => hne hg.left
    exact optionsValid_iff.mpr ⟨s', hc⟩

theorem faithful_of_not_losesDate (h : ¬c.LosesDate) : c.Faithful world where
  accepted := by
    refine ⟨fun hok => ?_, fun ⟨p, hp, hv⟩ => accepted_of_valid hp hv⟩
    obtain ⟨p, hp, hall⟩ := exists_rulesOf_iff.mp hok
    refine ⟨p, hp, fun name hn => ?_⟩
    obtain ⟨s, hs⟩ := hall name hn
    exact optionsValid_iff.mpr ⟨s, carries_of_not_losesDate h hp hall hn hs⟩
  carried rs hrs := by
    obtain ⟨p, chosen, hc⟩ := exists_chosen hrs
    have hp := presetOf_eq_ok_iff.mp hc.preset
    have hmem : ∀ choice ∈ chosen, choice.1 ∈ c.selection p :=
      fun choice hm => hc.order ▸ List.mem_map_of_mem hm
    have hall : ∀ name ∈ c.selection p, ∃ s, name.settings (c.given name) = .ok s := by
      intro name hn
      rw [← hc.order] at hn
      obtain ⟨choice, hm, he⟩ := List.mem_map.mp hn
      exact he ▸ ⟨_, hc.settings choice hm⟩
    exact ⟨p, chosen, hp, hc.order, hc.rules, fun choice hm =>
      carries_of_not_losesDate h hp hall (hmem choice hm) (hc.settings choice hm)⟩
  unselected _ := rulesOf_congr

namespace LosesDate

theorem exists_rulesOf (h : c.LosesDate) : ∃ rs, c.rulesOf world = .ok rs := by
  obtain ⟨p, hp, _, hu, hv⟩ := h
  refine exists_rulesOf_iff.mpr ⟨p, hp, fun name hn => ?_⟩
  by_cases hname : name = .gitUpdated
  case pos =>
    subst hname
    exact ⟨{}, settings_eq_ok_iff.mpr (.inr ⟨rfl, hu, rfl⟩)⟩
  case neg =>
    obtain ⟨s, hs⟩ := optionsValid_iff.mp (hv name hn hname)
    exact ⟨s, settings_eq_ok_iff.mpr (.inl hs)⟩

-- The last change takes the place of the date that is lost.
theorem lastChange_mem (h : c.LosesDate) (hrs : c.rulesOf world = .ok rs) :
    Rules.gitUpdated world .lastChange ∈ rs := by
  obtain ⟨p, hp, hg, hu, _⟩ := h
  obtain ⟨p', chosen, hc⟩ := exists_chosen hrs
  have he : p' = p := Names.eq (presetOf_eq_ok_iff.mp hc.preset) hp
  subst he
  rw [← hc.order] at hg
  obtain ⟨⟨name, s⟩, hm, hname⟩ := List.mem_map.mp hg
  have hs := hc.settings _ hm
  dsimp only at hname hs
  subst hname
  have hlost := settings_eq_ok_iff.mpr (.inr ⟨rfl, hu, rfl⟩)
  have he : s = {} := Except.ok.inj (hs.symm.trans hlost)
  subst he
  exact hc.rules ▸ List.mem_map_of_mem hm

theorem not_valid (h : c.LosesDate) :
    ¬∃ p, c.Names p ∧ ∀ name ∈ c.selection p, OptionsValid (c.given name) name := by
  obtain ⟨p, hp, hg, ⟨v, hv, hs⟩, _⟩ := h
  intro ⟨p', hp', hvalid⟩
  have he : p' = p := hp'.eq hp
  subst he
  obtain ⟨text, _, ht, _⟩ := hvalid .gitUpdated hg _ (List.mem_singleton.mpr rfl) v hv
  simp [ht, Toml.Value.string?] at hs

theorem not_faithful (h : c.LosesDate) : ¬c.Faithful world :=
  fun hf => h.not_valid (hf.accepted.mp h.exists_rulesOf)

end LosesDate

-- Every configuration is taken at its word but those that give the date to compare with as something
-- else than a text: then the date is passed over, and no error is made of it.
theorem rulesOf_faithful_iff (world : World) (c : Config) :
    (c.Faithful world ↔ ¬c.LosesDate) ∧ (c.LosesDate →
      ∃ rs, c.rulesOf world = .ok rs ∧ Rules.gitUpdated world .lastChange ∈ rs) := by
  refine ⟨⟨fun hf hl => hl.not_faithful hf, faithful_of_not_losesDate⟩, fun hl => ?_⟩
  obtain ⟨rs, hrs⟩ := hl.exists_rulesOf
  exact ⟨rs, hrs, hl.lastChange_mem hrs⟩

-- A date without quotes is not a text.
theorem not_faithful_of_datetime :
    let world : World := { today := ⟨2024, 1, 2⟩ }
    let c : Config := { rules := [
      ("git-updated", { options := [("reference_date", .datetime "2024-01-31")] })] }
    (∃ rs, c.rulesOf world = .ok rs) ∧
      (¬∃ p, c.Names p ∧ ∀ name ∈ c.selection p, OptionsValid (c.given name) name) ∧
      ¬c.Faithful world := by
  intro world c
  have hu : Untold (c.given .gitUpdated) := ⟨.datetime "2024-01-31", rfl, rfl⟩
  have hl : c.LosesDate := by
    refine ⟨.recommended, .inr ⟨rfl, rfl⟩, by decide, hu, fun name _ hne option _ v hv => ?_⟩
    have ho : (c.given name).options = [] := by
      cases name
      case gitUpdated => exact absurd rfl hne
      all_goals rfl
    simp [RuleConfig.option?, ho] at hv
  exact ⟨hl.exists_rulesOf, hl.not_valid, hl.not_faithful⟩

end Config
end ProposalLint

import ProposalLint.Proofs.Engine.Separate

namespace ProposalLint

namespace Action

variable {σ α β : Type} {P : String → Prop}

-- `Tells P a` says that the texts of all findings that `a` can make have `P`, whatever it is told.
inductive Tells (P : String → Prop) : Action σ α → Prop
  | done : Tells P (done x)
  | stopped : Tells P (stopped fault)
  | reporting : (P f.text) → (Tells P (next (.ok ()))) → Tells P (reporting f next)
  | noting : (Tells P next) → Tells P (noting n next)
  | requesting : (Tells P next) → Tells P (requesting line next)
  | launching : (Tells P next) → Tells P (launching l next)
  | askingRule : (∀ id, Tells P (next id)) → Tells P (askingRule next)
  | askingCount : (∀ count, Tells P (next count)) → Tells P (askingCount next)
  | updating : (∀ s, Tells P (next s)) → Tells P (updating change next)
  | yielding : (Tells P next) → Tells P (yielding next)

namespace Tells

theorem bind {a : Action σ α} {f : α → Action σ β} (ha : Tells P a) (hf : ∀ x, Tells P (f x)) :
    Tells P (a >>= f) := by
  induction ha
  case done => exact hf _
  case stopped => exact .stopped
  case reporting h _ ih => exact .reporting h ih
  case noting ih => exact .noting ih
  case requesting ih => exact .requesting ih
  case launching ih => exact .launching ih
  case askingRule ih => exact .askingRule ih
  case askingCount ih => exact .askingCount ih
  case updating ih => exact .updating ih
  case yielding ih => exact .yielding ih

theorem report (h : P text) : Tells P (report n text : Action σ Unit) :=
  .reporting h .done

theorem report_if (h : P text) (cond : Bool) :
    Tells P (if cond then Action.report n text else .done () : Action σ Unit) := by
  cases cond
  case true => exact report h
  case false => exact .done

theorem note (n : Note) : Tells P (note n : Action σ Unit) :=
  .noting .done

theorem update (change : σ → σ) : Tells P (update change : Action σ σ) :=
  .updating fun _ => .done

theorem forM {f : α → Action σ Unit} {xs : List α} (h : ∀ x ∈ xs, Tells P (f x)) :
    Tells P (xs.forM f) := by
  induction xs
  case nil => exact .done
  case cons x xs ih =>
    have ⟨hx, hxs⟩ := List.forall_mem_cons.mp h
    exact hx.bind fun _ => ih hxs

theorem of_mem_findings {a : Action σ α} {count : Nat} {s : σ} (h : Tells P a)
    (hf : f ∈ (a.alone rule count s).effect.findings) : P f.text := by
  induction h generalizing count s
  case done | stopped => simp [alone] at hf
  case reporting h _ ih =>
    simp only [alone, Ending.effect_after, Effect.findings_append, List.singleton_append] at hf
    cases List.mem_cons.mp hf
    case inl he => exact he ▸ h
    case inr hf => exact ih hf
  case noting ih | requesting ih | launching ih => exact ih hf
  case askingRule ih | askingCount ih | updating ih => exact ih _ hf
  case yielding ih => exact ih hf

end Tells

theorem Quiet.tells {a : Action σ α} (h : Quiet a) : Tells P a := by
  induction h
  case done => exact .done
  case stopped => exact .stopped
  case noting ih => exact .noting ih
  case launching ih => exact .launching ih

end Action

-- Each validator tells what it finds in texts with `P`.
def ActiveRule.Tells (P : String → Prop) (vs : List Visit) (a : ActiveRule) : Prop :=
  ∀ w ∈ a.validators, ∀ v ∈ vs, (w.start v).Tells P

theorem ActiveRule.Tells.contribute {a : ActiveRule} (h : a.Tells P (v :: vs)) :
    (∀ f ∈ (a.contribute v).2.effect.findings, P f.text) ∧ (a.contribute v).1.Tells P vs := by
  have rest : ∀ w ∈ a.validators, ∀ u ∈ vs, (w.start u).Tells P :=
    fun w hw u hu => h w hw u (List.mem_cons_of_mem _ hu)
  unfold ActiveRule.contribute
  split
  case h_1 w hw =>
    split
    case isTrue =>
      have told : (w.start v).Tells P := h w (by simp [hw]) v List.mem_cons_self
      exact ⟨fun f hf => told.of_mem_findings hf, rest⟩
    case isFalse => exact ⟨by simp, rest⟩
  case h_2 => exact ⟨by simp, rest⟩

theorem tells_of_mem_contributions {a : ActiveRule} {c : Contribution} (h : a.Tells P vs)
    (hc : c ∈ contributions vs [a]) (hf : f ∈ c.effect.findings) : P f.text := by
  induction vs generalizing a
  case nil => simp [contributions] at hc
  case cons v vs ih =>
    simp only [contributions, List.map_cons, List.map_nil, List.mem_append,
      List.mem_singleton] at hc
    cases hc
    case inl hc => exact h.contribute.left f (hc ▸ hf)
    case inr hc => exact ih h.contribute.right hc

-- A rule with one validator finds nothing that the validator does not tell.
theorem Rule.single_tells {work : Context → Visit → Action σ Unit} {c : Context}
    (h : ∀ v ∈ vs, (work c v).Tells P) :
    ∀ f ∈ (Rule.single name text selector state work).found c vs, P f.text := by
  intro f hf
  have ⟨d, hd, hf⟩ := List.mem_flatMap.mp hf
  have told : (ActiveRule.mk name σ state [⟨selector, work c⟩]).Tells P vs := by
    simpa [ActiveRule.Tells] using h
  exact tells_of_mem_contributions told hd hf

section Texts

variable {P : String → Prop}

-- Each finding becomes a message with its text.
theorem Contribution.Clean.forall_text_iff (h : Clean c) :
    (∀ m ∈ c.messages, P m.text) ↔ ∀ f ∈ c.effect.findings, P f.text := by
  simp only [Contribution.messages, Contribution.reports, List.mem_filterMap, List.mem_map]
  constructor
  case mp =>
    intro hm f hf
    obtain ⟨p, hp⟩ := Option.isSome_iff_exists.mp (h.placed f hf)
    have he : (f.report c.rule).message? = some ⟨c.rule, f.text, p.stop.line, p.stop.column⟩ := by
      simp [Finding.report, Report.message?, hp]
    exact hm _ ⟨_, ⟨f, hf, rfl⟩, he⟩
  case mpr =>
    rintro hf m ⟨_, ⟨f, hm, rfl⟩, he⟩
    obtain ⟨_, _, he⟩ := Option.map_eq_some_iff.mp he
    exact he ▸ hf f hm

-- The texts of the messages are those in which the active rules tell what they find.
theorem Engine.forall_text_iff {e : Engine} {rules : List Rule} {config : Config} {root : Node}
    {path : Option String} {s : Scheduler} (hb : build rules config = .ok e)
    (hl : ∀ r ∈ e.active, r.Lone online) (ok : (e.validateTree root path s).result = .ok ms) :
    (∀ m ∈ ms, P m.text) ↔
      ∀ r ∈ e.active, ∀ f ∈ r.found (contextOf root path) (Visit.mk 0 root).walk, P f.text := by
  obtain ⟨_, hc, hm⟩ := (validateTree_eq_ok_iff hb hl).mp ok
  have found {r : Rule} {f : Finding} :
      f ∈ r.found (contextOf root path) (Visit.mk 0 root).walk ↔
        ∃ a, r.activate? (contextOf root path) = some a ∧
          ∃ c ∈ ProposalLint.contributions (Visit.mk 0 root).walk [a], f ∈ c.effect.findings := by
    cases ha : r.activate? (contextOf root path) <;>
      simp [Rule.found, activeRules, ha, contributions_nil]
  have texts : (∀ m ∈ ms, P m.text) ↔
      ∀ c ∈ e.contributions root path, ∀ f ∈ c.effect.findings, P f.text := by
    rw [hm, List.forall_mem_flatMap]
    exact forall₂_congr fun c hm => (hc c hm).forall_text_iff
  rw [texts]
  constructor
  case mp =>
    intro h r hr f hf
    obtain ⟨a, ha, c, hc, hf⟩ := found.mp hf
    have ha : a ∈ activeRules (contextOf root path) e.active := List.mem_filterMap.mpr ⟨r, hr, ha⟩
    exact h c (mem_contributions_iff.mpr ⟨a, ha, hc⟩) f hf
  case mpr =>
    intro h c hc f hf
    obtain ⟨a, ha, hc⟩ := mem_contributions_iff.mp hc
    obtain ⟨r, hr, ha⟩ := List.mem_filterMap.mp ha
    exact h r hr f (found.mpr ⟨a, ha, c, hc, hf⟩)

end Texts
end ProposalLint

import ProposalLint.Engine.Rule

namespace ProposalLint.Action

variable {σ α : Type} {rule : String} {r r' : Running σ}

-- `Op rule a finding b` says that `b` can be left of `a` after one operation, in which `finding`
-- was taken, while `rule` is the current rule. Nothing is said about the answers that depend on the
-- work of others: the number of reports and the state of the rule.
inductive Op (rule : String) : Action σ α → Option Finding → Action σ α → Prop
  | reporting : Op rule (reporting f next) (some f) (next (.ok ()))
  | noting : Op rule (noting n next) none next
  | requesting : Op rule (requesting line next) none next
  | launching : Op rule (launching l next) none next
  | askingRule : Op rule (askingRule next) none (next (some rule))
  | askingCount (count : Nat) : Op rule (askingCount next) none (next count)
  | updating (s : σ) : Op rule (updating change next) none (next s)
  | yielding : Op rule (yielding next) none next

-- The operations of an action up to some point, with the findings that were taken.
inductive Path (rule : String) : Action σ α → List Finding → Action σ α → Prop
  | refl : Path rule a [] a
  | snoc : (Path rule a findings b) → (Op rule b finding c) →
      Path rule a (findings ++ finding.toList) c

-- An action that has come to its end.
inductive Ended : Action σ Unit → Option Fault → Prop
  | done : Ended (done ()) none
  | stopped : Ended (stopped fault) (some fault)

-- `Completes rule a findings fault` says that `a` can come to its end with these findings.
def Completes (rule : String) (a : Action σ Unit) (findings : List Finding) (fault : Option Fault) :
    Prop :=
  ∃ b, Path rule a findings b ∧ Ended b fault

-- `Grows finding r r'` says what an operation can do to a run: it adds to the record at most the
-- finding that was taken, and it changes neither the current rule nor what happened before.
structure Grows (rule : String) (finding : Option Finding) (r r' : Running σ) : Prop where
  current    : r'.trace.current = r.trace.current
  reports    : r'.trace.reports = r.trace.reports ++ finding.toList.map (·.report rule)
  dispatches : r'.trace.dispatches = r.trace.dispatches

theorem Grows.refl : Grows rule none r r where
  current := rfl
  reports := by simp
  dispatches := rfl

theorem op_of_working (hc : r.trace.current = some rule)
    (h : perform r a = (.working finding rest, r')) :
    Op rule a finding rest ∧ Grows rule finding r r' := by
  cases a <;> simp only [perform, Trace.stamp, hc] at h
  case done | stopped | yielding => simp at h
  all_goals
    injection h with h hr
    injection h with hf hn
    subst hf hn hr
  case reporting => exact ⟨.reporting, rfl, by simp [Running.record], rfl⟩
  case noting => exact ⟨.noting, rfl, by simp [Running.note], rfl⟩
  case requesting => exact ⟨.requesting, rfl, by simp [Running.request], rfl⟩
  case launching => exact ⟨.launching, rfl, by simp [Running.launch], rfl⟩
  case askingRule => exact ⟨.askingRule, .refl⟩
  case askingCount => exact ⟨.askingCount _, .refl⟩
  case updating => exact ⟨.updating _, rfl, by simp [Running.update], rfl⟩

theorem op_of_yielded (h : perform r a = (.yielded rest, r')) : Op rule a none rest ∧ r' = r := by
  cases a <;> simp only [perform] at h
  case reporting => split at h <;> simp at h
  case yielding =>
    injection h with h hr
    injection h with hn
    exact ⟨hn ▸ .yielding, hr.symm⟩
  all_goals simp at h

theorem ended_of_ended (h : perform r a = (.ended fault, r')) : Ended a fault ∧ r' = r := by
  cases a <;> simp only [perform] at h
  case reporting => split at h <;> simp at h
  case done | stopped =>
    injection h with h hr
    injection h with hf
    exact ⟨hf ▸ by constructor, hr.symm⟩
  all_goals simp at h

section Run

variable {a : Action σ α}

-- While no rule is active nothing can be reported, so that the record keeps its reports.
theorem run_preserves (hc : r.trace.current = none) :
    (a.run r).2.trace.current = none ∧ (a.run r).2.trace.reports = r.trace.reports ∧
      (a.run r).2.trace.dispatches = r.trace.dispatches := by
  induction a generalizing r <;> simp only [run, Trace.stamp, hc]
  case done | stopped => exact ⟨trivial, trivial, trivial⟩
  case reporting ih | askingRule ih | askingCount ih | updating ih => exact ih _ hc
  case noting ih | requesting ih | launching ih | yielding ih => exact ih hc

-- What an action comes to depends on the record only through the current rule and the number of
-- reports, for it can ask for nothing else.
theorem run_agnostic {t t' : Trace} {s : σ} (hc : t.current = none) (hc' : t'.current = none)
    (hr : t.reports.length = t'.reports.length) : (a.run ⟨t, s⟩).1 = (a.run ⟨t', s⟩).1 := by
  induction a generalizing t t' s <;> simp only [run, Trace.stamp, hc, hc']
  case reporting ih | askingRule ih | updating ih => exact ih _ hc hc' hr
  case askingCount ih => exact hr ▸ ih _ hc hc' hr
  case noting ih | requesting ih | launching ih | yielding ih => exact ih hc hc' hr

end Run
end ProposalLint.Action

import ProposalLint.Proofs.Engine.Pool

namespace ProposalLint

-- What some work adds to the record of a run.
@[ext]
structure Effect where
  findings : List Finding := []
  notes    : List Note := []
  requests : List String := []
  launches : List Launch := []

namespace Effect

instance : Append Effect where
  append e f :=
    ⟨e.findings ++ f.findings, e.notes ++ f.notes, e.requests ++ f.requests,
      e.launches ++ f.launches⟩

@[simp]
theorem findings_append (e f : Effect) : (e ++ f).findings = e.findings ++ f.findings :=
  rfl

@[simp]
theorem notes_append (e f : Effect) : (e ++ f).notes = e.notes ++ f.notes :=
  rfl

@[simp]
theorem requests_append (e f : Effect) : (e ++ f).requests = e.requests ++ f.requests :=
  rfl

@[simp]
theorem launches_append (e f : Effect) : (e ++ f).launches = e.launches ++ f.launches :=
  rfl

@[simp]
theorem append_empty (e : Effect) : e ++ ({} : Effect) = e := by
  ext1 <;> simp

@[simp]
theorem empty_append (e : Effect) : ({} : Effect) ++ e = e := by
  ext1 <;> simp

theorem append_assoc (e f g : Effect) : e ++ f ++ g = e ++ (f ++ g) := by
  ext1 <;> simp

-- All effects, one behind the other.
def all (es : List Effect) : Effect where
  findings := es.flatMap (·.findings)
  notes := es.flatMap (·.notes)
  requests := es.flatMap (·.requests)
  launches := es.flatMap (·.launches)

@[simp]
theorem all_nil : all [] = {} :=
  rfl

@[simp]
theorem all_cons (e : Effect) (es : List Effect) : all (e :: es) = e ++ all es :=
  rfl

end Effect

-- The record after some work of a rule.
def Trace.add (t : Trace) (rule : String) (e : Effect) : Trace :=
  { t with
    reports := t.reports ++ e.findings.map (·.report rule)
    notes := t.notes ++ e.notes
    requests := t.requests ++ e.requests
    launches := t.launches ++ e.launches }

namespace Trace

@[simp]
theorem add_empty (t : Trace) (rule : String) : t.add rule {} = t := by
  simp [add]

@[simp]
theorem add_add (t : Trace) (rule : String) (e f : Effect) :
    (t.add rule e).add rule f = t.add rule (e ++ f) := by
  simp [add]

@[simp]
theorem length_reports_add (t : Trace) (rule : String) (e : Effect) :
    (t.add rule e).reports.length = t.reports.length + e.findings.length := by
  simp [add]

end Trace

-- What comes of work that nothing else interrupts.
structure Ending (σ α : Type) where
  result : Except Fault α
  state  : σ
  effect : Effect

namespace Ending

variable {σ α : Type}

-- The same with an effect in front.
def after (e : Ending σ α) (before : Effect) : Ending σ α :=
  { e with effect := before ++ e.effect }

@[simp]
theorem result_after (e : Ending σ α) (before : Effect) : (e.after before).result = e.result :=
  rfl

@[simp]
theorem state_after (e : Ending σ α) (before : Effect) : (e.after before).state = e.state :=
  rfl

@[simp]
theorem effect_after (e : Ending σ α) (before : Effect) :
    (e.after before).effect = before ++ e.effect :=
  rfl

@[simp]
theorem after_empty (e : Ending σ α) : e.after {} = e := by
  simp [after]

def fault? (e : Ending σ α) : Option Fault :=
  match e.result with
  | .ok _ => none
  | .error fault => some fault

@[simp]
theorem fault?_after (e : Ending σ α) (before : Effect) : (e.after before).fault? = e.fault? :=
  rfl

-- Goes on with the value, the state and the number of findings so far, if there is a value.
def bind (e : Ending σ α) (next : α → σ → Nat → Ending σ β) : Ending σ β :=
  match e.result with
  | .ok x => (next x e.state e.effect.findings.length).after e.effect
  | .error fault => ⟨.error fault, e.state, e.effect⟩

theorem after_bind (e : Ending σ α) (before : Effect) (next : α → σ → Nat → Ending σ β) :
    (e.after before).bind next =
      (e.bind fun x s n => next x s (before.findings.length + n)).after before := by
  simp only [bind, after]
  cases e.result
  case error => rfl
  case ok => simp [Effect.append_assoc]

end Ending

namespace Action

variable {σ α β : Type} {rule : String}

-- What an action of a rule comes to when nothing else runs and there are `count` reports.
def alone (rule : String) : Action σ α → (count : Nat) → σ → Ending σ α
  | done x, _, s => ⟨.ok x, s, {}⟩
  | stopped fault, _, s => ⟨.error fault, s, {}⟩
  | reporting f next, count, s =>
    ((next (.ok ())).alone rule (count + 1) s).after { findings := [f] }
  | noting n next, count, s => (next.alone rule count s).after { notes := [n] }
  | requesting line next, count, s => (next.alone rule count s).after { requests := [line] }
  | launching l next, count, s => (next.alone rule count s).after { launches := [l] }
  | askingRule next, count, s => (next (some rule)).alone rule count s
  | askingCount next, count, s => (next count).alone rule count s
  | updating change next, count, s => (next s).alone rule count (change s)
  | yielding next, count, s => next.alone rule count s

variable {count : Nat} {s : σ}

theorem alone_bind (a : Action σ α) (f : α → Action σ β) :
    (a >>= f).alone rule count s =
      (a.alone rule count s).bind fun x s n => (f x).alone rule (count + n) s := by
  change (a.bind f).alone rule count s = _
  induction a generalizing count s
  case done => simp [Action.bind, alone, Ending.bind]
  case stopped => rfl
  case reporting ih => simp [Action.bind, alone, Ending.after_bind, ih, Nat.add_assoc]
  case noting ih | requesting ih | launching ih =>
    simp [Action.bind, alone, Ending.after_bind, ih]
  case askingRule ih | askingCount ih | updating ih => simp [Action.bind, alone, ih]
  case yielding ih => simp [Action.bind, alone, ih]

@[simp]
theorem alone_pure (x : α) : (pure x : Action σ α).alone rule count s = ⟨.ok x, s, {}⟩ :=
  rfl

@[simp]
theorem alone_fail (cause : RuleError) :
    (fail cause : Action σ α).alone rule count s = ⟨.error (.error cause), s, {}⟩ :=
  rfl

@[simp]
theorem alone_report (n : Node) (text : String) :
    (report n text : Action σ Unit).alone rule count s = ⟨.ok (), s, { findings := [⟨n, text⟩] }⟩ :=
  rfl

@[simp]
theorem alone_note (n : Note) :
    (note n : Action σ Unit).alone rule count s = ⟨.ok (), s, { notes := [n] }⟩ :=
  rfl

@[simp]
theorem alone_request (line : String) :
    (request line : Action σ Unit).alone rule count s = ⟨.ok (), s, { requests := [line] }⟩ :=
  rfl

@[simp]
theorem alone_launch (l : Launch) :
    (launch l : Action σ Unit).alone rule count s = ⟨.ok (), s, { launches := [l] }⟩ :=
  rfl

@[simp]
theorem alone_update (change : σ → σ) :
    (update change : Action σ σ).alone rule count s = ⟨.ok s, change s, {}⟩ :=
  rfl

-- A round of a loop that goes well leaves its effect, and the loop all of them.
theorem alone_forM {f : α → Action σ Unit} {xs : List α} (effect : α → Effect)
    (h : ∀ x ∈ xs, ∀ count, (f x).alone rule count s = ⟨.ok (), s, effect x⟩) :
    (xs.forM f).alone rule count s = ⟨.ok (), s, Effect.all (xs.map effect)⟩ := by
  induction xs generalizing count
  case nil => rfl
  case cons x xs ih =>
    have ⟨hx, hxs⟩ := List.forall_mem_cons.mp h
    simp only [List.forM_eq_forM, List.forM_cons, alone_bind, hx, Ending.bind] at ih ⊢
    rw [ih hxs]
    rfl

-- `Lone online a` says that `a` never asks how many reports there are, so that it takes no notice
-- of other rules, and that it asks a server only if `online`.
inductive Lone (online : Prop) : Action σ α → Prop
  | done : Lone online (done x)
  | stopped : Lone online (stopped fault)
  | reporting : (Lone online (next (.ok ()))) → Lone online (reporting f next)
  | noting : (Lone online next) → Lone online (noting n next)
  | requesting : online → (Lone online next) → Lone online (requesting line next)
  | launching : (Lone online next) → Lone online (launching l next)
  | askingRule : (∀ id, Lone online (next id)) → Lone online (askingRule next)
  | updating : (∀ s, Lone online (next s)) → Lone online (updating change next)
  | yielding : (Lone online next) → Lone online (yielding next)

namespace Lone

variable {online : Prop}

theorem bind {a : Action σ α} {f : α → Action σ β} (ha : Lone online a)
    (hf : ∀ x, Lone online (f x)) : Lone online (a >>= f) := by
  induction ha
  case done => exact hf _
  case stopped => exact .stopped
  case reporting ih => exact .reporting ih
  case noting ih => exact .noting ih
  case requesting h _ ih => exact .requesting h ih
  case launching ih => exact .launching ih
  case askingRule ih => exact .askingRule ih
  case updating ih => exact .updating ih
  case yielding ih => exact .yielding ih

theorem report (n : Node) (text : String) : Lone online (report n text : Action σ Unit) :=
  .reporting .done

theorem report_if (cond : Bool) :
    Lone online (if cond then Action.report n text else .done () : Action σ Unit) := by
  cases cond
  case true => exact report n text
  case false => exact .done

theorem note (n : Note) : Lone online (note n : Action σ Unit) :=
  .noting .done

theorem update (change : σ → σ) : Lone online (update change : Action σ σ) :=
  .updating fun _ => .done

theorem forM {f : α → Action σ Unit} (h : ∀ x, Lone online (f x)) (xs : List α) :
    Lone online (xs.forM f) := by
  induction xs
  case nil => exact .done
  case cons x xs ih => exact (h x).bind fun _ => ih

theorem alone_eq {a : Action σ α} (h : Lone online a) (rule : String) (count : Nat) (s : σ) :
    a.alone rule count s = a.alone rule 0 s := by
  have any (count count' : Nat) : a.alone rule count s = a.alone rule count' s := by
    induction h generalizing count count' s
    case done | stopped => rfl
    case reporting ih => rw [alone, ih s (count + 1) (count' + 1), ← alone]
    case noting ih | requesting ih | launching ih => rw [alone, ih s count count', ← alone]
    case askingRule ih | updating ih => exact ih _ _ count count'
    case yielding ih => exact ih s count count'
  exact any count 0

theorem requests_eq_nil {a : Action σ α} (h : Lone False a) (rule : String) (count : Nat) (s : σ) :
    (a.alone rule count s).effect.requests = [] := by
  induction h generalizing count s
  case done | stopped => rfl
  case reporting ih | noting ih | launching ih => simpa [alone] using ih _ s
  case requesting h _ _ => exact h.elim
  case askingRule ih | updating ih => exact ih _ count _
  case yielding ih => exact ih count s

end Lone

-- `Quiet a` says that `a` does nothing but write to the log and start programs.
inductive Quiet : Action σ α → Prop
  | done : Quiet (done x)
  | stopped : Quiet (stopped fault)
  | noting : (Quiet next) → Quiet (noting n next)
  | launching : (Quiet next) → Quiet (launching l next)

namespace Quiet

theorem bind {a : Action σ α} {f : α → Action σ β} (ha : Quiet a) (hf : ∀ x, Quiet (f x)) :
    Quiet (a >>= f) := by
  induction ha
  case done => exact hf _
  case stopped => exact .stopped
  case noting ih => exact .noting ih
  case launching ih => exact .launching ih

theorem lone {online : Prop} {a : Action σ α} (h : Quiet a) : Lone online a := by
  induction h
  case done => exact .done
  case stopped => exact .stopped
  case noting ih => exact .noting ih
  case launching ih => exact .launching ih

end Quiet
end Action

namespace Pool

variable {σ : Type} {rule : String} {sch : Scheduler}

section Single

variable {t t' : Trace} {s s' : σ} (turns : List Turn) (fault : Option Fault) (state : sch.State)

theorem choose_single (c : Call σ) (ho : c.isOpen) (i : Nat) :
    (Pool.mk [c] ⟨t, s⟩ turns fault).choose i = some 0 := by
  cases i <;> simp [choose, ho]

theorem choose_closed (i : Nat) :
    (Pool.mk [.closed] ⟨t, s⟩ turns fault).choose i = none := by
  cases i <;> simp [choose, Call.isOpen]

theorem settle_called (start : Action σ Unit) :
    ∃ next, (Pool.mk [.waiting start] ⟨t, s⟩ turns fault).settle sch state =
      (Pool.mk [.active start] ⟨t, s⟩ (turns ++ [⟨0, .called⟩]) fault).settle sch next := by
  rw [settle_eq_step (choose_single turns fault _ rfl _)]
  exact ⟨_, rfl⟩

theorem settle_working (h : Action.perform ⟨t, s⟩ a = (.working finding rest, ⟨t', s'⟩)) :
    ∃ next, (Pool.mk [.active a] ⟨t, s⟩ turns fault).settle sch state =
      (Pool.mk [.active rest] ⟨t', s'⟩ (turns ++ finding.toList.map (⟨0, .reported ·⟩))
        fault).settle sch next := by
  rw [settle_eq_step (choose_single turns fault _ rfl _)]
  cases finding <;> simp only [step, List.getElem?_cons_zero, h, record]
  case none => exact ⟨_, by simp; rfl⟩
  case some => exact ⟨_, rfl⟩

theorem settle_yielded (h : Action.perform ⟨t, s⟩ a = (.yielded rest, ⟨t', s'⟩)) :
    ∃ next, (Pool.mk [.active a] ⟨t, s⟩ turns fault).settle sch state =
      (Pool.mk [.active rest] ⟨t', s'⟩ turns fault).settle sch next := by
  rw [settle_eq_step (choose_single turns fault _ rfl _)]
  simp only [step, List.getElem?_cons_zero, h]
  exact ⟨_, rfl⟩

theorem settle_ended (h : Action.perform ⟨t, s⟩ a = (.ended f, ⟨t', s'⟩)) :
    ((Pool.mk [.active a] ⟨t, s⟩ turns fault).settle sch state).2 =
      ⟨[.closed], ⟨t', s'⟩, turns ++ [⟨0, .ended f⟩], fault.or f⟩ := by
  rw [settle_eq_step (choose_single turns fault _ rfl _)]
  simp only [step, List.getElem?_cons_zero, h, record, List.set_cons_zero]
  rw [settle_eq_self (choose_closed ..)]

end Single

-- A call that is the only one does its work as if there were no pool.
theorem settle_alone (a : Action σ Unit) (t : Trace) (s : σ) (turns : List Turn)
    (fault : Option Fault) (state : sch.State) (hc : t.current = some rule) :
    let e := a.alone rule t.reports.length s
    ((Pool.mk [.active a] ⟨t, s⟩ turns fault).settle sch state).2 =
      ⟨[.closed], ⟨t.add rule e.effect, e.state⟩,
        turns ++ e.effect.findings.map (⟨0, .reported ·⟩) ++ [⟨0, .ended e.fault?⟩],
        fault.or e.fault?⟩ := by
  induction a generalizing t s turns state
  case done | stopped =>
    rw [settle_ended turns fault state rfl]
    simp [Action.alone, Ending.fault?]
  case reporting f next ih =>
    have hp : Action.perform ⟨t, s⟩ (.reporting f next) =
        (.working (some f) (next (.ok ())), ⟨t.add rule { findings := [f] }, s⟩) := by
      simp [Action.perform, Trace.stamp, hc, Running.record, Trace.add]
    obtain ⟨_, h⟩ := settle_working turns fault state hp
    rw [h, ih _ (t.add rule { findings := [f] }) _ _ _ hc]
    simp [Action.alone]
  case noting n next ih =>
    have hp : Action.perform ⟨t, s⟩ (.noting n next) =
        (.working none next, ⟨t.add rule { notes := [n] }, s⟩) := by
      simp [Action.perform, Running.note, Trace.add]
    obtain ⟨_, h⟩ := settle_working turns fault state hp
    rw [h, ih (t.add rule { notes := [n] }) _ _ _ hc]
    simp [Action.alone]
  case requesting line next ih =>
    have hp : Action.perform ⟨t, s⟩ (.requesting line next) =
        (.working none next, ⟨t.add rule { requests := [line] }, s⟩) := by
      simp [Action.perform, Running.request, Trace.add]
    obtain ⟨_, h⟩ := settle_working turns fault state hp
    rw [h, ih (t.add rule { requests := [line] }) _ _ _ hc]
    simp [Action.alone]
  case launching l next ih =>
    have hp : Action.perform ⟨t, s⟩ (.launching l next) =
        (.working none next, ⟨t.add rule { launches := [l] }, s⟩) := by
      simp [Action.perform, Running.launch, Trace.add]
    obtain ⟨_, h⟩ := settle_working turns fault state hp
    rw [h, ih (t.add rule { launches := [l] }) _ _ _ hc]
    simp [Action.alone]
  case askingRule next ih =>
    have hp : Action.perform ⟨t, s⟩ (.askingRule next) =
        (.working none (next (some rule)), ⟨t, s⟩) := by
      simp [Action.perform, hc]
    obtain ⟨_, h⟩ := settle_working turns fault state hp
    rw [h, ih _ _ _ _ _ hc]
    simp [Action.alone]
  case askingCount next ih =>
    obtain ⟨_, h⟩ := settle_working (t := t) (s := s) (a := .askingCount next) turns fault state rfl
    rw [h, ih _ _ _ _ _ hc]
    simp [Action.alone]
  case updating change next ih =>
    obtain ⟨_, h⟩ := settle_working (t := t) (s := s) (a := .updating change next) turns fault state
      rfl
    rw [h, ih _ _ _ _ _ hc]
    simp [Action.alone]
  case yielding next ih =>
    obtain ⟨_, h⟩ := settle_yielded (t := t) (s := s) (a := .yielding next) turns fault state rfl
    rw [h, ih _ _ _ _ hc]
    simp [Action.alone]

end Pool
end ProposalLint

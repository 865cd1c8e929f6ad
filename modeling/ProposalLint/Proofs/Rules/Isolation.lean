import ProposalLint.Proofs.Engine.Session
import ProposalLint.Proofs.Rules.Separate
import ProposalLint.Rules.Script

namespace ProposalLint

namespace RuleName

variable {world : World} {s : RuleSettings} {names : List RuleName} {config : Config}

theorem validate_timing (h : names.Nodup) (turns : Nat → List Nat) (sch sch' : Scheduler)
    (job : Job) : ((engine world s config names).validate sch job).result =
      ((engine (world.withTurns turns) s config names).validate sch' job).result := by
  cases job
  case tree | source => exact validateTree_timing h turns sch sch'
  case file fs path =>
    simp only [Engine.validate, Engine.validateFile]
    cases fs.readText path
    case error => rfl
    case ok => exact validateTree_timing h turns sch sch'

end RuleName

namespace Engine

variable {e fresh : Engine} {rules : List Rule} {config : Config}

-- Runs on `e` come out as they do on `fresh`, which has not been used before, whatever was before
-- them. An outcome that depends on the scheduler is one that it can bring about on `fresh` as well.
structure Isolated (e fresh : Engine) : Prop where
  runs   : ∀ s state jobs, List.Forall₂
    (fun job o => ∃ now, o = fresh.validate (s.resumedAt now) job) jobs (e.session s state jobs)
  same   : ∀ s, s.Forgetful → ∀ state jobs, e.session s state jobs = jobs.map (fresh.validate s)
  files  : ∀ fs s paths, Collected (fresh.alone fs s) paths (e.validateFiles fs paths s).result
  unread : ∀ fs s before path after cause, fresh.alone fs s path = .error cause →
    ∀ fs' after', (∀ p ∈ before ++ [path], fs'.readText p = fs.readText p) →
      e.validateFiles fs' (before ++ path :: after') s =
        e.validateFiles fs (before ++ path :: after) s

-- On `fresh` runs have the results that they have on `e`, however the work that runs side by side
-- gets on.
structure Steady (e fresh : Engine) : Prop where
  runs  : ∀ s state jobs s', List.Forall₂ (fun job o => o.result = (fresh.validate s' job).result)
    jobs (e.session s state jobs)
  files : ∀ fs s paths s', Collected (fresh.alone fs s') paths (e.validateFiles fs paths s).result

theorem isolated (e : Engine) : e.Isolated e where
  runs := e.session_outcomes
  same _ hs := session_of_forgetful hs e
  files := e.validateFiles_collected
  unread _ _ _ _ after _ hf _ after' hr := validateFiles_unread hf hr after after'

theorem steady_of_timing
    (h : ∀ s s' job, (e.validate s job).result = (fresh.validate s' job).result) :
    e.Steady fresh where
  runs s state jobs s' := by
    refine (e.session_outcomes s state jobs).imp ?_
    rintro job o ⟨now, rfl⟩
    exact h (s.resumedAt now) s' job
  files fs s paths s' := by
    have halone : fresh.alone fs s' = e.alone fs s := funext fun path => (h s s' (.file fs path)).symm
    exact halone ▸ e.validateFiles_collected fs s paths

-- Nothing of a run is left for the runs that follow it, also not of one that fails. With rules of the
-- catalogue not even the scheduling makes a difference.
theorem validate_isolated (rules : List Rule) (config : Config) (h : build rules config = .ok e) :
    (∀ fresh, build rules config = .ok fresh → e.Isolated fresh) ∧
    ∀ world settings (names : List RuleName), rules = names.map (RuleName.rule world settings) →
      ∀ turns fresh,
        build (names.map (RuleName.rule (world.withTurns turns) settings)) config = .ok fresh →
          e.Steady fresh := by
  have ⟨hn, he⟩ := build_eq_ok_iff.mp h
  subst he
  refine ⟨?fresh, ?catalogue⟩
  case fresh =>
    intro fresh hf
    have ⟨_, hf⟩ := build_eq_ok_iff.mp hf
    exact hf ▸ isolated _
  case catalogue =>
    intro world settings names hr turns fresh hf
    have ⟨_, hf⟩ := build_eq_ok_iff.mp hf
    subst hr hf
    have hnames : names.Nodup := .of_map RuleName.id
      (by simpa [RuleName.rule_id, Function.comp_def] using hn)
    exact steady_of_timing fun s s' job => RuleName.validate_timing hnames turns s s' job

-- The validator that counts its calls starts again behind a run that panics and behind a file that
-- is not there. The checks of links take turns in one run and not in the other.
theorem validate_isolated_of_counter :
    let rule := Script.ScriptRule.rule ⟨"counter", [],
      [⟨"*", true, [.once "first", .state, .yield, .calls]⟩, ⟨"html", true, [.panic]⟩]⟩
    let place : Option Position := some ⟨⟨1, 1, some 0⟩, ⟨1, 5, some 4⟩⟩
    let calm := Job.tree (.leaf .text place (.literal "text")) none
    let panicking := Job.tree (.leaf .html place (.literal "<br>")) none
    let missing := Job.file {} "missing.md"
    let jobs := [calm, panicking, calm, missing, calm]
    let ms : List Message :=
      [⟨"counter", "first", 1, 5⟩, ⟨"counter", "counter 1", 1, 5⟩, ⟨"counter", "call 0", 1, 5⟩]
    let e : Engine := ⟨[rule], {}⟩
    let world : World := { today := ⟨2024, 1, 2⟩ }
    let linkEngine (world : World) : Engine := ⟨[Rules.copyright, Rules.badLink world], {}⟩
    build [rule] {} = .ok e ∧
    (e.session .rounds {} jobs).map (·.result) = [.ok ms, .error (.panicked "counter"), .ok ms,
      .error (.io "missing.md" "No such file or directory (os error 2)"), .ok ms] ∧
    e.Isolated e ∧ (linkEngine world).Steady (linkEngine (world.withTurns fun _ => [1, 0])) := by
  intro rule place calm panicking missing jobs ms e world linkEngine
  have h : build [rule] {} = .ok e := rfl
  have ha : e.active = [rule] := rfl
  have hcalm : (e.validate .rounds calm).result = .ok ms := by
    subst calm
    rw [validate, validateTree, ha]
    subst e ms place rule
    cbv
  have hpanicking : (e.validate .rounds panicking).result = .error (.panicked "counter") := by
    subst panicking
    rw [validate, validateTree, ha]
    subst e ms place rule
    cbv
  have hmissing : (e.validate .rounds missing).result =
      .error (.io "missing.md" "No such file or directory (os error 2)") := by
    have hread : FileSystem.readText {} "missing.md" = .error .notFound := rfl
    simp only [missing, validate, validateFile, hread, FileError.message]
  refine ⟨h, ?results, (validate_isolated [rule] {} h).left e h, ?links⟩
  case results =>
    have hsession : e.session .rounds {} jobs = jobs.map (e.validate .rounds) :=
      session_of_forgetful Scheduler.rounds_forgetful e {} jobs
    simp only [hsession, jobs, List.map_cons, List.map_nil, hcalm, hpanicking, hmissing]
  case links =>
    exact (validate_isolated _ {} rfl).right world {} [.copyright, .badLink] rfl _ _ rfl

end Engine
end ProposalLint

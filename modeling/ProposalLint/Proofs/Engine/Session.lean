import Mathlib.Data.List.Forall2
import ProposalLint.Engine.Batch
import ProposalLint.Proofs.Engine.Outcome

namespace ProposalLint

namespace Scheduler

-- The scheduler as it is after it has come to `state`.
abbrev resumedAt (s : Scheduler) (state : s.State) : Scheduler :=
  { s with start := state }

-- What a scheduler decides about the calls of a rule does not depend on what was before them.
def Forgetful (s : Scheduler) : Prop :=
  ∀ state state' calls, s.enter state calls = s.enter state' calls

theorem rounds_forgetful : rounds.Forgetful :=
  fun _ _ _ => rfl

-- `within` are states in which two schedulers go on to decide the same about the calls of a rule,
-- and `between` are states in which they will decide the same about the next rules.
structure Mimics (s s' : Scheduler) where
  between : s.State → s'.State → Prop
  within  : s.State → s'.State → Prop
  enter   : between a b → within (s.enter a calls) (s'.enter b calls)
  pick    : within a b → s.pick a = s'.pick b
  turn    : within a b → within (s.turn a m) (s'.turn b m)
  leave   : within a b → between a b

namespace Mimics

def resumed (s : Scheduler) (state : s.State) : s.Mimics (s.resumedAt state) where
  between := Eq
  within := Eq
  enter h := congrArg (s.enter · _) h
  pick h := congrArg s.pick h
  turn h := congrArg (s.turn · _) h
  leave h := h

def ofForgetful {s : Scheduler} (h : s.Forgetful) : s.Mimics s where
  between _ _ := True
  within := Eq
  enter _ := h _ _ _
  pick h := congrArg s.pick h
  turn h := congrArg (s.turn · _) h
  leave _ := trivial

variable {s s' : Scheduler} (m : s.Mimics s')

theorem settle {σ : Type} {p : Pool σ} (h : m.within a b) :
    (p.settle s a).2 = (p.settle s' b).2 ∧ m.within (p.settle s a).1 (p.settle s' b).1 := by
  induction a, p using Pool.settle.induct s generalizing b
  case case1 p hc =>
    have hc' : p.choose (s'.pick b) = none := m.pick h ▸ hc
    rw [Pool.settle_eq_self hc, Pool.settle_eq_self hc']
    exact ⟨rfl, h⟩
  case case2 p i hc _ ih =>
    have hc' : p.choose (s'.pick b) = some i := m.pick h ▸ hc
    rw [Pool.settle_eq_step hc, Pool.settle_eq_step hc']
    exact ih (m.turn h)

-- Runs that stand at the same place under the two schedulers.
structure Alike (c : RunState s) (c' : RunState s') : Prop where
  trace    : c.trace = c'.trace
  schedule : m.between c.schedule c'.schedule

theorem dispatch {c : RunState s} {c' : RunState s'} (h : m.Alike c c') (r : ActiveRule)
    (v : Visit) : ∃ r' d d' error, r.dispatch v c = (r', d, error) ∧
      r.dispatch v c' = (r', d', error) ∧ m.Alike d d' := by
  simp only [ActiveRule.dispatch, ← h.trace]
  split
  case isTrue => exact ⟨_, _, _, _, rfl, rfl, rfl, h.schedule⟩
  case isFalse =>
    let p := r.pool v c.trace
    have hw : m.within (s.enter c.schedule p.openCalls) (s'.enter c'.schedule p.openCalls) :=
      m.enter h.schedule
    obtain ⟨hp, hw⟩ := m.settle (p := p) hw
    rw [← hp]
    exact ⟨_, _, _, _, rfl, rfl, rfl, m.leave hw⟩

theorem dispatchAll {c : RunState s} {c' : RunState s'} (h : m.Alike c c')
    (rules : List ActiveRule) (v : Visit) : ∃ rules' d d' error,
      ProposalLint.dispatchAll v rules c = (rules', d, error) ∧
      ProposalLint.dispatchAll v rules c' = (rules', d', error) ∧ m.Alike d d' := by
  induction rules generalizing c c'
  case nil => exact ⟨_, _, _, _, rfl, rfl, h⟩
  case cons r rules ih =>
    obtain ⟨_, _, _, error, hd, hd', h⟩ := m.dispatch h r v
    simp only [ProposalLint.dispatchAll, hd, hd']
    cases error
    case some => exact ⟨_, _, _, _, rfl, rfl, h⟩
    case none =>
      obtain ⟨_, _, _, _, ha, ha', h⟩ := ih h
      simp only [ha, ha']
      exact ⟨_, _, _, _, rfl, rfl, h⟩

theorem visitAll {c : RunState s} {c' : RunState s'} (h : m.Alike c c')
    (rules : List ActiveRule) (vs : List Visit) : ∃ d d' error,
      ProposalLint.visitAll vs rules c = (d, error) ∧
      ProposalLint.visitAll vs rules c' = (d', error) ∧ m.Alike d d' := by
  induction vs generalizing rules c c'
  case nil => exact ⟨_, _, _, rfl, rfl, h⟩
  case cons v vs ih =>
    obtain ⟨rules', _, _, error, hd, hd', h⟩ := m.dispatchAll h rules v
    simp only [ProposalLint.visitAll, hd, hd']
    cases error
    case some => exact ⟨_, _, _, rfl, rfl, h⟩
    case none => exact ih h rules'

end Mimics
end Scheduler

-- What a run is asked to check. A file is read when its turn comes.
inductive Job where
  | tree (root : Node) (path : Option String)
  | source (text : String) (path : Option String)
  | file (fs : FileSystem) (path : String)

namespace Engine

variable {s s' : Scheduler}

def validate (e : Engine) (s : Scheduler) : Job → Outcome
  | .tree root path => e.validateTree root path s
  | .source text path => e.validateSource text path s
  | .file fs path => e.validateFile fs path s

-- Checks a tree with a scheduler that has come to `state`, and tells what it comes to.
def resumeTree (e : Engine) (root : Node) (path : Option String) (s : Scheduler)
    (state : s.State) : Outcome × s.State :=
  match firstRepeated? (e.active.map (·.id)) with
  | some id => (⟨.error (.duplicateRule id), {}, []⟩, state)
  | none =>
    match createAll (contextOf root path) e.active {} [] with
    | (.error cause, t, created) => (⟨.error cause, t, created⟩, state)
    | (.ok rules, t, created) =>
      match visitAll (Visit.mk 0 root).walk rules ⟨t, state⟩ with
      | (c, some cause) => (⟨.error cause, c.trace, created⟩, c.schedule)
      | (c, none) => (⟨messages c.trace.reports, c.trace, created⟩, c.schedule)

def resume (e : Engine) (s : Scheduler) (state : s.State) : Job → Outcome × s.State
  | .tree root path => e.resumeTree root path s state
  | .source text path => e.resumeTree (Markdown.parse text) path s state
  | .file fs path =>
    match fs.readText path with
    | .ok text => e.resumeTree (Markdown.parse text) (some path) s state
    | .error cause => (⟨.error (.io path cause.message), {}, []⟩, state)

-- Runs that follow one another on one engine, also behind runs that fail. The scheduler is the only
-- thing that goes on from run to run.
def session (e : Engine) (s : Scheduler) : s.State → List Job → List Outcome
  | _, [] => []
  | state, job :: jobs =>
    let (o, state) := e.resume s state job
    o :: e.session s state jobs

theorem resumeTree_start (e : Engine) (root : Node) (path : Option String) (s : Scheduler) :
    (e.resumeTree root path s s.start).1 = e.validateTree root path s := by
  unfold resumeTree validateTree contextOf
  cases firstRepeated? (e.active.map (·.id))
  case some => rfl
  case none =>
    dsimp only
    generalize createAll _ e.active {} [] = x
    obtain ⟨active, t, created⟩ := x
    cases active
    case error => rfl
    case ok active =>
      dsimp only
      generalize visitAll _ active _ = y
      obtain ⟨c, error⟩ := y
      cases error <;> rfl

theorem resume_start (e : Engine) (s : Scheduler) (job : Job) :
    (e.resume s s.start job).1 = e.validate s job := by
  cases job
  case tree | source => exact e.resumeTree_start ..
  case file fs path =>
    simp only [resume, validate, validateFile]
    cases fs.readText path
    case error => rfl
    case ok => exact e.resumeTree_start ..

-- Schedulers that decide the same let a run come out the same.
theorem resumeTree_mimics (m : s.Mimics s') (h : m.between a b) (e : Engine) (root : Node)
    (path : Option String) : (e.resumeTree root path s a).1 = (e.resumeTree root path s' b).1 := by
  unfold resumeTree
  cases firstRepeated? (e.active.map (·.id))
  case some => rfl
  case none =>
    dsimp only
    generalize createAll _ e.active {} [] = x
    obtain ⟨active, t, created⟩ := x
    cases active
    case error => rfl
    case ok active =>
      have halike : m.Alike ⟨t, a⟩ ⟨t, b⟩ := ⟨rfl, h⟩
      obtain ⟨c, c', error, hv, hv', hc⟩ := m.visitAll halike active (Visit.mk 0 root).walk
      cases error <;> simp only [hv, hv', hc.trace]

theorem resume_mimics (m : s.Mimics s') (h : m.between a b) (e : Engine) (job : Job) :
    (e.resume s a job).1 = (e.resume s' b job).1 := by
  cases job
  case tree | source => exact resumeTree_mimics m h ..
  case file fs path =>
    simp only [resume]
    cases fs.readText path
    case error => rfl
    case ok => exact resumeTree_mimics m h ..

-- Whatever was before, a run is one that the scheduler could have made from the start.
theorem session_outcomes (e : Engine) (s : Scheduler) (state : s.State) (jobs : List Job) :
    List.Forall₂ (fun job o => ∃ now, o = e.validate (s.resumedAt now) job) jobs
      (e.session s state jobs) := by
  induction jobs generalizing state
  case nil => exact .nil
  case cons job jobs ih =>
    refine .cons ⟨state, ?_⟩ (ih _)
    rw [← e.resume_start]
    exact resume_mimics (.resumed s state) rfl e job

theorem session_of_forgetful (hs : s.Forgetful) (e : Engine) (state : s.State)
    (jobs : List Job) : e.session s state jobs = jobs.map (e.validate s) := by
  induction jobs generalizing state
  case nil => rfl
  case cons job jobs ih =>
    have h : (e.resume s state job).1 = e.validate s job := by
      rw [← e.resume_start]
      exact resume_mimics (.ofForgetful hs) trivial e job
    simp only [session, ih, h, List.map_cons]

end Engine

-- What comes out of files that are checked one after another, given how each comes out alone: the
-- first that fails decides, and otherwise every file is there with what it has alone.
structure Collected (alone : String → Except EngineError (List Message)) (paths : List String)
    (result : Except EngineError LintResult) : Prop where
  succeeds : (∃ r, result = .ok r) ↔ ∀ path ∈ paths, ∃ ms, alone path = .ok ms
  files    : ∀ r, result = .ok r →
    List.Forall₂ (fun path f => f.path = path ∧ alone path = .ok f.messages) paths r.files
  fails    : ∀ cause, result = .error cause ↔ ∃ before path after,
    paths = before ++ path :: after ∧ (∀ p ∈ before, ∃ ms, alone p = .ok ms) ∧
      alone path = .error cause

namespace Engine

-- How the check of a file comes out when it is the only one.
def alone (e : Engine) (fs : FileSystem) (s : Scheduler) (path : String) :
    Except EngineError (List Message) :=
  (e.validateFile fs path s).result

section Files

variable {e : Engine} {fs fs' : FileSystem} {s : Scheduler} {paths before : List String}

theorem validateFrom_cons_of_ok (h : e.alone fs s path = .ok ms) (paths : List String)
    (r : LintResult) (notes : List Note) (requests : List String) :
    ∃ notes' requests', e.validateFrom fs s (path :: paths) r notes requests =
      e.validateFrom fs s paths ⟨r.files ++ [⟨path, ms⟩]⟩ notes' requests' := by
  unfold alone at h
  simp only [validateFrom, h]
  exact ⟨_, _, rfl⟩

theorem validateFrom_ok (h : ∀ path ∈ paths, ∃ ms, e.alone fs s path = .ok ms) (r : LintResult)
    (notes : List Note) (requests : List String) : ∃ files,
      List.Forall₂ (fun path f => f.path = path ∧ e.alone fs s path = .ok f.messages) paths files ∧
      (e.validateFrom fs s paths r notes requests).result = .ok ⟨r.files ++ files⟩ := by
  induction paths generalizing r notes requests
  case nil => exact ⟨[], .nil, by simp [validateFrom]⟩
  case cons path paths ih =>
    have ⟨⟨ms, hp⟩, hps⟩ := List.forall_mem_cons.mp h
    have ⟨notes', requests', he⟩ := validateFrom_cons_of_ok hp paths r notes requests
    have ⟨files, hf, hr⟩ := ih hps ⟨r.files ++ [⟨path, ms⟩]⟩ notes' requests'
    exact ⟨⟨path, ms⟩ :: files, .cons ⟨rfl, hp⟩ hf, by simp [he, hr]⟩

theorem validateFrom_error (hb : ∀ p ∈ before, ∃ ms, e.alone fs s p = .ok ms)
    (h : e.alone fs s path = .error cause) (after : List String) (r : LintResult)
    (notes : List Note) (requests : List String) :
    (e.validateFrom fs s (before ++ path :: after) r notes requests).result = .error cause := by
  induction before generalizing r notes requests
  case nil =>
    unfold alone at h
    simp only [List.nil_append, validateFrom, h]
  case cons p before ih =>
    have ⟨⟨_, hp⟩, hb⟩ := List.forall_mem_cons.mp hb
    have ⟨_, _, he⟩ := validateFrom_cons_of_ok hp (before ++ path :: after) r notes requests
    rw [List.cons_append, he]
    exact ih hb ..

-- Either all files succeed alone, or there is a first one that fails.
theorem alone_or_first_failure (e : Engine) (fs : FileSystem) (s : Scheduler)
    (paths : List String) :
    (∀ path ∈ paths, ∃ ms, e.alone fs s path = .ok ms) ∨
      ∃ before path after cause, paths = before ++ path :: after ∧
        (∀ p ∈ before, ∃ ms, e.alone fs s p = .ok ms) ∧ e.alone fs s path = .error cause := by
  refine (forall_or_first_not _ paths).imp_right ?_
  intro ⟨before, path, after, he, hb, hp⟩
  cases ha : e.alone fs s path
  case ok ms => exact absurd ⟨ms, ha⟩ hp
  case error cause => exact ⟨before, path, after, cause, he, hb, ha⟩

theorem validateFiles_collected (e : Engine) (fs : FileSystem) (s : Scheduler)
    (paths : List String) :
    Collected (e.alone fs s) paths (e.validateFiles fs paths s).result := by
  generalize hresult : (e.validateFiles fs paths s).result = result
  have succeeds (h : ∀ path ∈ paths, ∃ ms, e.alone fs s path = .ok ms) : ∃ files,
      List.Forall₂ (fun path f => f.path = path ∧ e.alone fs s path = .ok f.messages) paths files ∧
      result = .ok ⟨files⟩ := by
    have ⟨files, hf, hr⟩ := validateFrom_ok h {} [] []
    exact ⟨files, hf, hresult.symm.trans hr⟩
  have fails (before path after cause) (hp : paths = before ++ path :: after)
      (hb : ∀ p ∈ before, ∃ ms, e.alone fs s p = .ok ms) (hf : e.alone fs s path = .error cause) :
      result = .error cause := by
    subst hp
    exact hresult.symm.trans (validateFrom_error hb hf after {} [] [])
  cases e.alone_or_first_failure fs s paths
  case inl h =>
    have ⟨files, hf, hr⟩ := succeeds h
    subst hr
    refine ⟨⟨fun _ => h, fun _ => ⟨_, rfl⟩⟩, ?files, ?fails⟩
    case files =>
      intro r he
      cases he
      exact hf
    case fails =>
      intro cause
      exact ⟨nofun, fun ⟨before, path, after, hp, hb, hf⟩ => fails before path after cause hp hb hf⟩
  case inr h =>
    have ⟨before, path, after, cause, hp, hb, hf⟩ := h
    have hr := fails before path after cause hp hb hf
    subst hr
    refine ⟨⟨nofun, fun h => ?succeeds⟩, nofun, fun cause' => ⟨?fails, ?failed⟩⟩
    case succeeds =>
      have ⟨_, _, hr⟩ := succeeds h
      cases hr
    case fails =>
      intro he
      cases he
      exact ⟨before, path, after, hp, hb, hf⟩
    case failed =>
      exact fun ⟨before, path, after, hp, hb, hf⟩ => fails before path after cause' hp hb hf

-- Behind a file that fails nothing is read: neither the files that follow nor what is in them makes
-- a difference.
theorem validateFiles_unread (hf : e.alone fs s path = .error cause)
    (hr : ∀ p ∈ before ++ [path], fs'.readText p = fs.readText p) (after after' : List String) :
    e.validateFiles fs' (before ++ path :: after') s =
      e.validateFiles fs (before ++ path :: after) s := by
  have hfile : ∀ p ∈ before ++ [path], e.validateFile fs' p s = e.validateFile fs p s := by
    intro p hp
    simp only [validateFile, hr p hp]
  unfold alone at hf
  have hfrom (r notes requests) :
      e.validateFrom fs' s (before ++ path :: after') r notes requests =
        e.validateFrom fs s (before ++ path :: after) r notes requests := by
    clear hr
    induction before generalizing r notes requests
    case nil => simp only [List.nil_append, validateFrom, hfile path (by simp), hf]
    case cons p before ih =>
      have ⟨hp, hb⟩ := List.forall_mem_cons.mp hfile
      simp only [List.cons_append, validateFrom, hp, ih hb]
  exact hfrom ..

end Files
end Engine
end ProposalLint

import ProposalLint.Proofs.Preamble.Validity
import ProposalLint.Proofs.Rules.FrontMatter

namespace ProposalLint

namespace HistoryReply

-- What a call says that ended well.
def text? : HistoryReply → Option String
  | exited true output => some (Text.trim output)
  | _ => none

-- Why a call could not be made.
def failure? : HistoryReply → Option RuleError
  | notFound => some (.io FileError.notFound.message)
  | notStarted cause => some (.io cause)
  | exited .. => none

theorem failure?_of_text? {r : HistoryReply} (h : r.text? = some text) : r.failure? = none := by
  cases r
  case exited => rfl
  all_goals cases h

theorem text?_of_failure? {r : HistoryReply} (h : r.failure? = some cause) : r.text? = none := by
  cases r
  case exited => cases h
  all_goals rfl

end HistoryReply

namespace Rules

open HistoryReply

section Consultation

-- How the history answers in the directory of a document, and the name of the document.
variable {ask : HistoryQuery → HistoryReply} {file : String}

-- The questions that are asked, each only if those before it have the right answer.
inductive Posed (ask : HistoryQuery → HistoryReply) (file : String) : HistoryQuery → Prop
  | inside : Posed ask file .insideWorkTree
  | shallow : ((ask .insideWorkTree).text? = some "true") → Posed ask file .shallowRepository
  | log : ((ask .insideWorkTree).text? = some "true") →
      ((ask .shallowRepository).failure? = none) →
      ((ask .shallowRepository).text? ≠ some "true") → Posed ask file (.lastChange file)

-- The last change is known, and it came after a date.
def Late (ask : HistoryQuery → HistoryReply) (file : String) (updated : Date) : Prop :=
  Posed ask file (.lastChange file) ∧ ∃ text date, (ask (.lastChange file)).text? = some text ∧
    text ≠ "" ∧ Date.read text = .ok date ∧ updated.before date

example : Late (fun
      | .insideWorkTree => .exited true "true\n"
      | .shallowRepository => .exited true "false\n"
      | .lastChange _ => .exited true "2024-01-02\n") "sip-1.md" ⟨2024, 1, 1⟩ :=
  ⟨.log (by decide) rfl (by decide), "2024-01-02", ⟨2024, 1, 2⟩, by decide +kernel, by decide,
    by decide +kernel, by decide⟩

-- What the rule does not get over: the first call cannot be made although the program is there, a
-- later one cannot be made at all, or the last change is not a date.
inductive Broken (ask : HistoryQuery → HistoryReply) (file : String) : Prop
  | first : (ask .insideWorkTree = .notStarted cause) → Broken ask file
  | later : (Posed ask file q) → (q ≠ .insideWorkTree) → ((ask q).failure? = some cause) →
      Broken ask file
  | log : (Posed ask file (.lastChange file)) →
      ((ask (.lastChange file)).text? = some text) → (text ≠ "") →
      (∀ date, Date.read text ≠ .ok date) → Broken ask file

-- `Consults ask file qs r` says that the questions `qs` are asked one after another and lead to `r`.
inductive Consults (ask : HistoryQuery → HistoryReply) (file : String) :
    List HistoryQuery → Except RuleError LastChange → Prop
  | unavailable : (ask .insideWorkTree = .notFound) →
      Consults ask file [.insideWorkTree] (.ok .unavailable)
  | unstarted : (ask .insideWorkTree = .notStarted cause) →
      Consults ask file [.insideWorkTree] (.error (.io cause))
  | outside : ((ask .insideWorkTree).failure? = none) →
      ((ask .insideWorkTree).text? ≠ some "true") →
      Consults ask file [.insideWorkTree] (.ok .noRepository)
  | shallowUnstarted : ((ask .insideWorkTree).text? = some "true") →
      ((ask .shallowRepository).failure? = some cause) →
      Consults ask file [.insideWorkTree, .shallowRepository] (.error cause)
  | shallow : ((ask .insideWorkTree).text? = some "true") →
      ((ask .shallowRepository).text? = some "true") →
      Consults ask file [.insideWorkTree, .shallowRepository] (.ok .shallow)
  | logUnstarted : (Posed ask file (.lastChange file)) →
      ((ask (.lastChange file)).failure? = some cause) →
      Consults ask file [.insideWorkTree, .shallowRepository, .lastChange file] (.error cause)
  | uncommitted : (Posed ask file (.lastChange file)) →
      ((ask (.lastChange file)).failure? = none) →
      (∀ text, (ask (.lastChange file)).text? = some text → text = "") →
      Consults ask file [.insideWorkTree, .shallowRepository, .lastChange file] (.ok .uncommitted)
  | changed : (Posed ask file (.lastChange file)) →
      ((ask (.lastChange file)).text? = some text) → (text ≠ "") → (Date.read text = .ok date) →
      Consults ask file [.insideWorkTree, .shallowRepository, .lastChange file] (.ok (.changed date))
  | undated : (Posed ask file (.lastChange file)) →
      ((ask (.lastChange file)).text? = some text) → (text ≠ "") → (Date.read text = .error e) →
      Consults ask file [.insideWorkTree, .shallowRepository, .lastChange file]
        (.error (.other ("unexpected git date " ++ Text.quoted text ++ ": " ++ e.message)))

theorem posed_shallowRepository_iff :
    Posed ask file .shallowRepository ↔ (ask .insideWorkTree).text? = some "true" :=
  ⟨fun | .shallow h => h, .shallow⟩

theorem posed_lastChange_iff : Posed ask file (.lastChange file') ↔ file' = file ∧
    (ask .insideWorkTree).text? = some "true" ∧ (ask .shallowRepository).failure? = none ∧
      (ask .shallowRepository).text? ≠ some "true" := by
  constructor
  case mp =>
    intro h
    cases h
    case log hi hs ht => exact ⟨rfl, hi, hs, ht⟩
  case mpr =>
    intro ⟨he, hi, hs, ht⟩
    exact he ▸ .log hi hs ht

namespace Consults

variable {qs : List HistoryQuery} {r : Except RuleError LastChange}

theorem mem_iff (h : Consults ask file qs r) (q : HistoryQuery) :
    q ∈ qs ↔ Posed ask file q := by
  cases q
  case insideWorkTree => cases h <;> simp [Posed.inside]
  case shallowRepository =>
    rw [posed_shallowRepository_iff]
    cases h
    case unavailable h | unstarted h => simp [h, text?]
    case outside h => simp [h]
    case shallowUnstarted h _ | shallow h _ => simp [h]
    all_goals simp_all [posed_lastChange_iff]
  case lastChange file' =>
    rw [posed_lastChange_iff]
    cases h
    case unavailable h | unstarted h => simp [h, text?]
    case outside h => simp [h]
    case shallowUnstarted h | shallow h => simp [h]
    all_goals simp_all [posed_lastChange_iff]

theorem sublist (h : Consults ask file qs r) :
    qs.Sublist [.insideWorkTree, .shallowRepository, .lastChange file] := by
  cases h <;> simp

-- Only one way leads to a date.
theorem late_iff (h : Consults ask file qs r) (updated : Date) :
    Late ask file updated ↔ ∃ date, r = .ok (.changed date) ∧ updated.before date := by
  have hm := h.mem_iff (.lastChange file)
  rw [Late, ← hm]
  cases h
  case changed ht hne hd => simp [ht, hne, hd]
  case undated ht _ hd => simp [ht, hd]
  case uncommitted hn =>
    simp only [Except.ok.injEq, reduceCtorEq, false_and, exists_false, iff_false]
    intro ⟨_, text, _, ht, hne, _⟩
    exact hne (hn text ht)
  case logUnstarted hf => simp [text?_of_failure? hf]
  all_goals simp

-- If all goes well, every call was made, except that there may be no program for the first one.
theorem started (h : Consults ask file qs (.ok change)) (hq : q ∈ qs) :
    (ask q).failure? = none ∨ q = .insideWorkTree ∧ ask q = .notFound := by
  have through (hr : Posed ask file (.lastChange file))
      (hl : (ask (.lastChange file)).failure? = none)
      (hq : q ∈ [.insideWorkTree, .shallowRepository, .lastChange file]) :
      (ask q).failure? = none := by
    have ⟨_, hi, hs, _⟩ := posed_lastChange_iff.mp hr
    have hall : ∀ q ∈ [.insideWorkTree, .shallowRepository, .lastChange file],
        (ask q).failure? = none := by
      simp [failure?_of_text? hi, hs, hl]
    exact hall q hq
  cases h
  case unavailable hn => exact .inr (by simp_all)
  case outside hs _ => exact .inl (by simp_all)
  case shallow hi hs =>
    simp only [List.mem_cons, List.not_mem_nil, or_false] at hq
    cases hq
    case inl hq => exact .inl (hq ▸ failure?_of_text? hi)
    case inr hq => exact .inl (hq ▸ failure?_of_text? hs)
  case uncommitted hr hl _ => exact .inl (through hr hl hq)
  case changed hr ht _ _ => exact .inl (through hr (failure?_of_text? ht) hq)

theorem broken_iff (h : Consults ask file qs r) : Broken ask file ↔ ∃ cause, r = .error cause := by
  constructor
  case mp =>
    intro hb
    cases r
    case error cause => exact ⟨cause, rfl⟩
    case ok change =>
      have hs {q} (hr : Posed ask file q) := h.started ((h.mem_iff q).mpr hr)
      cases hb
      case first hn => simpa [hn, failure?] using hs .inside
      case later q _ hr hne hf => simpa [hne, hf] using hs hr
      case log text hr ht hne hd =>
        have hm := (h.mem_iff _).mpr hr
        cases h
        case changed ht' _ hd' =>
          cases ht.symm.trans ht'
          exact absurd hd' (hd _)
        case uncommitted hn => exact absurd (hn text ht) hne
        all_goals simp at hm
  case mpr =>
    intro ⟨cause, he⟩
    subst he
    cases h
    case unstarted hn => exact .first hn
    case shallowUnstarted hi hf => exact .later (.shallow hi) nofun hf
    case logUnstarted hr hf => exact .later hr nofun hf
    case undated hr ht hne hd => exact .log hr ht hne (by simp [hd])

end Consults

section Alone

variable {α : Type} {rule : String} {count : Nat} {met : Bool}

-- The record of questions that were asked in a directory.
def launches (directory : String) (qs : List HistoryQuery) : List Launch :=
  qs.map fun q => ⟨"git", directory, arguments q⟩

theorem ask_bind_alone (world : World) (directory : String) (q : HistoryQuery)
    (next : HistoryReply → Action Bool α) : (Rules.ask world directory q >>= next).alone rule count met =
      ((next (world.history directory q)).alone rule count met).after
        { launches := launches directory [q] } := by
  simp only [Rules.ask, Action.alone_bind, Action.alone_launch, Action.alone_pure]
  rfl

theorem output_bind_alone (reply : HistoryReply) (next : Option String → Action Bool α) :
    (output reply >>= next).alone rule count met = match reply.failure? with
      | some cause => ⟨.error (.error cause), met, {}⟩
      | none => (next reply.text?).alone rule count met := by
  rw [Action.alone_bind]
  cases reply
  case exited success _ =>
    cases success
    all_goals exact Ending.after_empty _
  all_goals rfl

theorem readChange_alone (hr : Posed ask file (.lastChange file))
    (hl : (ask (.lastChange file)).failure? = none) (rule : String) (count : Nat) (met : Bool) :
    ∃ r, Consults ask file [.insideWorkTree, .shallowRepository, .lastChange file] r ∧
      (readChange (ask (.lastChange file)).text?).alone rule count met =
        ⟨r.mapError .error, met, {}⟩ := by
  unfold readChange
  split
  case h_1 hn => exact ⟨_, .uncommitted hr hl (by simp [hn]), rfl⟩
  case h_2 hn => exact ⟨_, .uncommitted hr hl (by simp [hn]), rfl⟩
  case h_3 text hne ht =>
    have hne : text ≠ "" := fun he => hne (by rw [he])
    cases hd : Date.read text
    case ok date => exact ⟨_, .changed hr ht hne hd, rfl⟩
    case error e => exact ⟨_, .undated hr ht hne hd, rfl⟩

-- The questions come one after another, and each answer decides whether there is a next one.
theorem lastChange_alone (world : World) (hf : Path.fileName? path = some file) (rule : String)
    (count : Nat) (met : Bool) :
    ∃ qs r, Consults (world.history (directoryOf path)) file qs r ∧
      (lastChange world path).alone rule count met =
        ⟨r.mapError .error, met, { launches := launches (directoryOf path) qs }⟩ := by
  simp only [lastChange, hf, ask_bind_alone]
  cases hi : world.history (directoryOf path) .insideWorkTree
  case notFound => exact ⟨_, _, .unavailable hi, rfl⟩
  case notStarted cause => exact ⟨_, _, .unstarted hi, rfl⟩
  case exited success out =>
    have hstarted : (HistoryReply.exited success out).failure? = none := rfl
    simp only [reduceCtorEq, if_false, output_bind_alone, hstarted]
    rw [← hi] at hstarted ⊢
    by_cases ht : (world.history (directoryOf path) .insideWorkTree).text? = some "true"
    case neg =>
      refine ⟨_, _, .outside hstarted ht, ?_⟩
      simp only [bne_iff_ne, ne_eq, ht, not_false_eq_true, if_true]
      rfl
    case pos =>
      simp only [ht, bne_self_eq_false, Bool.false_eq_true, if_false, ask_bind_alone,
        output_bind_alone]
      cases hs : (world.history (directoryOf path) .shallowRepository).failure?
      case some cause => exact ⟨_, _, .shallowUnstarted ht hs, rfl⟩
      case none =>
        by_cases hst : (world.history (directoryOf path) .shallowRepository).text? = some "true"
        case pos =>
          refine ⟨_, _, .shallow ht hst, ?_⟩
          simp only [hst, beq_self_eq_true, if_true]
          rfl
        case neg =>
          have hr : Posed (world.history (directoryOf path)) file (.lastChange file) :=
            .log ht hs hst
          simp only [beq_iff_eq, hst, if_false, ask_bind_alone, output_bind_alone]
          cases hl : (world.history (directoryOf path) (.lastChange file)).failure?
          case some cause => exact ⟨_, _, .logUnstarted hr hl, rfl⟩
          case none =>
            have ⟨r, hc, he⟩ := readChange_alone hr hl rule count met
            exact ⟨_, r, hc, by simp only [he]; rfl⟩

-- The date that a block holds as the day of its last change.
def UpdatedOn (today : Date) (preamble : Yaml.Value) (updated : Date) : Prop :=
  ∃ v text, preamble.untagged.field? "updated" = some v ∧ v.untagged = .string text ∧
    Preamble.date? today text = some updated

theorem updatedDate?_eq_some_iff :
    updatedDate? today preamble = some updated ↔ UpdatedOn today preamble updated := by
  simp only [updatedDate?, Option.bind_eq_some_iff, Preamble.dateOf?_eq_some_iff, UpdatedOn,
    exists_and_left]

-- What the rule says of a block once the history was asked.
def verdict (y : Node) (updated : Date) : Except RuleError LastChange → List Finding
  | .ok (.changed date) => if updated.before date then
      [⟨y, "The \"updated\" preamble property is older than last git updated time"⟩] else []
  | _ => []

theorem Consults.verdict_of_late (h : Consults ask file qs r) (hl : Late ask file updated) :
    verdict y updated r =
      [⟨y, "The \"updated\" preamble property is older than last git updated time"⟩] := by
  have ⟨date, hr, hb⟩ := (h.late_iff updated).mp hl
  subst hr
  exact if_pos hb

theorem Consults.verdict_of_not_late (h : Consults ask file qs r) (hl : ¬Late ask file updated) :
    verdict y updated r = [] := by
  rw [h.late_iff] at hl
  unfold verdict
  split
  case h_1 date => exact if_neg fun hb => hl ⟨date, rfl, hb⟩
  case h_2 => rfl

variable {world : World} {c : Context} {preamble : Yaml.Value} (v : Visit) (rule : String)
  (count : Nat) (met : Bool)

theorem checkUpdated_alone (hc : c.path = some path)
    (hu : updatedDate? world.today preamble = some updated)
    (hf : Path.fileName? path = some file) :
    ∃ qs r notes, Consults (world.history (directoryOf path)) file qs r ∧
      (checkUpdated world .lastChange c v preamble).alone rule count met =
        ⟨(r.map fun _ => ()).mapError .error, met, {
          findings := verdict v.node updated r
          notes := notes
          launches := launches (directoryOf path) qs }⟩ := by
  have ⟨qs, r, h, hlast⟩ := lastChange_alone world hf rule count met
  simp only [checkUpdated, hu, referenceDate, hc, Action.alone_bind, hlast]
  cases r
  case error cause => exact ⟨qs, _, [], h, rfl⟩
  case ok change =>
    refine ⟨qs, _, change.note?.toList.map .info, h, ?_⟩
    cases change
    case changed date =>
      by_cases hb : updated.before date
      all_goals simp [Except.mapError, Except.map, Ending.bind, Ending.after, Effect.ext_iff,
        LastChange.note?, verdict, hb]
    all_goals simp [Except.mapError, Except.map, Ending.bind, Ending.after, Effect.ext_iff,
      LastChange.note?, verdict, Option.forM, Action.alone_bind]

-- Without a date or a name, the rule does not ask.
theorem checkUpdated_alone_of_not (hc : c.path = some path)
    (h : ∀ updated file, updatedDate? world.today preamble = some updated →
      Path.fileName? path ≠ some file) :
    ∃ notes, (checkUpdated world .lastChange c v preamble).alone rule count met =
      ⟨.ok (), met, { notes := notes }⟩ := by
  cases hu : updatedDate? world.today preamble
  case none =>
    simp only [checkUpdated, hu]
    exact ⟨[], rfl⟩
  case some updated =>
    have hf : Path.fileName? path = none := by
      rw [Option.eq_none_iff_forall_ne_some]
      exact fun file => h updated file hu
    simp only [checkUpdated, hu, referenceDate, hc, lastChange, hf]
    exact ⟨[_], rfl⟩

-- Whatever comes of it, the rule still knows that it met the first block.
theorem checkUpdated_alone_state (hc : c.path = some path) :
    ((checkUpdated world .lastChange c v preamble).alone rule count met).state = met := by
  by_cases h : ∃ updated file, updatedDate? world.today preamble = some updated ∧
      Path.fileName? path = some file
  case pos =>
    have ⟨_, _, hu, hf⟩ := h
    have ⟨_, _, _, _, he⟩ := checkUpdated_alone v rule count met hc hu hf
    rw [he]
  case neg =>
    have ⟨_, he⟩ := checkUpdated_alone_of_not v rule count met hc fun updated file hu hf =>
      h ⟨updated, file, hu, hf⟩
    rw [he]

end Alone
end Consultation

-- What must be there before the history is asked: a first block that can be read, a date in it, and
-- the name of a file.
structure Asks (today : Date) (root : Node) (path : String) (y : Node) (updated : Date)
    (file : String) : Prop where
  first : root.blocks.find? (·.front?.isSome) = some y
  dated : ∃ preamble, y.front? = some preamble ∧ UpdatedOn today preamble updated
  named : Path.fileName? path = some file

theorem Asks.block (h : Asks today root path y updated file) :
    y ∈ root.preorder ∧ y.kind = .yaml := by
  simpa [Node.blocks] using List.mem_of_find?_eq_some h.first

end Rules

open Rules

namespace Engine

section History

variable {world : World} {root y : Node} {path file : String} {updated : Date}

-- A run of the rule comes to what its questions come to.
theorem validateTree_of_asks (h : Asks world.today root path y updated file) (s : Scheduler) :
    let o := (Engine.mk [gitUpdated world] {}).validateTree root (some path) s
    ∃ qs r, Consults (world.history (directoryOf path)) file qs r ∧
      o.trace.launches = launches (directoryOf path) qs ∧
      o.found "git-updated" = verdict y updated r ∧
      o.result = match r with
        | .error cause => .error (.validator "git-updated" "yaml" cause)
        | .ok _ => messages ((verdict y updated r).map (·.report "git-updated")) := by
  have ⟨preamble, hp, hu⟩ := h.dated
  have hl : (gitUpdated world).Lone True := gitUpdated_lone world .lastChange
  have hc : (contextOf root (some path)).path = some path := rfl
  have ⟨v, hv, hrun⟩ :=
    validateTree_preambleRule hl (fun v => checkUpdated_alone_state v _ _ _ hc) h.first hp s
  have ⟨qs, r, _, hc, he⟩ := checkUpdated_alone v "git-updated" 0 true hc
    (updatedDate?_eq_some_iff.mpr hu) h.named
  rw [he] at hrun
  have ⟨hlaunches, hfound, hresult⟩ := hrun
  subst hv
  refine ⟨qs, r, hc, hlaunches, hfound, hresult.trans ?_⟩
  cases r
  case ok change => rfl
  case error cause =>
    have hk : v.node.kind.name = "yaml" := h.block.right ▸ rfl
    rw [← hk]
    rfl

theorem validateTree_of_not_asks (h : ∀ y updated file, ¬Asks world.today root path y updated file)
    (s : Scheduler) :
    let o := (Engine.mk [gitUpdated world] {}).validateTree root (some path) s
    o.trace.launches = [] ∧ o.result = .ok [] := by
  have hl : (gitUpdated world).Lone True := gitUpdated_lone world .lastChange
  cases hy : root.blocks.find? (·.front?.isSome)
  case none => exact validateTree_preambleRule_of_none hl hy s
  case some y =>
    have hreadable : y.front?.isSome := by simpa using List.find?_some hy
    have ⟨preamble, hp⟩ := Option.isSome_iff_exists.mp hreadable
    have hc : (contextOf root (some path)).path = some path := rfl
    have ⟨v, hv, hrun⟩ :=
      validateTree_preambleRule hl (fun v => checkUpdated_alone_state v _ _ _ hc) hy hp s
    have ⟨_, he⟩ := checkUpdated_alone_of_not v "git-updated" 0 true hc fun updated file hu hf =>
      h y updated file ⟨hy, ⟨preamble, hp, updatedDate?_eq_some_iff.mp hu⟩, hf⟩
    rw [he] at hrun
    have ⟨hlaunches, _, hresult⟩ := hrun
    exact ⟨hlaunches, hresult⟩

theorem result_of_late (h : Asks world.today root path y updated file)
    (hl : Late (world.history (directoryOf path)) file updated) (hp : y.position = some p)
    (s : Scheduler) :
    let o := (Engine.mk [gitUpdated world] {}).validateTree root (some path) s
    let text := "The \"updated\" preamble property is older than last git updated time"
    o.found "git-updated" = [⟨y, text⟩] ∧
      o.result = .ok [⟨"git-updated", text, p.stop.line, p.stop.column⟩] := by
  have ⟨_, r, hc, _, hfound, hresult⟩ := validateTree_of_asks h s
  have ⟨date, hr, _⟩ := (hc.late_iff updated).mp hl
  rw [hc.verdict_of_late hl] at hfound hresult
  subst hr
  refine ⟨hfound, hresult.trans ?_⟩
  simp [messages_eq_ok_iff, Finding.report, Report.message?, hp]

theorem result_of_broken (h : Asks world.today root path y updated file)
    (hb : Broken (world.history (directoryOf path)) file) (s : Scheduler) :
    let o := (Engine.mk [gitUpdated world] {}).validateTree root (some path) s
    ∃ cause, o.result = .error (.validator "git-updated" "yaml" cause) := by
  have ⟨_, _, hc, _, _, hresult⟩ := validateTree_of_asks h s
  have ⟨cause, hr⟩ := hc.broken_iff.mp hb
  subst hr
  exact ⟨cause, hresult⟩

theorem result_of_neither (h : ∀ y updated file, Asks world.today root path y updated file →
      ¬Late (world.history (directoryOf path)) file updated ∧
        ¬Broken (world.history (directoryOf path)) file) (s : Scheduler) :
    ((Engine.mk [gitUpdated world] {}).validateTree root (some path) s).result = .ok [] := by
  by_cases ha : ∃ y updated file, Asks world.today root path y updated file
  case neg =>
    have ha : ∀ y updated file, ¬Asks world.today root path y updated file := by simpa using ha
    exact (validateTree_of_not_asks ha s).right
  case pos =>
    have ⟨y, updated, file, ha⟩ := ha
    have ⟨hl, hb⟩ := h y updated file ha
    have ⟨_, r, hc, _, _, hresult⟩ := validateTree_of_asks ha s
    rw [hc.verdict_of_not_late hl] at hresult
    cases hr : r
    case error cause => exact (hb (hc.broken_iff.mpr ⟨cause, hr⟩)).elim
    case ok =>
      rw [hr] at hresult
      exact hresult

end History

-- Cases with results of their own are told by the results.
theorem result_iff_of_cases {late broken : Prop} {result : Except EngineError (List Message)}
    (error : RuleError → EngineError) (onLate : late → ∃ m, result = .ok [m])
    (onBroken : broken → ∃ cause, result = .error (error cause))
    (otherwise : ¬late → ¬broken → result = .ok []) :
    ((∃ m, result = .ok [m]) ↔ late) ∧ ((∃ e, result = .error e) ↔ broken) ∧
      (∀ e, result = .error e → ∃ cause, e = error cause) ∧
      (result = .ok [] ↔ ¬late ∧ ¬broken) := by
  by_cases hl : late
  case pos =>
    have ⟨m, hm⟩ := onLate hl
    have hb : ¬broken := fun hb => by simpa [hm] using onBroken hb
    simp [hm, hl, hb]
  case neg =>
    by_cases hb : broken
    case pos =>
      have ⟨cause, he⟩ := onBroken hb
      simp [he, hl, hb]
    case neg => simp [otherwise hl hb, hl, hb]

-- A run with the history of a document: whether it has a message, fails or has nothing to say
-- depends on the first block that can be read, the name of the file and what the answers are, and
-- only what is needed is asked.
theorem validateSource_history (world : World) (source path : String) (s : Scheduler) :
    let asks := Asks world.today (Markdown.parse source) path
    let ask := world.history (directoryOf path)
    let o := (Engine.mk [gitUpdated world] {}).validateSource source (some path) s
    let text := "The \"updated\" preamble property is older than last git updated time"
    ((∃ m, o.result = .ok [m]) ↔
      ∃ y updated file, asks y updated file ∧ Late ask file updated) ∧
    (∀ y updated file, asks y updated file → Late ask file updated →
      ∃ p, y.position = some p ∧ o.found "git-updated" = [⟨y, text⟩] ∧
        o.result = .ok [⟨"git-updated", text, p.stop.line, p.stop.column⟩]) ∧
    ((∃ error, o.result = .error error) ↔
      ∃ y updated file, asks y updated file ∧ Broken ask file) ∧
    (∀ error, o.result = .error error → ∃ cause, error = .validator "git-updated" "yaml" cause) ∧
    (o.result = .ok [] ↔
      ∀ y updated file, asks y updated file → ¬Late ask file updated ∧ ¬Broken ask file) ∧
    (o.trace.launches ≠ [] → ∃ y updated file, asks y updated file) ∧
    (∀ y updated file, asks y updated file → ∃ qs,
      o.trace.launches = launches (directoryOf path) qs ∧ (∀ q, q ∈ qs ↔ Posed ask file q) ∧
        qs.Sublist [.insideWorkTree, .shallowRepository, .lastChange file]) := by
  intro asks ask o text
  have late {y updated file} (h : asks y updated file) (hl : Late ask file updated) :
      ∃ p, y.position = some p ∧ o.found "git-updated" = [⟨y, text⟩] ∧
        o.result = .ok [⟨"git-updated", text, p.stop.line, p.stop.column⟩] := by
    have ⟨_, _, hp⟩ := Markdown.parse_placed source y h.block.left
    exact ⟨_, hp, result_of_late h hl hp s⟩
  have onLate : (∃ y updated file, asks y updated file ∧ Late ask file updated) →
      ∃ m, o.result = .ok [m] := by
    intro ⟨_, _, _, h, hl⟩
    have ⟨_, _, _, hm⟩ := late h hl
    exact ⟨_, hm⟩
  have onBroken : (∃ y updated file, asks y updated file ∧ Broken ask file) →
      ∃ cause, o.result = .error (.validator "git-updated" "yaml" cause) :=
    fun ⟨_, _, _, h, hb⟩ => result_of_broken h hb s
  have ⟨hmessage, hfailure, herror, hsilence⟩ :=
    result_iff_of_cases (.validator "git-updated" "yaml") onLate onBroken fun hl hb =>
      result_of_neither (by grind) s
  refine ⟨hmessage, fun _ _ _ => late, hfailure, herror, ?silence, ?launched, ?launches⟩
  case silence =>
    rw [hsilence]
    grind
  case launched =>
    intro hne
    by_contra hn
    have hn : ∀ y updated file, ¬asks y updated file := by simpa using hn
    exact hne (validateTree_of_not_asks hn s).left
  case launches =>
    intro y updated file h
    have ⟨qs, _, hc, hlaunches, _⟩ := validateTree_of_asks h s
    exact ⟨qs, hlaunches, hc.mem_iff, hc.sublist⟩

end Engine
end ProposalLint

import ProposalLint.Output.Plain
import ProposalLint.Proofs.Document.Place
import ProposalLint.Proofs.Engine.Session
import ProposalLint.Proofs.Markdown.Nesting
import ProposalLint.Proofs.Rules.OneLine
import ProposalLint.Proofs.Rules.Separate

namespace ProposalLint

theorem splitOn_unlines_iff {lines : List (List Char)} :
    (unlines lines).splitOn '\n' = lines ++ [[]] ↔ ∀ l ∈ lines, '\n' ∉ l := by
  constructor
  case mp =>
    intro h
    have ⟨lines', last, p⟩ := Place.of_before (unlines lines)
    have he : lines ++ [[]] = lines' ++ [last] := h.symm.trans p.splitOn
    exact List.append_inj_left' he rfl ▸ p.lines
  case mpr =>
    intro h
    have hs : (unlines lines ++ []).splitOn '\n' = lines ++ [[]] :=
      Place.splitOn_unlines h (by simp)
    simpa using hs

theorem Message.oneLine_display_iff (m : Message) :
    OneLine m.display ↔ OneLine m.ruleId ∧ OneLine m.text := by
  have hcolon : OneLine ":" := by simp [OneLine]
  have hopen : OneLine ": [" := by simp [OneLine]
  have hclose : OneLine "] " := by simp [OneLine]
  simp [display, hcolon, hopen, hclose]

namespace LintResult

variable {r : LintResult}

theorem length_messages (r : LintResult) : r.messages.length = r.messageCount := by
  obtain ⟨files⟩ := r
  simp only [messages, messageCount]
  induction files
  case nil => rfl
  case cons f files ih => simp [ih]

-- The line of a message, without its end.
def lineOf (entry : String × Message) : String :=
  entry.1 ++ ":" ++ entry.2.display

theorem toList_renderCompact (r : LintResult) :
    r.renderCompact.toList = unlines (r.messages.map fun e => (lineOf e).toList) := by
  rw [renderCompact, String.toList_join, unlines, List.flatMap_map, List.flatMap_map]
  refine List.flatMap_congr fun e _ => ?_
  simp [compactLine, lineOf]

-- The compact form is one line a message, and the lines stand in the order of the messages.
structure Lined (r : LintResult) : Prop where
  count : r.messages.length = r.messageCount
  lines : r.renderCompact.toList.splitOn '\n' = r.messages.map (fun e => (lineOf e).toList) ++ [[]]

theorem lined_iff : r.Lined ↔ ∀ e ∈ r.messages, OneLine (lineOf e) := by
  have hl : r.Lined ↔ r.renderCompact.toList.splitOn '\n' =
      r.messages.map (fun e => (lineOf e).toList) ++ [[]] :=
    ⟨Lined.lines, fun h => ⟨r.length_messages, h⟩⟩
  rw [hl, toList_renderCompact, splitOn_unlines_iff, List.forall_mem_map]
  rfl

theorem oneLine_lineOf_iff :
    OneLine (lineOf e) ↔ OneLine e.1 ∧ OneLine e.2.ruleId ∧ OneLine e.2.text := by
  have hcolon : OneLine ":" := by simp [OneLine]
  simp [lineOf, e.2.oneLine_display_iff, hcolon]

end LintResult

namespace Markdown

-- A document has the root on top.
theorem kind_parse (source : String) : (parse source).kind = .root := by
  have ⟨stream, hp⟩ := parse_eq_treeOf source
  have ⟨items, hi⟩ := exists_eventsOf_eq_completion stream.events
  rw [hp, treeOf_eq_document source source.toList _ stream hi, document, Node.kind_make]

end Markdown

namespace RuleName

variable {world : World} {s : RuleSettings} {config : Config} {names : List RuleName}
  {fs : FileSystem} {sch : Scheduler}

theorem oneLine_id (name : RuleName) : OneLine name.id := by
  cases name <;> decide

-- The messages about a document take one line each exactly if the texts do that the rules repeat.
theorem oneLine_texts_iff (h : names.Nodup) (hp : OneLine path)
    (ok : ((engine world s config names).validateSource source (some path) sch).result = .ok ms) :
    (∀ m ∈ ms, OneLine m.text) ↔ ∀ name ∈ names, config.isEnabled name.id →
      ∀ text ∈ name.repeated world (Markdown.parse source), OneLine text := by
  have hl : ∀ r ∈ (engine world s config names).active, r.Lone True :=
    fun _ hr => lone_of_mem_map (List.mem_of_mem_filter hr)
  have ⟨ha, _⟩ := (Engine.validateTree_eq_ok_iff (build_engine h) hl).mp ok
  rw [Engine.forall_text_iff (build_engine h) hl ok]
  rw [engine_active] at ha ⊢
  simp only [List.forall_mem_map, List.mem_filter, and_imp] at ha ⊢
  refine forall₃_congr fun name hn he => ?_
  exact name.found_oneLine_iff (by simpa using hp) (ha name hn he) (Markdown.kind_parse source)

theorem oneLine_lines_iff {f : FileResult} (h : names.Nodup) (hp : OneLine f.path)
    (ok : (engine world s config names).alone fs sch f.path = .ok f.messages) :
    (∀ m ∈ f.messages, OneLine (LintResult.lineOf (f.path, m))) ↔
      ∀ source, fs.readText f.path = .ok source → ∀ name ∈ names, config.isEnabled name.id →
        ∀ text ∈ name.repeated world (Markdown.parse source), OneLine text := by
  unfold Engine.alone Engine.validateFile at ok
  split at ok
  case h_2 => cases ok
  case h_1 source hs =>
    have ids : ∀ m ∈ f.messages, OneLine m.ruleId := by
      intro m hm
      have ⟨name, _, he⟩ := ruleId_of_mem h ok hm
      exact he ▸ name.oneLine_id
    simp only [LintResult.oneLine_lineOf_iff, hp, true_and, Except.ok.injEq, hs, forall_eq',
      ← oneLine_texts_iff h hp ok]
    exact forall₂_congr fun m hm => and_iff_right (ids m hm)

-- A run on one file leaves the messages that its rules have for the document, each by itself.
theorem validateFiles_singleton (h : names.Nodup) (hr : fs.readText path = .ok source)
    (ha : ∀ r ∈ (engine world s config names).active,
      (r.activate? (Engine.contextOf (Markdown.parse source) (some path))).isSome)
    (hf : Contribution.firstError? ((engine world s config names).contributions
      (Markdown.parse source) (some path)) = none)
    (hp : ∀ r ∈ ((engine world s config names).contributions (Markdown.parse source)
      (some path)).flatMap (·.reports), r.position.isSome)
    (hm : ms = ((engine world s config names).contributions (Markdown.parse source)
      (some path)).flatMap (·.messages)) :
    ((engine world s config names).validateFiles fs [path] sch).result = .ok ⟨[⟨path, ms⟩]⟩ := by
  have hl : ∀ r ∈ (engine world s config names).active, r.Lone True :=
    fun _ hr => lone_of_mem_map (List.mem_of_mem_filter hr)
  have ok := (Engine.validateTree_eq_ok_iff (s := sch) (build_engine h) hl).mpr
    ⟨ha, Contribution.clean_iff.mpr ⟨hf, hp⟩, hm⟩
  simp [Engine.validateFiles, Engine.validateFrom, Engine.validateFile, Engine.validateSource, hr,
    ok]

end RuleName

namespace Engine

variable {names : List RuleName} {config : Config} {e : Engine}

-- Of files with names on one line the compact form is one line a message exactly if all texts are on
-- one line that the rules repeat from the documents.
theorem renderCompact_lined_iff (world : World) (settings : RuleSettings)
    (hb : build (names.map (RuleName.rule world settings)) config = .ok e) (fs : FileSystem)
    (paths : List String) (hp : ∀ path ∈ paths, OneLine path) (s : Scheduler)
    (ok : (e.validateFiles fs paths s).result = .ok r) :
    r.Lined ↔ ∀ path ∈ paths, ∀ source, fs.readText path = .ok source → ∀ name ∈ names,
      config.isEnabled name.id → ∀ text ∈ name.repeated world (Markdown.parse source),
        OneLine text := by
  have ⟨hn, he⟩ := build_eq_ok_iff.mp hb
  subst he
  have hn : names.Nodup := .of_map RuleName.id
    (by simpa [RuleName.rule_id, Function.comp_def] using hn)
  have files := (validateFiles_collected _ fs s paths).files r ok
  rw [LintResult.lined_iff, LintResult.messages]
  simp only [List.forall_mem_flatMap, List.forall_mem_map]
  clear ok
  generalize r.files = results at files ⊢
  induction files
  case nil => simp
  case cons path f paths files hf _ ih =>
    have ⟨hpath, hpaths⟩ := List.forall_mem_cons.mp hp
    obtain ⟨rfl, ha⟩ := hf
    rw [List.forall_mem_cons, List.forall_mem_cons]
    exact and_congr (RuleName.oneLine_lines_iff hn hpath ha) (ih hpaths)

-- A value that would take two lines is quoted, so that its line feed is escaped.
theorem renderCompact_lined_iff_of_status :
    let world : World := { today := ⟨2024, 1, 2⟩ }
    let source := "---\nstatus: \"a\\nb\"\n---\n"
    let fs : FileSystem := { root := .directory [("sip-1.md", .file source.toUTF8.toList)] }
    let e := RuleName.engine world {} {} [.preambleData]
    let said (text : String) : Message := ⟨"preamble-data", "Front-matter property " ++ text, 3, 4⟩
    let r : LintResult := ⟨[⟨"sip-1.md", [said "\"sip\" is required", said "\"title\" is required",
      said ("\"status\" expected one of Draft, Review, Implementation, Final, Withdrawn, Living, " ++
        "but received: \"a\\nb\""),
      said "\"author\" is required", said "\"created\" is required"]⟩]⟩
    build ([RuleName.preambleData].map (RuleName.rule world {})) {} = .ok e ∧
      (∀ path ∈ ["sip-1.md"], OneLine path) ∧
      (e.validateFiles fs ["sip-1.md"] .rounds).result = .ok r ∧
      (r.Lined ↔ ∀ path ∈ ["sip-1.md"], ∀ source, fs.readText path = .ok source →
        ∀ name ∈ [RuleName.preambleData], ({} : Config).isEnabled name.id →
          ∀ text ∈ name.repeated world (Markdown.parse source), OneLine text) := by
  intro world source fs e said r
  have hp : ∀ path ∈ ["sip-1.md"], OneLine path := by decide
  have hr : fs.readText "sip-1.md" = .ok source := by decide +kernel
  have ok : (e.validateFiles fs ["sip-1.md"] .rounds).result = .ok r :=
    RuleName.validateFiles_singleton (by decide) hr (by decide +kernel) (by decide +kernel)
      (by decide +kernel) (by decide +kernel)
  exact ⟨rfl, hp, ok, renderCompact_lined_iff world {} rfl fs ["sip-1.md"] hp .rounds ok⟩

-- A key is repeated as it stands, so that its line feed breaks the line.
theorem renderCompact_not_lined_of_key :
    let world : World := { today := ⟨2024, 1, 2⟩ }
    let source := "---\n\"a\\nb\": 1\n---\n"
    let fs : FileSystem := { root := .directory [("sip-1.md", .file source.toUTF8.toList)] }
    let e := RuleName.engine world {} {} [.preambleData]
    let said (text : String) : Message := ⟨"preamble-data", "Front-matter property " ++ text, 3, 4⟩
    let r : LintResult := ⟨[⟨"sip-1.md", [said "\"a\nb\" is not an allowed header",
      said "\"sip\" is required", said "\"title\" is required", said "\"status\" is required",
      said "\"author\" is required", said "\"created\" is required"]⟩]⟩
    build ([RuleName.preambleData].map (RuleName.rule world {})) {} = .ok e ∧
      OneLine "sip-1.md" ∧ (e.validateFiles fs ["sip-1.md"] .rounds).result = .ok r ∧
      ¬r.Lined := by
  intro world source fs e said r
  have hr : fs.readText "sip-1.md" = .ok source := by decide +kernel
  have ok : (e.validateFiles fs ["sip-1.md"] .rounds).result = .ok r :=
    RuleName.validateFiles_singleton (by decide) hr (by decide +kernel) (by decide +kernel)
      (by decide +kernel) (by decide +kernel)
  refine ⟨rfl, by decide, ok, ?_⟩
  rw [LintResult.lined_iff]
  decide +kernel

end Engine
end ProposalLint

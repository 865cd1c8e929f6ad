import ProposalLint.Proofs.Document.Walk
import ProposalLint.Proofs.Engine.Silence
import ProposalLint.Proofs.Rules.Catalogue
import ProposalLint.Proofs.Rules.Lone

namespace ProposalLint

-- The value of a text in front matter, if it can be read.
def frontValue? (text : String) : Option Yaml.Value :=
  Annotation.value? (.ofText text)

namespace Node

def frontText (n : Node) : String :=
  n.value.getD ""

def front? (n : Node) : Option Yaml.Value :=
  frontValue? n.frontText

-- The blocks of front matter in a document.
def blocks (root : Node) : List Node :=
  root.preorder.filter (·.kind = .yaml)

-- A block that can be read.
def isReadable (n : Node) : Bool :=
  n.kind = .yaml && n.front?.isSome

theorem filter_blocks (root : Node) (p : Node → Bool) :
    root.blocks.filter p = root.preorder.filter fun n => n.kind = .yaml && p n := by
  simp [blocks, List.filter_filter, Bool.and_comm]

end Node

-- Each block is found again by its identity, and nothing else is.
theorem Annotations.at?_collect {top v : Visit} (h : v ∈ top.walk) :
    (collect top).at? v =
      if v.node.kind = .yaml then some (.ofText v.node.frontText) else none := by
  have hn := top.map_id_walk_nodup
  unfold at? collect
  generalize top.walk = vs at h hn
  induction vs
  case nil => cases h
  case cons w vs ih =>
    have ⟨hw, hn⟩ := List.nodup_cons.mp hn
    cases List.mem_cons.mp h
    case inl he =>
      subst he
      by_cases hk : v.node.kind = .yaml
      case pos => simp [hk, Node.frontText]
      case neg =>
        simp only [hk, if_false, List.filterMap_cons, List.lookup_eq_none_iff]
        grind
    case inr hv =>
      have hi : (v.id == w.id) = false := by grind
      by_cases hk : w.node.kind = .yaml
      case pos => simp [hk, hi, List.lookup_cons, ih hv hn]
      case neg => simp [hk, ih hv hn]

theorem Engine.parsed?_contextOf {root : Node} {path : Option String} {v : Visit}
    (h : v ∈ (Visit.mk 0 root).walk) :
    (contextOf root path).parsed? v = if v.node.kind = .yaml then v.node.front? else none := by
  rw [Context.parsed?, contextOf, Annotations.at?_collect h]
  split
  case isTrue => rw [Option.bind_some, Node.front?, frontValue?]
  case isFalse => rw [Option.bind_none]

theorem Validator.selects_iff {kind : String} (h : kind ≠ "*") (start : Visit → Action σ Unit)
    (n : Node) : (Validator.mk kind start).selects n ↔ n.kind.name = kind := by
  simp [selects, Selector.ofText, Selector.selects, h]

theorem Action.alone_forM_report {σ α : Type} {s : σ} (node : α → Node) (text : α → String)
    (xs : List α) (rule : String) (count : Nat) :
    (xs.forM fun x => report (node x) (text x) : Action σ Unit).alone rule count s =
      ⟨.ok (), s, { findings := xs.map fun x => ⟨node x, text x⟩ }⟩ := by
  rw [Action.alone_forM (fun x => { findings := [⟨node x, text x⟩] }) (by simp)]
  simp only [Effect.all, List.flatMap_map, ← List.map_eq_flatMap]
  simp

-- A rule that keeps nothing says about each node what its validator says.
theorem Rule.found_single {work : Context → Visit → Action Unit Unit} {c : Context}
    (hs : selector ≠ "*") (said : Node → List Finding)
    (h : ∀ v ∈ vs, said v.node = if v.node.kind.name = selector then
      ((work c v).alone name 0 ()).effect.findings else []) :
    (Rule.single name text selector () work).found c vs = (vs.map (·.node)).flatMap said := by
  have run : ∀ vs : List Visit,
      (contributions vs [⟨name, Unit, (), [⟨selector, work c⟩]⟩]).flatMap (·.effect.findings) =
        vs.flatMap fun v => if v.node.kind.name = selector then
          ((work c v).alone name 0 ()).effect.findings else [] := by
    intro vs
    induction vs
    case nil => rfl
    case cons v vs ih =>
      have hi := Validator.selects_iff hs (work c) v.node
      by_cases hk : v.node.kind.name = selector
      case pos => simp [contributions, ActiveRule.contribute_of_selects (hi.mpr hk), hk, ih]
      case neg => simp [contributions, ActiveRule.contribute_of_not_selects (mt hi.mp hk), hk, ih]
  rw [List.flatMap_map, List.flatMap_congr h]
  exact run vs

namespace Rules

variable {root : Node} {path : Option String}

theorem validYaml_found : validYaml.found (Engine.contextOf root path) (Visit.mk 0 root).walk =
    (root.blocks.filter (·.front?.isNone)).map (⟨·, "Front-matter is not valid YAML"⟩) := by
  let said (n : Node) : List Finding :=
    if n.kind = .yaml && n.front?.isNone then [⟨n, "Front-matter is not valid YAML"⟩] else []
  refine (Rule.found_single (by decide) said ?each).trans ?nodes
  case each =>
    intro v hv
    simp only [Engine.contextOf, Annotations.at?_collect hv]
    by_cases hk : v.node.kind = .yaml
    case pos =>
      cases hf : Annotation.ofText v.node.frontText
      case parsed => simp [said, hk, Node.front?, frontValue?, hf, Annotation.value?]
      case invalid => simp [said, hk, Node.front?, frontValue?, hf, Annotation.value?, Kind.name]
    case neg => simp [said, hk]
  case nodes =>
    rw [Visit.map_node_walk, Node.filter_blocks]
    induction root.preorder
    case nil => rfl
    case cons n ns ih =>
      rw [List.flatMap_cons, ih, List.filter_cons]
      dsimp only [said]
      split <;> rfl

theorem map_node_preambles : (preambles (Engine.contextOf root path) ⟨0, root⟩).map (·.node) =
    root.blocks.filter (·.front?.isSome) := by
  have hc : ∀ v ∈ (Visit.mk 0 root).walk, (v.node.kind = .yaml &&
      ((Engine.contextOf root path).parsed? v).isSome) = v.node.isReadable := by
    intro v hv
    rw [Engine.parsed?_contextOf hv, Node.isReadable]
    by_cases hk : v.node.kind = .yaml <;> simp [hk]
  rw [preambles, List.filter_congr hc, Node.filter_blocks, ← Visit.map_node_walk ⟨0, root⟩,
    List.filter_map]
  rfl

-- One call on the top node says all there is to say.
theorem preambleExists_found (top : root.kind.name = "root")
    (inner : ∀ n ∈ Node.preorders root.children, n.kind.name ≠ "root") :
    let readable := root.blocks.filter (·.front?.isSome)
    preambleExists.found (Engine.contextOf root path) (Visit.mk 0 root).walk =
      (if readable.isEmpty then [⟨root, "No preamble found"⟩] else []) ++
        (readable.drop 1).map (⟨·, "Too many preambles"⟩) := by
  intro readable
  have hp : (preambles (Engine.contextOf root path) ⟨0, root⟩).map (·.node) = readable :=
    map_node_preambles
  let all : List Finding := (if readable.isEmpty then [⟨root, "No preamble found"⟩] else []) ++
    (readable.drop 1).map (⟨·, "Too many preambles"⟩)
  let said (n : Node) : List Finding := if n.kind.name = "root" then all else []
  refine (Rule.found_single (by decide) said ?each).trans ?nodes
  case each =>
    intro v hv
    have ⟨rest, hw, hr⟩ := (Visit.mk 0 root).walk_eq_cons
    rw [hw] at hv
    by_cases hk : v.node.kind.name = "root"
    case pos =>
      have hv : v = ⟨0, root⟩ := by
        cases List.mem_cons.mp hv
        case inl he => exact he
        case inr hm => exact (inner v.node (hr ▸ List.mem_map_of_mem hm) hk).elim
      subst hv
      have extras (count : Nat) : (((preambles (Engine.contextOf root path) ⟨0, root⟩).drop 1).forM
          fun v => Action.report v.node "Too many preambles").alone "preamble-exists" count () =
            ⟨.ok (), (), { findings := (readable.drop 1).map (⟨·, "Too many preambles"⟩) }⟩ := by
        rw [Action.alone_forM_report Visit.node fun _ => "Too many preambles", ← hp,
          ← List.map_drop, List.map_map]
        rfl
      have he : (preambles (Engine.contextOf root path) ⟨0, root⟩).isEmpty = readable.isEmpty := by
        simp [← hp]
      simp only [said, if_pos hk, all, he]
      split
      case isTrue =>
        simp only [Action.alone_bind, Action.alone_report, Ending.bind, extras]
        rfl
      case isFalse =>
        simp only [extras]
        rfl
    case neg => simp only [said, if_neg hk]
  case nodes =>
    have hn : (Node.preorders root.children).flatMap said = [] := by
      rw [List.flatMap_eq_nil_iff]
      exact fun n hn => if_neg (inner n hn)
    simp only [Visit.map_node_walk, Node.preorder_eq_cons, List.flatMap_cons, hn,
      List.append_nil]
    exact if_pos top

section First

variable {c : Context} {work : Visit → Yaml.Value → Action Bool Unit} {rule : String}

theorem onFirst_alone (v : Visit) (met : Bool) : (onFirst c work v).alone rule 0 met =
    match c.parsed? v with
    | none => ⟨.ok (), met, {}⟩
    | some preamble =>
      if met then ⟨.ok (), true, {}⟩ else (work v preamble).alone rule 0 true := by
  unfold onFirst
  cases c.parsed? v
  case none => rfl
  case some preamble => cases met <;> simp [Action.alone_bind, Ending.bind]

-- The work on a block says some texts about it and does nothing else.
def Says (rule : String) (said : Node → List String)
    (work : Visit → Yaml.Value → Action Bool Unit) : Prop :=
  ∀ v preamble, v.node.front? = some preamble → (work v preamble).alone rule 0 true =
    ⟨.ok (), true, { findings := (said v.node).map (⟨v.node, ·⟩) }⟩

variable {said : Node → List String}

-- A block that is not the first one that can be read is passed over.
theorem onFirst_contribute_idle {v : Visit}
    (hv : c.parsed? v = if v.node.kind = .yaml then v.node.front? else none) (met : Bool)
    (h : met ∨ ¬v.node.isReadable) :
    (ActiveRule.mk rule Bool met [⟨"yaml", onFirst c work⟩]).contribute v =
      (⟨rule, Bool, met, [⟨"yaml", onFirst c work⟩]⟩, ⟨v, rule, none, {}⟩) := by
  by_cases hs : (Validator.mk "yaml" (onFirst c work)).selects v.node
  case neg => exact ActiveRule.contribute_of_not_selects hs
  case pos =>
    rw [ActiveRule.contribute_of_selects hs]
    simp only [onFirst_alone, hv]
    cases hp : if v.node.kind = .yaml then v.node.front? else none
    case none => rfl
    case some preamble =>
      have hreadable : v.node.isReadable := by
        split at hp
        case isTrue hk => simp [Node.isReadable, hk, hp]
        case isFalse => cases hp
      have hm : met = true := h.resolve_right fun hn => hn hreadable
      subst hm
      rfl

theorem onFirst_contribute_first {v : Visit} (hk : v.node.kind = .yaml)
    (hv : c.parsed? v = some preamble) :
    (ActiveRule.mk rule Bool false [⟨"yaml", onFirst c work⟩]).contribute v =
      let e := (work v preamble).alone rule 0 true
      (⟨rule, Bool, e.state, [⟨"yaml", onFirst c work⟩]⟩, ⟨v, rule, e.fault?, e.effect⟩) := by
  have hs : (Validator.mk "yaml" (onFirst c work)).selects v.node :=
    (Validator.selects_iff (by decide) _ _).mpr (hk ▸ rfl)
  rw [ActiveRule.contribute_of_selects hs]
  simp [onFirst_alone, hv]

-- What is kept between the calls is whether there was a block that can be read, and only the first
-- one is worked on.
theorem onFirst_contribute {v : Visit} (hw : Says rule said work)
    (hv : c.parsed? v = if v.node.kind = .yaml then v.node.front? else none) (met : Bool) :
    (ActiveRule.mk rule Bool met [⟨"yaml", onFirst c work⟩]).contribute v =
      (⟨rule, Bool, met || v.node.isReadable, [⟨"yaml", onFirst c work⟩]⟩, ⟨v, rule, none,
        { findings := if v.node.isReadable && !met then (said v.node).map (⟨v.node, ·⟩)
          else [] }⟩) := by
  by_cases hi : met ∨ ¬v.node.isReadable
  case pos =>
    rw [onFirst_contribute_idle hv met hi]
    cases met <;> simp_all
  case neg =>
    have ⟨hm, hr⟩ : met = false ∧ v.node.isReadable := by simpa using hi
    have ⟨hk, hf⟩ : v.node.kind = .yaml ∧ v.node.front?.isSome := by
      simpa [Node.isReadable] using hr
    have ⟨preamble, hf⟩ := Option.isSome_iff_exists.mp hf
    rw [if_pos hk, hf] at hv
    rw [hm, onFirst_contribute_first hk hv, hw v preamble hf]
    simp [hr, Ending.fault?]

theorem onFirst_contributions {vs : List Visit} (hw : Says rule said work)
    (hv : ∀ v ∈ vs, c.parsed? v = if v.node.kind = .yaml then v.node.front? else none)
    (met : Bool) :
    (contributions vs [⟨rule, Bool, met, [⟨"yaml", onFirst c work⟩]⟩]).flatMap (·.effect.findings) =
      if met then [] else
        ((vs.map (·.node)).find? (·.isReadable)).toList.flatMap fun y => (said y).map (⟨y, ·⟩) := by
  induction vs generalizing met
  case nil => simp [contributions]
  case cons v vs ih =>
    obtain ⟨hvv, hvs⟩ := List.forall_mem_cons.mp hv
    simp only [contributions, List.map_cons, List.map_nil, onFirst_contribute hw hvv,
      List.flatMap_append, ih hvs, List.find?_cons]
    cases met <;> cases v.node.isReadable <;> simp

-- Nothing is done once the first block was met, nor where no block can be read.
theorem onFirst_contributions_idle {vs : List Visit}
    (hv : ∀ v ∈ vs, c.parsed? v = if v.node.kind = .yaml then v.node.front? else none)
    (met : Bool) (h : met ∨ ∀ v ∈ vs, ¬v.node.isReadable) :
    ∀ d ∈ contributions vs [⟨rule, Bool, met, [⟨"yaml", onFirst c work⟩]⟩], d.Idle := by
  induction vs
  case nil => simp [contributions]
  case cons v vs ih =>
    obtain ⟨hvv, hvs⟩ := List.forall_mem_cons.mp hv
    obtain ⟨hn, hns⟩ : (met ∨ ¬v.node.isReadable) ∧ (met ∨ ∀ v ∈ vs, ¬v.node.isReadable) := by
      simpa [or_and_left] using h
    simp only [contributions, List.map_cons, List.map_nil, onFirst_contribute_idle hvv met hn]
    exact List.forall_mem_cons.mpr ⟨⟨rfl, rfl⟩, ih hvs hns⟩

theorem onFirst_contributions_first {v : Visit} {before after : List Visit}
    (hv : ∀ w ∈ before ++ v :: after,
      c.parsed? w = if w.node.kind = .yaml then w.node.front? else none)
    (hb : ∀ w ∈ before, ¬w.node.isReadable) (hk : v.node.kind = .yaml)
    (hp : v.node.front? = some preamble) (hm : ((work v preamble).alone rule 0 true).state = true) :
    let e := (work v preamble).alone rule 0 true
    ∃ ds ds', (∀ d ∈ ds, d.Idle) ∧ (∀ d ∈ ds', d.Idle) ∧
      contributions (before ++ v :: after) [⟨rule, Bool, false, [⟨"yaml", onFirst c work⟩]⟩] =
        ds ++ [⟨v, rule, e.fault?, e.effect⟩] ++ ds' := by
  intro e
  induction before
  case nil =>
    obtain ⟨hvv, hvs⟩ := List.forall_mem_cons.mp hv
    rw [if_pos hk, hp] at hvv
    refine ⟨[], contributions after [⟨rule, Bool, true, [⟨"yaml", onFirst c work⟩]⟩], by simp,
      onFirst_contributions_idle hvs true (.inl rfl), ?_⟩
    simp only [List.nil_append, contributions, List.map_cons, List.map_nil,
      onFirst_contribute_first hk hvv, hm, e]
  case cons w before ih =>
    obtain ⟨hw, hvs⟩ := List.forall_mem_cons.mp hv
    obtain ⟨hn, hns⟩ := List.forall_mem_cons.mp hb
    obtain ⟨ds, ds', hd, hd', he⟩ := ih hvs hns
    refine ⟨⟨w, rule, none, {}⟩ :: ds, ds', List.forall_mem_cons.mpr ⟨⟨rfl, rfl⟩, hd⟩, hd', ?_⟩
    simp only [List.cons_append, contributions, List.map_cons, List.map_nil, List.nil_append,
      onFirst_contribute_idle hw false (.inr hn), he]

end First

theorem find?_blocks (root : Node) : root.blocks.find? (·.front?.isSome) =
    ((Visit.mk 0 root).walk.find? (·.node.isReadable)).map (·.node) := by
  have hmap : root.preorder.find? Node.isReadable =
      ((Visit.mk 0 root).walk.find? (Node.isReadable ∘ Visit.node)).map Visit.node := by
    rw [← Visit.map_node_walk ⟨0, root⟩, List.find?_map]
  refine Eq.trans ?_ hmap
  simp only [Node.blocks, List.find?_filter, Bool.decide_and, Bool.decide_eq_true]
  rfl

theorem preambleRule_found {work : Context → Visit → Yaml.Value → Action Bool Unit}
    {said : Node → List String} (hw : Says rule said (work (Engine.contextOf root path))) :
    (preambleRule rule text work).found (Engine.contextOf root path) (Visit.mk 0 root).walk =
      (root.blocks.find? (·.front?.isSome)).toList.flatMap fun y => (said y).map (⟨y, ·⟩) := by
  refine (onFirst_contributions hw (fun _ => Engine.parsed?_contextOf) false).trans ?_
  simp [Visit.map_node_walk, Node.blocks, List.find?_filter, Node.isReadable]

open Preamble

-- What a rule on the preamble says about a block with a given text.
def complaints (schema : Schema) (date : Date) (fileName : Option String) (text : String)
    (name : RuleName) : List String :=
  (frontValue? text).toList.flatMap fun preamble =>
    match name with
    | .preambleData => (failures schema preamble).map (·.message)
    | .preambleOrder =>
      (misplaced? (headersOf text)).toList.map fun h =>
        "Front-matter property \"" ++ h.name ++ "\" is not in proper order"
    | .preambleFilename =>
      match preambleNumber? preamble, fileName with
      | some number, some file =>
        if proposalNumber? file = some number then []
        else ["Front-matter property \"sip\" doesn't match the filename number"]
      | _, _ => []
    | .gitUpdated =>
      match updatedDate? schema.today preamble with
      | some updated =>
        if updated.before date then
          ["The \"updated\" preamble property is older than last git updated time"]
        else []
      | none => []
    | _ => []

-- The rules on the preamble.
def onPreamble : List RuleName :=
  [.preambleData, .preambleOrder, .preambleFilename, .gitUpdated]

section Complaints

variable (schema : Schema) (date : Date)

-- What the rules on the preamble find: complaints about the first block that can be read.
def preambleFindings (root : Node) (path : Option String) (name : RuleName) : List Finding :=
  (root.blocks.find? (·.front?.isSome)).toList.flatMap fun y =>
    (complaints schema date (path.bind Path.fileName?) y.frontText name).map (⟨y, ·⟩)

theorem preambleData_found :
    (preambleData schema).found (Engine.contextOf root path) (Visit.mk 0 root).walk =
      preambleFindings schema date root path .preambleData := by
  refine preambleRule_found fun v preamble hf => ?_
  rw [Node.front?] at hf
  rw [Action.alone_forM_report (fun _ => v.node) Failure.message]
  simp [complaints, hf]

theorem preambleOrder_found :
    preambleOrder.found (Engine.contextOf root path) (Visit.mk 0 root).walk =
      preambleFindings schema date root path .preambleOrder := by
  refine preambleRule_found fun v preamble hf => ?_
  rw [Node.front?] at hf
  simp only [complaints, hf, Option.toList_some, List.flatMap_singleton]
  rw [Node.frontText]
  cases misplaced? (headersOf (v.node.value.getD "")) <;> rfl

theorem preambleFilename_found :
    preambleFilename.found (Engine.contextOf root path) (Visit.mk 0 root).walk =
      preambleFindings schema date root path .preambleFilename := by
  refine preambleRule_found fun v preamble hf => ?_
  rw [Node.front?] at hf
  simp only [complaints, hf, Option.toList_some, List.flatMap_singleton, Context.fileName?,
    Engine.contextOf]
  cases preambleNumber? preamble
  case none => rfl
  case some number =>
    cases path.bind Path.fileName?
    case none => rfl
    case some file => by_cases h : proposalNumber? file = some number <;> simp [h]

theorem gitUpdated_found (world : World) :
    (gitUpdated world (.fixed date)).found (Engine.contextOf root path) (Visit.mk 0 root).walk =
      preambleFindings world.schema date root path .gitUpdated := by
  refine preambleRule_found fun v preamble hf => ?_
  rw [Node.front?] at hf
  simp only [complaints, hf, Option.toList_some, List.flatMap_singleton, checkUpdated,
    referenceDate, World.schema]
  cases updatedDate? world.today preamble
  case none => rfl
  case some updated => cases h : updated.before date <;> simp [Action.alone_bind, Ending.bind, h]

theorem found_onPreamble (h : name ∈ onPreamble) (world : World) :
    (name.rule world { reference := .fixed date }).found (Engine.contextOf root path)
      (Visit.mk 0 root).walk = preambleFindings world.schema date root path name := by
  simp only [onPreamble, List.mem_cons, List.not_mem_nil, or_false] at h
  rcases h with rfl | rfl | rfl | rfl
  · exact preambleData_found ..
  · exact preambleOrder_found ..
  · exact preambleFilename_found ..
  · exact gitUpdated_found ..

end Complaints

-- What the rules find tells of each block what becomes of it. All that is said about the preamble
-- is what a check says about its text.
structure Settled (root : Node) (check : (text : String) → RuleName → List String)
    (found : RuleName → List Finding) : Prop where
  invalid  : found .yaml =
    (root.blocks.filter (·.front?.isNone)).map (⟨·, "Front-matter is not valid YAML"⟩)
  missing  : (∀ y ∈ root.blocks, y.front? = none) →
    found .preambleExists = [⟨root, "No preamble found"⟩] ∧ ∀ name ∈ onPreamble, found name = []
  preamble : ∀ before y after, root.blocks = before ++ y :: after →
    (∀ b ∈ before, b.front? = none) → y.front?.isSome →
      found .preambleExists = (after.filter (·.front?.isSome)).map (⟨·, "Too many preambles"⟩) ∧
        ∀ name ∈ onPreamble, found name = (check y.frontText name).map (⟨y, ·⟩)

-- What becomes of a block behind some others: it is invalid, the preamble or one too many, and the
-- rules say so.
inductive Fate (check : (text : String) → RuleName → List String)
    (found : RuleName → List Finding) (before : List Node) (y : Node) : Prop
  | invalid : (y.front? = none) → (⟨y, "Front-matter is not valid YAML"⟩ ∈ found .yaml) →
      Fate check found before y
  | preamble : (y.front?.isSome) → (∀ b ∈ before, b.front? = none) →
      (∀ name ∈ onPreamble, found name = (check y.frontText name).map (⟨y, ·⟩)) →
      Fate check found before y
  | extra : (y.front?.isSome) → (∃ b ∈ before, b.front?.isSome) →
      (⟨y, "Too many preambles"⟩ ∈ found .preambleExists) → Fate check found before y

namespace Settled

variable {check : String → RuleName → List String} {found : RuleName → List Finding}

-- The rules agree on the preamble, each by itself.
theorem of_found {schema : Schema} {date : Date}
    (hi : found .yaml =
      (root.blocks.filter (·.front?.isNone)).map (⟨·, "Front-matter is not valid YAML"⟩))
    (he : let readable := root.blocks.filter (·.front?.isSome)
      found .preambleExists =
        (if readable.isEmpty then [⟨root, "No preamble found"⟩] else []) ++
          (readable.drop 1).map (⟨·, "Too many preambles"⟩))
    (hp : ∀ name ∈ onPreamble, found name = preambleFindings schema date root path name) :
    Settled root (complaints schema date (path.bind Path.fileName?)) found where
  invalid := hi
  missing hn := by
    have hr : root.blocks.filter (·.front?.isSome) = [] := by simpa using hn
    have hf : root.blocks.find? (·.front?.isSome) = none := by simpa using hn
    refine ⟨by simp [he, hr], fun name hm => ?_⟩
    simp [hp name hm, preambleFindings, hf]
  preamble before y after hb hn hy := by
    have hr : root.blocks.filter (·.front?.isSome) = y :: after.filter (·.front?.isSome) := by
      have : before.filter (·.front?.isSome) = [] := by simpa using hn
      simp [hb, this, hy]
    have hf : root.blocks.find? (·.front?.isSome) = some y := by
      have : before.find? (·.front?.isSome) = none := by simpa using hn
      simp [hb, this, hy]
    refine ⟨by simp [he, hr], fun name hm => ?_⟩
    simp [hp name hm, preambleFindings, hf]

theorem fate (h : Settled root check found) (hb : root.blocks = before ++ y :: after) :
    Fate check found before y := by
  by_cases hy : y.front?.isSome
  case neg =>
    have hy : y.front? = none := by simpa using hy
    exact .invalid hy (by simp [h.invalid, hb, hy])
  case pos =>
    by_cases hf : ∃ b ∈ before, b.front?.isSome
    case neg =>
      have hn : ∀ b ∈ before, b.front? = none := by simpa using hf
      exact .preamble hy hn (h.preamble before y after hb hn hy).right
    case pos =>
      -- The block comes behind the first one that can be read.
      have ⟨b, hm⟩ := Option.isSome_iff_exists.mp (List.find?_isSome.mpr hf)
      have ⟨hs, front, rest, hsplit, hn⟩ := List.find?_eq_some_iff_append.mp hm
      have hb : root.blocks = front ++ b :: (rest ++ y :: after) := by simp [hb, hsplit]
      have ⟨he, _⟩ := h.preamble front b _ hb (by simpa using hn) hs
      exact .extra hy hf (by simp [he, hy])

end Settled
end Rules

open Rules

namespace Engine

section First

variable {root y : Node} {path : Option String} {rule text : String} {online : Prop}
  {work : Context → Visit → Yaml.Value → Action Bool Unit} {preamble : Yaml.Value}

-- All that a rule on the preamble does is its work on the first block that can be read.
theorem validateTree_preambleRule (hl : (preambleRule rule text work).Lone online)
    (hm : ∀ v, ((work (contextOf root path) v preamble).alone rule 0 true).state = true)
    (hy : root.blocks.find? (·.front?.isSome) = some y) (hp : y.front? = some preamble)
    (s : Scheduler) :
    let o := (Engine.mk [preambleRule rule text work] {}).validateTree root path s
    ∃ v, v.node = y ∧
      let e := (work (contextOf root path) v preamble).alone rule 0 true
      o.trace.launches = e.effect.launches ∧ o.found rule = e.effect.findings ∧
        o.result = match e.fault? with
          | some fault => .error (Dispatch.error ⟨v, rule, []⟩ fault)
          | none => messages (e.effect.findings.map (·.report rule)) := by
  have ⟨v, hfind, hv⟩ := Option.map_eq_some_iff.mp (find?_blocks root ▸ hy)
  have ⟨hr, before, after, hw, hb⟩ := List.find?_eq_some_iff_append.mp hfind
  subst hv
  have hk : v.node.kind = .yaml := by
    rw [Node.isReadable, Bool.and_eq_true] at hr
    exact of_decide_eq_true hr.left
  have hparsed : ∀ w ∈ before ++ v :: after, (contextOf root path).parsed? w =
      if w.node.kind = .yaml then w.node.front? else none :=
    fun w hm => parsed?_contextOf (hw ▸ hm)
  have ⟨ds, ds', hd, hd', hc⟩ := onFirst_contributions_first hparsed (by simpa using hb) hk hp (hm v)
  rw [← hw] at hc
  have hrun := validateTree_of_idle hl rfl hc hd hd' s
  simp only [Contribution.upToFault_singleton, List.flatMap_singleton] at hrun
  have ⟨hlaunches, hfound, hresult⟩ := hrun
  refine ⟨v, rfl, hlaunches, hfound, hresult.trans ?_⟩
  generalize (work (contextOf root path) v preamble).alone rule 0 true = e
  cases e.fault? <;> rfl

theorem validateTree_preambleRule_of_none (hl : (preambleRule rule text work).Lone online)
    (hn : root.blocks.find? (·.front?.isSome) = none) (s : Scheduler) :
    let o := (Engine.mk [preambleRule rule text work] {}).validateTree root path s
    o.trace.launches = [] ∧ o.result = .ok [] := by
  have hwalk : ∀ v ∈ (Visit.mk 0 root).walk, ¬v.node.isReadable := by
    rw [find?_blocks, Option.map_eq_none_iff] at hn
    simpa using hn
  let e := Engine.mk [preambleRule rule text work] {}
  have hidle : ∀ d ∈ e.contributions root path, d.Idle :=
    onFirst_contributions_idle (fun _ hm => parsed?_contextOf hm) false (.inr hwalk)
  have hc : e.contributions root path = e.contributions root path ++ [] ++ [] := by simp
  have ⟨hlaunches, _, hresult⟩ := validateTree_of_idle hl rfl hc hidle (by simp) s
  exact ⟨hlaunches, hresult⟩

end First

-- In a document of which only the top node has the kind that validators select as `root`, each of
-- the rules on front matter takes the same block for the preamble.
theorem validateTree_frontMatter (world : World) (date : Date) (root : Node)
    (path : Option String) (s : Scheduler) (top : root.kind.name = "root")
    (inner : ∀ n ∈ Node.preorders root.children, n.kind.name ≠ "root")
    (placed : ∀ n ∈ root.preorder, n.position.isSome) :
    ∃ e, build (Preset.recommended.rules.map
        (RuleName.rule world { reference := .fixed date })) = .ok e ∧
      let o := e.validateTree root path s
      let found (name : RuleName) := o.found name.id
      let check := complaints world.schema date (path.bind Path.fileName?)
      (∃ ms, o.result = .ok ms ∧ ∀ name ∈ Preset.recommended.rules,
        (ms.filter (·.ruleId = name.id)).map some =
          (found name).map fun f => (f.report name.id).message?) ∧
      Settled root check found ∧
      ∀ before y after, root.blocks = before ++ y :: after → Fate check found before y := by
  let rules := Preset.recommended.rules.map (RuleName.rule world { reference := .fixed date })
  have hb : build rules = .ok ⟨rules, {}⟩ :=
    build_eq_ok_iff.mpr ⟨RuleName.ids_nodup (by decide) world _, rfl⟩
  have hh : ∀ r ∈ rules, r.Harmless := by
    intro r hr
    have ⟨name, _, he⟩ := List.mem_map.mp hr
    exact he ▸ name.rule_harmless world date
  have ⟨ms, ok, _⟩ := validateTree_of_harmless hb
    (fun r hr => hh r (List.mem_of_mem_filter hr)) placed path s
  let o := Engine.validateTree ⟨rules, {}⟩ root path s
  have own : ∀ name ∈ Preset.recommended.rules, o.found name.id = _ ∧ _ := fun name hm =>
    name.rule_id world _ ▸ validateTree_found hb (fun _ => RuleName.lone_of_mem_map)
      (List.mem_map_of_mem hm) rfl ok
  have settled : Settled root (complaints world.schema date (path.bind Path.fileName?))
      fun name => o.found name.id := by
    have sub : onPreamble ⊆ Preset.recommended.rules := by decide
    refine .of_found ?yaml ?one ?preamble
    case yaml => exact (own .yaml (by decide)).left.trans validYaml_found
    case one =>
      exact (own .preambleExists (by decide)).left.trans (preambleExists_found top inner)
    case preamble =>
      exact fun name hm => (own name (sub hm)).left.trans (found_onPreamble date hm world)
  exact ⟨_, hb, ⟨ms, ok, fun name hm => (own name hm).right⟩, settled, fun _ _ _ => settled.fate⟩

-- A block that cannot be read comes before two that can, the second of them deeper in the document.
theorem validateTree_frontMatter_of_three :
    let world : World := { today := ⟨2024, 1, 2⟩ }
    let date : Date := ⟨2024, 1, 1⟩
    let at' (line : Nat) : Option Position := some ⟨⟨line, 1, none⟩, ⟨line, 4, none⟩⟩
    let block (line : Nat) (text : String) : Node := .leaf .yaml (at' line) (.literal text)
    let root : Node := .branch .root (at' 9) .none [block 1 "]", block 2 " ",
      .branch .blockquote (at' 8) .none [block 3 "sip: 1"]]
    root.blocks.map (·.front?.isSome) = [false, true, true] ∧
    root.kind.name = "root" ∧ (∀ n ∈ Node.preorders root.children, n.kind.name ≠ "root") ∧
    (∀ n ∈ root.preorder, n.position.isSome) ∧
    ∃ e, build (Preset.recommended.rules.map
        (RuleName.rule world { reference := .fixed date })) = .ok e ∧
      let o := e.validateTree root (some "sip-1.md") .rounds
      let found (name : RuleName) := o.found name.id
      let check := complaints world.schema date ((some "sip-1.md").bind Path.fileName?)
      (∃ ms, o.result = .ok ms ∧ ∀ name ∈ Preset.recommended.rules,
        (ms.filter (·.ruleId = name.id)).map some =
          (found name).map fun f => (f.report name.id).message?) ∧
      Settled root check found ∧
      ∀ before y after, root.blocks = before ++ y :: after → Fate check found before y := by
  intro world date at' block root
  have blocks : root.blocks.map (·.front?.isSome) = [false, true, true] := by
    subst root block at'
    decide +kernel
  have inner : ∀ n ∈ Node.preorders root.children, n.kind.name ≠ "root" := by
    subst root block at'
    decide +kernel
  have placed : ∀ n ∈ root.preorder, n.position.isSome := by
    subst root block at'
    decide +kernel
  exact ⟨blocks, rfl, inner, placed,
    validateTree_frontMatter world date root (some "sip-1.md") .rounds rfl inner placed⟩

end Engine
end ProposalLint

import Mathlib.Data.List.Nodup
import ProposalLint.Proofs.Document.Place
import ProposalLint.Proofs.Engine.Harmless
import ProposalLint.Proofs.Markdown.Placed
import ProposalLint.Rules.Catalogue

namespace ProposalLint

theorem Visit.node_mem_of_mem_walk {v w : Visit} (h : w ∈ v.walk) : w.node ∈ v.node.preorder := by
  have ⟨⟨n, i⟩, hm, he⟩ := List.mem_map.mp h
  subst he
  rw [← Node.walk_eq_preorder]
  exact List.fst_mem_of_mem_zipIdx hm

namespace Rules

open Action.Harmless Node

theorem validYaml_harmless : validYaml.Harmless := by
  refine Rule.single_harmless fun c v => ?_
  split
  case h_1 => exact report v.node.self_mem_preorder
  case h_2 => exact .done

theorem preambleExists_harmless : preambleExists.Harmless := by
  refine Rule.single_harmless fun c v => ?_
  have extras : Action.Harmless (σ := Unit) (· ∈ v.node.preorder)
      (((preambles c v).drop 1).forM fun extra => .report extra.node "Too many preambles") := by
    refine forM fun extra h => report (Visit.node_mem_of_mem_walk ?_)
    exact List.mem_of_mem_filter (List.mem_of_mem_drop h)
  dsimp only
  split
  case isTrue => exact (report v.node.self_mem_preorder).bind fun _ => extras
  case isFalse => exact extras

theorem preambleRule_harmless {work : Context → Visit → Yaml.Value → Action Bool Unit}
    (h : ∀ c v preamble, (work c v preamble).Harmless (· ∈ v.node.preorder)) :
    (preambleRule name text work).Harmless := by
  refine Rule.single_harmless fun c v => ?_
  unfold onFirst
  split
  case h_1 preamble _ =>
    refine update.bind fun met => ?_
    split
    case isTrue => exact h c v preamble
    case isFalse => exact .done
  case h_2 => exact .done

theorem preambleData_harmless (schema : Preamble.Schema) : (preambleData schema).Harmless :=
  preambleRule_harmless fun _ v _ => forM fun _ _ => report v.node.self_mem_preorder

theorem preambleOrder_harmless : preambleOrder.Harmless := by
  refine preambleRule_harmless fun _ v _ => ?_
  split
  case h_1 => exact report v.node.self_mem_preorder
  case h_2 => exact .done

theorem preambleFilename_harmless : preambleFilename.Harmless := by
  refine preambleRule_harmless fun _ v _ => ?_
  split
  case h_1 =>
    split
    case h_1 => exact report_if v.node.self_mem_preorder _
    case h_2 => exact .done
  case h_2 => exact .done

theorem filename_harmless : filename.Harmless := by
  refine Rule.single_harmless fun c v => ?_
  split
  case h_1 => exact report_if v.node.self_mem_preorder _
  case h_2 => exact .done

theorem copyright_harmless : copyright.Harmless :=
  Rule.single_harmless fun _ v => report_if v.node.self_mem_preorder _

-- A date that is given need not be asked for, so that no answer can be missing.
theorem gitUpdated_harmless (world : World) (date : Date) :
    (gitUpdated world (.fixed date)).Harmless := by
  refine preambleRule_harmless fun c v _ => ?_
  unfold checkUpdated
  split
  case h_1 updated _ =>
    refine pure.bind fun reference => ?_
    split
    case h_1 => exact report_if v.node.self_mem_preorder _
    case h_2 => exact .done
  case h_2 => exact .done

theorem node_mem_of_mem_targets (h : t ∈ targets address? v) : t.node ∈ v.node.preorder := by
  have ⟨w, hw, he⟩ := List.mem_filterMap.mp h
  have hn : t.node = w.node := by
    dsimp only at he
    split at he
    case isTrue => cases he
    case isFalse =>
      have ⟨_, _, he⟩ := Option.bind_eq_some_iff.mp he
      have ⟨_, _, he⟩ := Option.bind_eq_some_iff.mp he
      cases he
      rfl
  exact hn ▸ Visit.node_mem_of_mem_walk hw

theorem tell_harmless (h : P t.node) (status : LinkStatus) : (tell t status).Harmless P := by
  cases status
  case fine => exact .done
  case fineWithGet => exact note
  case failed | unreachable => exact report h

theorem checkLinks_harmless (world : World) (v : Visit) :
    (checkLinks world v).Harmless (· ∈ v.node.preorder) := by
  refine update.bind fun before => ?_
  refine (forM fun _ _ => request).bind fun _ => forM ?_
  intro ⟨t, check⟩ h
  have ht := node_mem_of_mem_targets (List.of_mem_zip h).left
  dsimp only
  cases Checker.statusOf check
  case none => exact .done
  case some status => exact tell_harmless ht status

theorem badLink_harmless (world : World) : (badLink world).Harmless := by
  intro c
  refine ⟨⟨{}, [⟨"root", checkLinks world⟩]⟩, rfl, ?_⟩
  exact List.forall_mem_singleton.mpr (checkLinks_harmless world)

end Rules

namespace RuleName

theorem ofId?_id (name : RuleName) : ofId? name.id = some name := by
  cases name <;> rfl

theorem id_injective : Function.Injective id :=
  fun a b h => Option.some.inj (ofId?_id a ▸ h ▸ ofId?_id b)

theorem rule_id (world : World) (s : RuleSettings) (name : RuleName) :
    (name.rule world s).id = name.id := by
  cases name <;> rfl

theorem ids_nodup {names : List RuleName} (h : names.Nodup) (world : World) (s : RuleSettings) :
    ((names.map (rule world s)).map (·.id)).Nodup := by
  simpa [Function.comp_def, rule_id] using List.Nodup.map id_injective h

theorem rule_harmless (world : World) (date : Date) (name : RuleName) :
    (name.rule world { reference := .fixed date }).Harmless := by
  cases name
  case yaml => exact Rules.validYaml_harmless
  case preambleExists => exact Rules.preambleExists_harmless
  case preambleData => exact Rules.preambleData_harmless world.schema
  case preambleOrder => exact Rules.preambleOrder_harmless
  case preambleFilename => exact Rules.preambleFilename_harmless
  case filename => exact Rules.filename_harmless
  case copyright => exact Rules.copyright_harmless
  case gitUpdated => exact Rules.gitUpdated_harmless world date
  case badLink => exact Rules.badLink_harmless world

end RuleName

theorem Markdown.parse_eq_treeOf (source : String) : ∃ stream,
    parse source = treeOf source source.toList (emptyFront? source.toList) stream := by
  cases h : emptyFront? source.toList
  case none => exact ⟨stream source, by simp only [parse, h]⟩
  case some span =>
    exact ⟨stream (String.ofList (blankOut source.toList span.stop)), by simp only [parse, h]⟩

theorem Markdown.parse_placed (source : String) : (parse source).Placed source.toList := by
  have ⟨stream, hp⟩ := parse_eq_treeOf source
  rw [hp]
  exact treeOf_placed _ stream

-- The message is at a place between characters of the text.
def Message.InText (source : List Char) (m : Message) : Prop :=
  ∃ offset, IsBoundary source offset ∧
    m.line = (Point.locate source offset).line ∧ m.column = (Point.locate source offset).column

namespace Engine

variable {e : Engine} {rules : List Rule} {config : Config} {root : Node} {source : List Char}

theorem validateTree_of_placed (hb : build rules config = .ok e) (hr : ∀ r ∈ rules, r.Harmless)
    (hp : root.Placed source) (path : Option String) (s : Scheduler) :
    ∃ ms, (e.validateTree root path s).result = .ok ms ∧ ∀ m ∈ ms, m.InText source := by
  have he := (build_eq_ok_iff.mp hb).right
  have ha : ∀ r ∈ e.active, r.Harmless := by
    subst he
    exact fun r h => hr r (List.mem_of_mem_filter h)
  have hs : ∀ n ∈ root.preorder, n.position.isSome := by
    intro n hn
    have ⟨_, _, h⟩ := hp n hn
    simp [h]
  have ⟨ms, ok, hm⟩ := validateTree_of_harmless hb ha hs path s
  refine ⟨ms, ok, fun m h => ?_⟩
  have ⟨n, hn, p, hpos, hl, hc⟩ := hm m h
  have ⟨_, stop, hat⟩ := hp n hn
  have ⟨offset, hbo, hline, hcol⟩ := locate_eq_boundary source stop
  cases hat.symm.trans hpos
  exact ⟨offset, hbo, hl.trans hline, hc.trans hcol⟩

-- Whatever a text says, whatever the servers answer, and even whatever events the text is read as,
-- the rules of the catalogue check it to the end, and each message is at a place in the text.
theorem validateSource_succeeds (world : World) (date : Date) (names : List RuleName)
    (h : names.Nodup) (config : Config) (source : String) (path : Option String) (s : Scheduler) :
    ∃ e, build (names.map (RuleName.rule world { reference := .fixed date })) config = .ok e ∧
      (∃ ms, (e.validateSource source path s).result = .ok ms ∧ ∀ m ∈ ms, m.InText source.toList) ∧
      ∀ stream, let front := Markdown.emptyFront? source.toList
        let root := Markdown.treeOf source source.toList front stream
        ∃ ms, (e.validateTree root path s).result = .ok ms ∧ ∀ m ∈ ms, m.InText source.toList := by
  let rules := names.map (RuleName.rule world { reference := .fixed date })
  have hb : build rules config = .ok ⟨rules, config⟩ :=
    build_eq_ok_iff.mpr ⟨RuleName.ids_nodup h world _, rfl⟩
  have hr : ∀ r ∈ rules, r.Harmless := by
    intro r hm
    have ⟨name, _, he⟩ := List.mem_map.mp hm
    exact he ▸ name.rule_harmless world date
  refine ⟨⟨rules, config⟩, hb, ?source, ?stream⟩
  case source =>
    have ⟨stream, hp⟩ := Markdown.parse_eq_treeOf source
    rw [validateSource, hp]
    exact validateTree_of_placed hb hr (Markdown.treeOf_placed _ stream) path s
  case stream =>
    intro stream
    exact validateTree_of_placed hb hr (Markdown.treeOf_placed _ stream) path s

-- All rules together, on a list in which the servers do not know the one link.
theorem validateSource_succeeds_of_all :
    let world : World := { today := ⟨2024, 1, 2⟩, web := fun _ _ => some 404 }
    let rules := RuleName.all.map (RuleName.rule world { reference := .fixed ⟨2024, 1, 1⟩ })
    let source := "---\nsip: 1\n---\n\n- é [a](http://example.com/b)\n"
    RuleName.all.Nodup ∧ ∃ e, build rules {} = .ok e ∧
      (∃ ms, (e.validateSource source none .rounds).result = .ok ms ∧
        ∀ m ∈ ms, m.InText source.toList) ∧
      ∀ stream, let front := Markdown.emptyFront? source.toList
        let root := Markdown.treeOf source source.toList front stream
        ∃ ms, (e.validateTree root none .rounds).result = .ok ms ∧
          ∀ m ∈ ms, m.InText source.toList := by
  intro world rules source
  have h : RuleName.all.Nodup := by decide
  exact ⟨h, validateSource_succeeds world ⟨2024, 1, 1⟩ RuleName.all h {} source none .rounds⟩

end Engine
end ProposalLint

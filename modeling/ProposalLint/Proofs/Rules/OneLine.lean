import ProposalLint.Proofs.Engine.Tells
import ProposalLint.Proofs.Preamble.Repeated
import ProposalLint.Proofs.Rules.FrontMatter
import ProposalLint.Proofs.Rules.Links

namespace ProposalLint

namespace Rules

open Action.Tells

section Fixed

variable {c : Context} {vs : List Visit}

theorem validYaml_oneLine : ∀ f ∈ validYaml.found c vs, OneLine f.text := by
  refine Rule.single_tells fun v _ => ?_
  split
  case h_1 => exact report (by simp [OneLine])
  case h_2 => exact .done

theorem preambleExists_oneLine : ∀ f ∈ preambleExists.found c vs, OneLine f.text := by
  refine Rule.single_tells fun v _ => ?_
  have extras : Action.Tells (σ := Unit) OneLine
      (((preambles c v).drop 1).forM fun extra => .report extra.node "Too many preambles") :=
    forM fun _ _ => report (by simp [OneLine])
  dsimp only
  split
  case isTrue => exact (report (by simp [OneLine])).bind fun _ => extras
  case isFalse => exact extras

theorem preambleRule_tells {work : Context → Visit → Yaml.Value → Action Bool Unit}
    (h : ∀ v preamble, (work c v preamble).Tells P) :
    ∀ f ∈ (preambleRule name text work).found c vs, P f.text := by
  refine Rule.single_tells fun v _ => ?_
  unfold onFirst
  split
  case h_1 preamble _ =>
    refine (update _).bind fun met => ?_
    split
    case isTrue => exact h v preamble
    case isFalse => exact .done
  case h_2 => exact .done

theorem preambleOrder_oneLine : ∀ f ∈ preambleOrder.found c vs, OneLine f.text := by
  refine preambleRule_tells fun v _ => ?_
  split
  case h_1 h _ => exact report (by simp [h.oneLine_name]; simp [OneLine])
  case h_2 => exact .done

theorem preambleFilename_oneLine : ∀ f ∈ preambleFilename.found c vs, OneLine f.text := by
  refine preambleRule_tells fun v _ => ?_
  split
  case h_1 =>
    split
    case h_1 => exact report_if (by simp [OneLine]) _
    case h_2 => exact .done
  case h_2 => exact .done

-- The rule repeats the path.
theorem filename_oneLine (hp : ∀ path ∈ c.path, OneLine path) :
    ∀ f ∈ filename.found c vs, OneLine f.text := by
  refine Rule.single_tells fun v _ => ?_
  split
  case h_1 path he => exact report_if (by simp [hp path he]; simp [OneLine]) _
  case h_2 => exact .done

theorem copyright_oneLine : ∀ f ∈ copyright.found c vs, OneLine f.text :=
  Rule.single_tells fun _ _ => report_if (by simp [OneLine]) _

theorem gitUpdated_oneLine (world : World) (reference : Reference) :
    ∀ f ∈ (gitUpdated world reference).found c vs, OneLine f.text := by
  refine preambleRule_tells fun _ _ => ?_
  unfold checkUpdated
  split
  case h_1 =>
    refine (referenceDate_quiet world c reference).tells.bind fun date => ?_
    split
    case h_1 => exact report_if (by simp [OneLine]) _
    case h_2 => exact .done
  case h_2 => exact .done

end Fixed

section Repeating

variable {root : Node} {path : Option String}

-- The value of the first block of front matter that can be read.
def preamble? (root : Node) : Option Yaml.Value :=
  (root.blocks.find? (·.front?.isSome)).bind (·.front?)

theorem preambleData_oneLine_iff (schema : Preamble.Schema) :
    (∀ f ∈ (preambleData schema).found (Engine.contextOf root path) (Visit.mk 0 root).walk,
      OneLine f.text) ↔
      ∀ text ∈ (preamble? root).toList.flatMap Preamble.repeated, OneLine text := by
  rw [preambleData_found schema default, preambleFindings, preamble?]
  cases root.blocks.find? (·.front?.isSome)
  case none => simp
  case some y =>
    simp only [complaints, Node.front?, Option.toList_some, List.flatMap_singleton,
      List.forall_mem_map, Option.bind_some]
    cases frontValue? y.frontText
    case none => simp
    case some preamble => simpa using Preamble.oneLine_messages_iff schema preamble

-- The finding repeats the address of the link.
theorem brokenLink?_eq_some (h : brokenLink? world n = some f) :
    ∃ url, n.url = some url ∧ (OneLine f.text ↔ OneLine url) := by
  unfold brokenLink? at h
  split at h
  case isTrue => cases h
  case isFalse =>
    have ⟨url, hu, h⟩ := Option.bind_eq_some_iff.mp h
    have ⟨a, _, h⟩ := Option.bind_eq_some_iff.mp h
    have ⟨text, ht, h⟩ := Option.bind_eq_some_iff.mp h
    cases h
    refine ⟨url, hu, ?_⟩
    have hfront : OneLine "Url \"" := by simp [OneLine]
    cases hs : LinkStatus.of world.web a
    case fine | fineWithGet => simp [hs, LinkStatus.complaint?] at ht
    case failed status =>
      have hback : OneLine "\" is invalid, the server responded with " := by simp [OneLine]
      simp only [hs, LinkStatus.complaint?, Option.some.injEq] at ht
      simp [← ht, hfront, hback]
    case unreachable =>
      have hback :
          OneLine "\" is invalid, the server doesn't exist or there's no internet access." := by
        simp [OneLine]
      simp only [hs, LinkStatus.complaint?, Option.some.injEq] at ht
      simp [← ht, hfront, hback]

-- The addresses of the links that are found to be broken.
def brokenUrls (world : World) (root : Node) : List String :=
  (root.preorder.filter fun n => (brokenLink? world n).isSome).filterMap (·.url)

theorem oneLine_brokenLinks_iff :
    (∀ f ∈ brokenLinks world root, OneLine f.text) ↔ ∀ url ∈ brokenUrls world root, OneLine url := by
  simp only [brokenLinks, brokenUrls, List.mem_filterMap, List.mem_filter, Option.isSome_iff_exists]
  constructor
  case mp =>
    rintro h url ⟨n, ⟨hn, f, hf⟩, hu⟩
    obtain ⟨url', hu', hi⟩ := brokenLink?_eq_some hf
    cases hu.symm.trans hu'
    exact hi.mp (h f ⟨n, hn, hf⟩)
  case mpr =>
    rintro h f ⟨n, hn, hf⟩
    obtain ⟨url, hu, hi⟩ := brokenLink?_eq_some hf
    exact hi.mpr (h url ⟨n, ⟨hn, f, hf⟩, hu⟩)

theorem badLink_found {limits : LinkLimits}
    (ha : ((badLink world limits).activate? (Engine.contextOf root path)).isSome) :
    (badLink world limits).found (Engine.contextOf root path) vs =
      vs.flatMap (linkFindings world) := by
  have hp : ¬maxPermits < limits.permits := by
    intro hp
    simp [activate?_badLink, hp] at ha
  have ⟨_, _, _, hb, _⟩ := linkRule_contributions (sound_empty world) vs
  have hf := congrArg (List.flatMap (·.effect.findings)) hb
  simpa [Rule.found, activeRules, activate?_badLink, hp, List.flatMap_map, Contribution.bare]
    using hf

theorem badLink_oneLine_iff (world : World) (limits : LinkLimits)
    (ha : ((badLink world limits).activate? (Engine.contextOf root path)).isSome)
    (top : root.kind = .root) :
    (∀ f ∈ (badLink world limits).found (Engine.contextOf root path) (Visit.mk 0 root).walk,
      OneLine f.text) ↔ ∀ url ∈ brokenUrls world root, OneLine url := by
  rw [← oneLine_brokenLinks_iff, badLink_found ha]
  constructor
  case mp =>
    intro h f hf
    obtain ⟨_, hw, _⟩ := (Visit.mk 0 root).walk_eq_cons
    refine h f (List.mem_flatMap.mpr ⟨⟨0, root⟩, by simp [hw], ?_⟩)
    simpa [linkFindings, isRoot, top, Kind.name] using hf
  case mpr =>
    -- A call deeper in the document finds nothing that the one on top does not.
    intro h f hf
    obtain ⟨v, hv, hf⟩ := List.mem_flatMap.mp hf
    unfold linkFindings at hf
    split at hf
    case isTrue =>
      obtain ⟨n, hn, hf⟩ := List.mem_filterMap.mp hf
      have hn := Node.mem_preorder_trans hn root (Visit.node_mem_of_mem_walk hv)
      exact h f (List.mem_filterMap.mpr ⟨n, hn, hf⟩)
    case isFalse => cases hf

end Repeating

end Rules

namespace RuleName

open Rules

-- The texts of a document that a rule repeats, as they stand there, in what it says.
def repeated (world : World) (root : Node) : RuleName → List String
  | .preambleData => (preamble? root).toList.flatMap Preamble.repeated
  | .badLink => brokenUrls world root
  | _ => []

variable {world : World} {s : RuleSettings} {root : Node} {path : Option String}

-- What a rule says takes one line each exactly if the texts do that it repeats.
theorem found_oneLine_iff (name : RuleName) (hp : ∀ p ∈ path, OneLine p)
    (ha : ((name.rule world s).activate? (Engine.contextOf root path)).isSome)
    (top : root.kind = .root) :
    (∀ f ∈ (name.rule world s).found (Engine.contextOf root path) (Visit.mk 0 root).walk,
      OneLine f.text) ↔ ∀ text ∈ name.repeated world root, OneLine text := by
  have silent {found : List Finding} (h : ∀ f ∈ found, OneLine f.text) :
      (∀ f ∈ found, OneLine f.text) ↔ ∀ text ∈ ([] : List String), OneLine text :=
    iff_of_true h (by simp)
  cases name
  case yaml => exact silent validYaml_oneLine
  case preambleExists => exact silent preambleExists_oneLine
  case preambleData => exact preambleData_oneLine_iff world.schema
  case preambleOrder => exact silent preambleOrder_oneLine
  case preambleFilename => exact silent preambleFilename_oneLine
  case filename => exact silent (filename_oneLine hp)
  case copyright => exact silent copyright_oneLine
  case gitUpdated => exact silent (gitUpdated_oneLine world s.reference)
  case badLink => exact badLink_oneLine_iff world s.links ha top

end RuleName
end ProposalLint

import ProposalLint.Proofs.Engine.Separate
import ProposalLint.Rules.Catalogue

namespace ProposalLint

namespace Rules

open Action.Lone

variable {online : Prop}

theorem validYaml_lone : validYaml.Lone online := by
  refine Rule.single_lone fun c v => ?_
  split
  case h_1 => exact report ..
  case h_2 => exact .done

theorem preambleExists_lone : preambleExists.Lone online := by
  refine Rule.single_lone fun c v => ?_
  dsimp only
  split
  case isTrue => exact (report ..).bind fun _ => forM (fun _ => report ..) _
  case isFalse => exact forM (fun _ => report ..) _

theorem preambleRule_lone {work : Context → Visit → Yaml.Value → Action Bool Unit}
    (h : ∀ c v preamble, (work c v preamble).Lone online) :
    (preambleRule name text work).Lone online := by
  refine Rule.single_lone fun c v => ?_
  unfold onFirst
  split
  case h_1 preamble _ =>
    refine (update _).bind fun met => ?_
    split
    case isTrue => exact h c v preamble
    case isFalse => exact .done
  case h_2 => exact .done

theorem preambleData_lone (schema : Preamble.Schema) : (preambleData schema).Lone online :=
  preambleRule_lone fun _ _ _ => forM (fun _ => report ..) _

theorem preambleOrder_lone : preambleOrder.Lone online := by
  refine preambleRule_lone fun _ _ _ => ?_
  split
  case h_1 => exact report ..
  case h_2 => exact .done

theorem preambleFilename_lone : preambleFilename.Lone online := by
  refine preambleRule_lone fun _ _ _ => ?_
  split
  case h_1 =>
    split
    case h_1 => exact report_if _
    case h_2 => exact .done
  case h_2 => exact .done

theorem filename_lone : filename.Lone online := by
  refine Rule.single_lone fun _ _ => ?_
  split
  case h_1 => exact report_if _
  case h_2 => exact .done

theorem copyright_lone : copyright.Lone online :=
  Rule.single_lone fun _ _ => report_if _

theorem ask_quiet (world : World) (directory : String) (q : HistoryQuery) :
    (ask world directory q).Quiet :=
  .launching .done

theorem output_quiet (reply : HistoryReply) : (output reply).Quiet := by
  cases reply
  case notFound | notStarted => exact .stopped
  case exited success _ => cases success <;> exact .done

theorem readChange_quiet (told : Option String) : (readChange told).Quiet := by
  unfold readChange
  split
  case h_1 | h_2 => exact .done
  case h_3 => split <;> constructor

theorem lastChange_quiet (world : World) (path : String) : (lastChange world path).Quiet := by
  unfold lastChange
  split
  case h_2 => exact .done
  case h_1 =>
    refine (ask_quiet ..).bind fun inside => ?_
    split
    case isTrue => exact .done
    case isFalse =>
      refine (output_quiet inside).bind fun told => ?_
      split
      case isTrue => exact .done
      case isFalse =>
        refine (ask_quiet ..).bind fun shallow => (output_quiet shallow).bind fun told => ?_
        split
        case isTrue => exact .done
        case isFalse =>
          exact (ask_quiet ..).bind fun log => (output_quiet log).bind readChange_quiet

theorem referenceDate_quiet (world : World) (c : Context) (reference : Reference) :
    (referenceDate world c reference).Quiet := by
  cases reference
  case fixed => exact .done
  case lastChange =>
    simp only [referenceDate]
    split
    case h_1 path _ =>
      refine (lastChange_quiet world path).bind fun change => ?_
      split
      case h_1 => exact .done
      case h_2 =>
        cases change.note?
        case none => exact .done
        case some => exact .noting .done
    case h_2 => exact .done

theorem gitUpdated_lone (world : World) (reference : Reference) :
    (gitUpdated world reference).Lone online := by
  refine preambleRule_lone fun c _ _ => ?_
  unfold checkUpdated
  split
  case h_1 =>
    refine (referenceDate_quiet world c reference).lone.bind fun date => ?_
    split
    case h_1 => exact report_if _
    case h_2 => exact .done
  case h_2 => exact .done

theorem tell_lone (t : Target) (status : LinkStatus) : (tell t status).Lone online := by
  cases status
  case fine => exact .done
  case fineWithGet => exact note _
  case failed | unreachable => exact report ..

theorem checkLinks_lone (h : online) (world : World) (v : Visit) :
    (checkLinks world v).Lone online := by
  refine (update _).bind fun before => ?_
  refine (forM (fun _ => .requesting h .done) _).bind fun _ => forM ?_ _
  intro ⟨t, check⟩
  dsimp only
  cases Checker.statusOf check
  case none => exact .done
  case some status => exact tell_lone t status

theorem badLink_lone (h : online) (world : World) (limits : LinkLimits) :
    (badLink world limits).Lone online := by
  intro c
  by_cases hp : maxPermits < limits.permits
  case pos => exact .inl ⟨.panic, by simp only [badLink, if_pos hp]; rfl⟩
  case neg => exact .inr ⟨{}, _, by simp only [badLink, if_neg hp]; rfl, checkLinks_lone h world⟩

end Rules

-- No rule takes notice of the others, and only the one on links asks servers.
theorem RuleName.rule_lone {online : Prop} (world : World) (s : RuleSettings) (name : RuleName)
    (h : name = .badLink → online) : (name.rule world s).Lone online := by
  cases name
  case yaml => exact Rules.validYaml_lone
  case preambleExists => exact Rules.preambleExists_lone
  case preambleData => exact Rules.preambleData_lone world.schema
  case preambleOrder => exact Rules.preambleOrder_lone
  case preambleFilename => exact Rules.preambleFilename_lone
  case filename => exact Rules.filename_lone
  case copyright => exact Rules.copyright_lone
  case gitUpdated => exact Rules.gitUpdated_lone world s.reference
  case badLink => exact Rules.badLink_lone (h rfl) world s.links

theorem RuleName.lone_of_mem_map {names : List RuleName} {world : World} {s : RuleSettings}
    (h : r ∈ names.map (rule world s)) : r.Lone True := by
  have ⟨name, _, he⟩ := List.mem_map.mp h
  exact he ▸ name.rule_lone world s fun _ => trivial

end ProposalLint

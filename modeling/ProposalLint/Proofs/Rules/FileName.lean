import ProposalLint.Proofs.Calendar.Digits
import ProposalLint.Proofs.Engine.Silence
import ProposalLint.Proofs.Json.RoundTrip
import ProposalLint.Proofs.Preamble.Validity
import ProposalLint.Proofs.Rules.FrontMatter
import ProposalLint.Proofs.Yaml.Bounds

namespace ProposalLint

namespace Rules

section Numerals

variable {cs : List Char}

theorem isNumeral_iff_head : isNumeral cs ↔
    ∃ x rest, cs = x :: rest ∧ x ≠ '0' ∧ ∀ c ∈ cs, isDigit c := by
  cases cs
  case nil => simp [isNumeral]
  case cons c cs => simp [isNumeral, and_comm, and_assoc]

theorem isNumeral_concat :
    isNumeral (cs ++ [c]) ↔ isDigit c ∧ (cs = [] ∧ c ≠ '0' ∨ isNumeral cs) := by
  cases cs
  case nil => simp [isNumeral]
  case cons x cs =>
    simp [isNumeral]
    grind

theorem value_toDigits (n : Nat) : Date.value (Nat.toDigits 10 n) = n := by
  have h := @Nat.ofDigitChars_ten_toDigits n
  rw [Nat.ofDigitChars_eq_foldl] at h
  exact h

-- Without a zero in front a number has only one way to be written.
theorem toDigits_value (h : isNumeral cs) :
    0 < Date.value cs ∧ Nat.toDigits 10 (Date.value cs) = cs := by
  induction cs using List.reverseRec
  case nil => simp [isNumeral] at h
  case append_singleton cs c ih =>
    obtain ⟨hc, hcs⟩ := isNumeral_concat.mp h
    obtain ⟨hlow, hhigh⟩ := Date.isDigit_iff.mp hc
    have hlast := Date.digitChar_of_isDigit hc
    rw [Date.value_concat]
    cases hcs
    case inl hz =>
      obtain ⟨hnil, hz⟩ := hz
      have hne : c.toNat ≠ 48 := fun he => hz (Char.toNat_inj.mp he)
      subst hnil
      refine ⟨by omega, ?_⟩
      rw [Nat.toDigits_of_lt_base (by simp [Date.value]; omega)]
      simpa [Date.value] using hlast
    case inr hn =>
      obtain ⟨hpos, hd⟩ := ih hn
      refine ⟨by omega, ?_⟩
      have hdiv : (10 * Date.value cs + (c.toNat - 48)) / 10 = Date.value cs := by omega
      have hmod : (10 * Date.value cs + (c.toNat - 48)) % 10 = c.toNat - 48 := by omega
      rw [Nat.toDigits_of_base_le (by decide) (by omega), hdiv, hmod, hd, hlast]

theorem isNumeral_toDigits (h : 0 < n) : isNumeral (Nat.toDigits 10 n) := by
  rw [isNumeral_iff_head]
  cases hd : Nat.toDigits 10 n
  case nil => exact absurd hd Nat.toDigits_ne_nil
  case cons x rest =>
    refine ⟨x, rest, rfl, ?_, ?_⟩
    · have := Json.head?_toDigits_ne_zero h
      simpa [hd] using this
    · intro c hc
      rw [← hd] at hc
      have := Nat.isDigit_of_mem_toDigits (by decide) (by decide) hc
      simpa [isDigit, Char.isDigit, Char.le_def] using this

end Numerals

-- The name that the document of a proposal must have.
def proposalName (n : Nat) : String :=
  "sip-" ++ toString n ++ ".md"

theorem toList_proposalName (n : Nat) : (proposalName n).toList =
    's' :: 'i' :: 'p' :: '-' :: (Nat.toDigits 10 n ++ ['.', 'm', 'd']) := by
  simp [proposalName]

theorem isProposalName_iff : isProposalName name ↔ ∃ n, 0 < n ∧ name = proposalName n := by
  constructor
  case mp =>
    intro h
    unfold isProposalName at h
    split at h
    case h_2 => cases h
    case h_1 rest hname =>
      split at h
      case h_2 => cases h
      case h_1 number hrest =>
        have ⟨hpos, hd⟩ := toDigits_value h
        refine ⟨_, hpos, ?_⟩
        rw [List.reverse_eq_iff] at hrest
        rw [← String.toList_inj, toList_proposalName, hd, hname, hrest]
        simp
  case mpr =>
    intro ⟨n, hpos, hname⟩
    rw [isProposalName, hname, toList_proposalName]
    simp [isNumeral_toDigits hpos]

theorem suffix_of_proposalNumber? (h : proposalNumber? name = some n) :
    0 < n ∧ n < 2 ^ 64 ∧ (proposalName n).toList <:+ name.toList := by
  unfold proposalNumber? at h
  split at h
  case h_2 => cases h
  case h_1 rest hname =>
    dsimp only at h
    split at h
    case h_2 => cases h
    case h_1 before hrest =>
      split at h
      case isFalse => cases h
      case isTrue hn =>
        rw [Bool.and_eq_true, decide_eq_true_eq] at hn
        have ⟨hpos, hd⟩ := toDigits_value hn.left
        have hv : Date.value (rest.takeWhile isDigit).reverse = n := Option.some.inj h
        rw [hv] at hpos hd
        refine ⟨hpos, hv ▸ hn.right, before.reverse, ?_⟩
        have hsplit : rest = (Nat.toDigits 10 n).reverse ++ '-' :: 'p' :: 'i' :: 's' :: before := by
          rw [hd, List.reverse_reverse, ← hrest, List.takeWhile_append_dropWhile]
        rw [List.reverse_eq_iff] at hname
        rw [hname, hsplit, toList_proposalName]
        simp

theorem proposalNumber?_of_suffix (hpos : 0 < n) (hlt : n < 2 ^ 64)
    (h : (proposalName n).toList <:+ name.toList) : proposalNumber? name = some n := by
  have ⟨before, hname⟩ := h
  have hdigits : ∀ c ∈ (Nat.toDigits 10 n).reverse, isDigit c := by
    have ⟨_, _, _, _, h⟩ := isNumeral_iff_head.mp (isNumeral_toDigits hpos)
    simpa using h
  have hrev : name.toList.reverse = 'd' :: 'm' :: '.' :: ((Nat.toDigits 10 n).reverse ++
      '-' :: 'p' :: 'i' :: 's' :: before.reverse) := by
    rw [← hname, toList_proposalName]
    simp
  have htake : ((Nat.toDigits 10 n).reverse ++ '-' :: 'p' :: 'i' :: 's' ::
      before.reverse).takeWhile isDigit = (Nat.toDigits 10 n).reverse := by
    rw [List.takeWhile_append_of_pos hdigits]
    simp [isDigit]
  have hdrop : ((Nat.toDigits 10 n).reverse ++ '-' :: 'p' :: 'i' :: 's' ::
      before.reverse).dropWhile isDigit = '-' :: 'p' :: 'i' :: 's' :: before.reverse := by
    rw [List.dropWhile_append_of_pos hdigits]
    simp [isDigit]
  have hv := value_toDigits n
  unfold Date.value at hv
  simp only [proposalNumber?, hrev, htake, hdrop, List.reverse_reverse, hv,
    isNumeral_toDigits hpos]
  simpa using hlt

theorem proposalNumber?_eq_some_iff : proposalNumber? name = some n ↔
    0 < n ∧ n < 2 ^ 64 ∧ (proposalName n).toList <:+ name.toList :=
  ⟨suffix_of_proposalNumber?, fun ⟨hpos, hlt, h⟩ => proposalNumber?_of_suffix hpos hlt h⟩

-- The name as a whole goes with one number only.
theorem proposalName_isSuffix_iff (h : 0 < m) :
    (proposalName n).toList <:+ (proposalName m).toList ↔ n = m := by
  constructor
  case mpr => exact fun he => he ▸ List.suffix_rfl
  case mp =>
    intro hs
    have hdigits : 's' ∉ Nat.toDigits 10 m := by
      have ⟨_, _, _, _, hd⟩ := isNumeral_iff_head.mp (isNumeral_toDigits h)
      exact fun hm => absurd (hd 's' hm) (by decide)
    rw [toList_proposalName, toList_proposalName, List.suffix_cons_iff] at hs
    cases hs
    case inl he =>
      have hd : Nat.toDigits 10 n = Nat.toDigits 10 m := by simpa using he
      rw [← value_toDigits n, hd, value_toDigits]
    case inr hs =>
      have := hs.subset List.mem_cons_self
      simp [hdigits] at this

section Found

variable {root y : Node} {preamble : Yaml.Value}

theorem filename_found_eq_nil_iff (top : root.kind.name = "root") (path : String) :
    filename.found (Engine.contextOf root (some path)) (Visit.mk 0 root).walk = [] ↔
      ∃ n, 0 < n ∧ Path.fileName? path = some (proposalName n) := by
  let right : Bool := (Path.fileName? path).any isProposalName
  let text := "File \"" ++ path ++ "\" doesn't have a filename in \"sip-N.md\" format"
  let said (n : Node) : List Finding :=
    if n.kind.name = "root" then if right then [] else [⟨n, text⟩] else []
  have hfound : filename.found (Engine.contextOf root (some path)) (Visit.mk 0 root).walk =
      root.preorder.flatMap said := by
    rw [← Visit.map_node_walk ⟨0, root⟩]
    refine Rule.found_single (by decide) said fun v _ => ?_
    change said v.node = if v.node.kind.name = "root" then
      (Action.alone "filename" (if !right then Action.report v.node text else pure ()) 0 ()
        ).effect.findings else []
    cases hr : right <;> simp [said, hr]
  have hright : right ↔ ∃ n, 0 < n ∧ Path.fileName? path = some (proposalName n) := by
    simp only [right, Option.any_eq_true, isProposalName_iff]
    grind
  rw [hfound, List.flatMap_eq_nil_iff, ← hright]
  constructor
  case mp =>
    intro h
    have := h root root.self_mem_preorder
    simpa [said, top] using this
  case mpr =>
    intro h n _
    simp [said, h]

theorem preambleFilename_found_eq_nil_iff (hy : root.blocks.find? (·.front?.isSome) = some y)
    (hv : y.front? = some preamble) (hn : preambleNumber? preamble = some n) (path : String) :
    preambleFilename.found (Engine.contextOf root (some path)) (Visit.mk 0 root).walk = [] ↔
      ∀ file, Path.fileName? path = some file → proposalNumber? file = some n := by
  -- No date matters to this rule.
  rw [preambleFilename_found default default]
  rw [Node.front?] at hv
  simp only [preambleFindings, hy, complaints, hv, hn, Option.toList_some,
    List.flatMap_singleton, Option.bind_some, List.map_eq_nil_iff]
  cases Path.fileName? path
  case none => simp
  case some file => by_cases h : proposalNumber? file = some n <;> simp [h]

-- The number of a preamble without failures is positive.
theorem exists_sip_of_failures (h : Preamble.failures schema preamble = []) :
    ∃ n, preamble.untagged.field? "sip" = some (.int n) ∧ 1 ≤ n := by
  by_cases hm : ∃ entries, preamble.untagged = .map entries
  case neg => simp [Preamble.failures_of_not_map (not_exists.mp hm)] at h
  case pos =>
    have ⟨entries, he⟩ := hm
    have hown : Preamble.ownFailures schema entries = [] := by
      by_contra hne
      rw [Preamble.failures_of_map he, if_neg (mt List.isEmpty_iff.mp hne)] at h
      exact hne h
    have hr := (Preamble.ownFailures_eq_nil_iff.mp hown).right .sip
    have ⟨v, hv⟩ := Option.isSome_iff_exists.mp (hr.present nofun nofun)
    have ⟨n, hn, hpos⟩ := hr.holds v hv
    exact ⟨n, he ▸ hn ▸ hv, hpos⟩

theorem failures_eq_nil_of_silent (hy : root.blocks.find? (·.front?.isSome) = some y)
    (hv : y.front? = some preamble)
    (h : ((Engine.mk [preambleData schema] {}).validateTree root path s).result = .ok []) :
    Preamble.failures schema preamble = [] := by
  have hl : (preambleData schema).Lone True := preambleData_lone schema
  rw [Engine.result_of_single hl (preambleData_harmless schema), messages_eq_nil_iff,
    List.map_eq_nil_iff, preambleData_found schema default] at h
  rw [Node.front?] at hv
  simpa [preambleFindings, hy, complaints, hv] using h

-- The two rules find nothing together only under the name that goes with the number.
theorem found_eq_nil_iff (top : root.kind.name = "root")
    (hy : root.blocks.find? (·.front?.isSome) = some y) (hv : y.front? = some preamble)
    (hnumber : preambleNumber? preamble = some n) (hn : 0 < n) (hlt : n < 2 ^ 64) (path : String) :
    filename.found (Engine.contextOf root (some path)) (Visit.mk 0 root).walk = [] ∧
      preambleFilename.found (Engine.contextOf root (some path)) (Visit.mk 0 root).walk = [] ↔
        Path.fileName? path = some (proposalName n) := by
  rw [filename_found_eq_nil_iff top path, preambleFilename_found_eq_nil_iff hy hv hnumber path]
  constructor
  case mp =>
    rintro ⟨⟨m, hm, hfile⟩, hsame⟩
    obtain ⟨_, _, hsuffix⟩ := suffix_of_proposalNumber? (hsame _ hfile)
    rw [hfile, (proposalName_isSuffix_iff hm).mp hsuffix]
  case mpr =>
    intro hfile
    refine ⟨⟨n, hn, hfile⟩, fun file hf => ?_⟩
    cases hfile.symm.trans hf
    exact proposalNumber?_of_suffix hn hlt List.suffix_rfl

theorem fits_of_front? (h : y.front? = some preamble) : preamble.Fits := by
  simp only [Node.front?, frontValue?, Annotation.ofText] at h
  split at h
  case isTrue =>
    cases h
    exact .null
  case isFalse =>
    split at h <;> cases h
    exact Yaml.parse_fits ‹_›

end Found
end Rules

open Rules

namespace Engine

-- If the preamble is in order, the two rules on the name of the file are silent together exactly if
-- the name is the one that goes with the number in the preamble. No number that a preamble can have
-- is too large to be compared.
theorem validateTree_numbered (schema : Preamble.Schema) (root : Node) (path : String) (y : Node)
    (s : Scheduler) (top : root.kind.name = "root")
    (hy : root.blocks.find? (·.front?.isSome) = some y)
    (hd : ((Engine.mk [preambleData schema] {}).validateTree root (some path) s).result = .ok []) :
    ∃ n : Nat, 0 < n ∧ n < 2 ^ 64 ∧
      (y.front?.bind fun preamble => preamble.untagged.field? "sip") = some (.int n) ∧
      (∀ s, ((Engine.mk [filename, preambleFilename] {}).validateTree root (some path) s).result =
        .ok [] ↔ Path.fileName? path = some ("sip-" ++ toString n ++ ".md")) ∧
      (∀ s, ((Engine.mk [preambleFilename] {}).validateTree root (some path) s).result = .ok [] ↔
        ∀ file, Path.fileName? path = some file →
          ("sip-" ++ toString n ++ ".md").toList <:+ file.toList) ∧
      ∀ (world : World) (settings : RuleSettings) (names : List RuleName) (config : Config)
        (e : Engine) (s : Scheduler) (ms : List Message),
        build (names.map (RuleName.rule world settings)) config = .ok e →
        .filename ∈ names → config.isEnabled "filename" →
        .preambleFilename ∈ names → config.isEnabled "preamble-filename" →
        (e.validateTree root (some path) s).result = .ok ms →
        ((∀ m ∈ ms, m.ruleId ≠ "filename" ∧ m.ruleId ≠ "preamble-filename") ↔
          Path.fileName? path = some ("sip-" ++ toString n ++ ".md")) := by
  have hreadable : y.front?.isSome := by simpa using List.find?_some hy
  have ⟨preamble, hv⟩ := Option.isSome_iff_exists.mp hreadable
  have ⟨i, hsip, hpos⟩ := exists_sip_of_failures (failures_eq_nil_of_silent hy hv hd)
  have ⟨n, hi⟩ := Int.eq_ofNat_of_zero_le (Int.le_trans (by decide) hpos)
  subst hi
  have hlt : n < 2 ^ 64 := by
    have hfits := (fits_of_front? hv).untagged.field? hsip
    cases hfits
    omega
  have hnumber : preambleNumber? preamble = some n := by
    simp [preambleNumber?, hsip, Yaml.Value.untagged]
  have hn : 0 < n := by omega
  have hsame := preambleFilename_found_eq_nil_iff hy hv hnumber path
  have hboth := found_eq_nil_iff top hy hv hnumber hn hlt path
  refine ⟨n, hn, hlt, by rw [hv]; exact hsip, ?both, ?own, ?among⟩
  case both =>
    intro s
    have hb : build [filename, preambleFilename] {} = .ok ⟨[filename, preambleFilename], {}⟩ := rfl
    have hl : ∀ r ∈ [filename, preambleFilename], r.Lone True := by
      simp [filename_lone, preambleFilename_lone]
    have hh : ∀ r ∈ [filename, preambleFilename], r.Harmless := by
      simp [filename_harmless, preambleFilename_harmless]
    have enabled (name : String) : ({} : Config).isEnabled name := rfl
    refine (result_eq_nil_iff hb hl hh).trans (Iff.trans ?_ hboth)
    simp [enabled]
  case own =>
    intro s
    have hl : preambleFilename.Lone True := preambleFilename_lone
    rw [result_of_single hl preambleFilename_harmless, messages_eq_nil_iff, List.map_eq_nil_iff,
      hsame]
    refine forall₂_congr fun file _ => proposalNumber?_eq_some_iff.trans ?_
    exact (and_iff_right hn).trans (and_iff_right hlt)
  case among =>
    intro world settings names config e s ms hb hf hef hp hep ok
    have hl : ∀ r ∈ names.map (RuleName.rule world settings), r.Lone True :=
      fun _ => RuleName.lone_of_mem_map
    refine Iff.trans ?_ hboth
    rw [forall₂_and]
    exact and_congr (forall_message_iff hb hl (List.mem_map_of_mem hf) hef ok)
      (forall_message_iff hb hl (List.mem_map_of_mem hp) hep ok)

-- The greatest number that fits, and a name in a directory.
theorem validateTree_numbered_of_greatest :
    let schema : Preamble.Schema := { today := ⟨2024, 1, 2⟩ }
    let y : Node := .leaf .yaml none (.literal <| "sip: 18446744073709551615\ntitle: T\n" ++
      "status: Draft\nauthor: A (@a)\ncreated: 2024-01-01")
    let root : Node := .branch .root none .none [y]
    let path := "sips/sip-18446744073709551615.md"
    root.kind.name = "root" ∧ root.blocks.find? (·.front?.isSome) = some y ∧
    ((Engine.mk [preambleData schema] {}).validateTree root (some path) .rounds).result = .ok [] ∧
    ∃ n : Nat, 0 < n ∧ n < 2 ^ 64 ∧
      (y.front?.bind fun preamble => preamble.untagged.field? "sip") = some (.int n) ∧
      (∀ s, ((Engine.mk [filename, preambleFilename] {}).validateTree root (some path) s).result =
        .ok [] ↔ Path.fileName? path = some ("sip-" ++ toString n ++ ".md")) ∧
      (∀ s, ((Engine.mk [preambleFilename] {}).validateTree root (some path) s).result = .ok [] ↔
        ∀ file, Path.fileName? path = some file →
          ("sip-" ++ toString n ++ ".md").toList <:+ file.toList) ∧
      ∀ (world : World) (settings : RuleSettings) (names : List RuleName) (config : Config)
        (e : Engine) (s : Scheduler) (ms : List Message),
        build (names.map (RuleName.rule world settings)) config = .ok e →
        .filename ∈ names → config.isEnabled "filename" →
        .preambleFilename ∈ names → config.isEnabled "preamble-filename" →
        (e.validateTree root (some path) s).result = .ok ms →
        ((∀ m ∈ ms, m.ruleId ≠ "filename" ∧ m.ruleId ≠ "preamble-filename") ↔
          Path.fileName? path = some ("sip-" ++ toString n ++ ".md")) := by
  intro schema y root path
  have hreadable : y.front?.isSome := by decide +kernel
  have hblocks : root.blocks = [y] := rfl
  have hy : root.blocks.find? (·.front?.isSome) = some y := by simp [hblocks, hreadable]
  have hl : (preambleData schema).Lone True := preambleData_lone schema
  have hfound : (preambleData schema).found (contextOf root (some path)) (Visit.mk 0 root).walk = [] :=
    List.isEmpty_iff.mp (by decide +kernel)
  have hd : ((Engine.mk [preambleData schema] {}).validateTree root (some path) .rounds).result =
      .ok [] := by
    rw [result_of_single hl (preambleData_harmless schema), hfound]
    rfl
  exact ⟨rfl, hy, hd, validateTree_numbered schema root path y .rounds rfl hy hd⟩

end Engine
end ProposalLint

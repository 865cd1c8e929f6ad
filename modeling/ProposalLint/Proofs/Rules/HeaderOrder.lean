import ProposalLint.Proofs.Engine.Silence
import ProposalLint.Proofs.Preamble.Validity
import ProposalLint.Proofs.Rules.FrontMatter
import ProposalLint.Proofs.Yaml.PlainMapping

namespace ProposalLint

theorem Yaml.isWhitespace_name (hx : isNameChar x) : Text.isWhitespace x = false := by
  have := toNat_of_isNameChar hx
  simp only [Text.isWhitespace, Bool.or_eq_false_iff, Bool.and_eq_false_iff,
    decide_eq_false_iff_not, beq_eq_false_iff_ne]
  omega

theorem Text.isEmpty_trim (hx : isWhitespace x = false) (cs : List Char) :
    (trim (String.ofList (x :: cs))).isEmpty = false := by
  have hne : trimEndList (x :: cs) ≠ [] := by
    rw [trimEndList, ne_eq, List.reverse_eq_nil_iff, List.dropWhile_eq_nil_iff]
    intro hall
    have := hall x (by simp)
    simp [hx] at this
  simp [trim, trimStartList, hx, hne]

def Yaml.Value.entries? : Yaml.Value → Option (List (Yaml.Value × Yaml.Value))
  | map entries => some entries
  | _ => none

theorem Yaml.Value.entries?_eq_some_iff {v : Yaml.Value} :
    v.entries? = some entries ↔ v = .map entries := by
  cases v <;> simp [entries?]

namespace Preamble

def InOrder (hs : List Header) : Prop :=
  hs.Pairwise (·.rank ≤ ·.rank)

instance (hs : List Header) : Decidable (InOrder hs) :=
  inferInstanceAs (Decidable (hs.Pairwise _))

-- The known headers among the keys of a mapping.
def headersIn (entries : List (Yaml.Value × Yaml.Value)) : List Header :=
  entries.filterMap fun e => e.1.string?.bind Header.ofName?

-- A plain scalar that names a header is a text.
theorem Header.value?_name (h : Header) :
    (Yaml.Plain.value? h.name).bind (·.string?) = some h.name := by
  cases h <;> decide +kernel

theorem string?_of_value? (hv : Yaml.Plain.value? text = some key) (hs : key.string? = some s) :
    s = text := by
  have ht : key = .string s := by
    cases key <;> simp_all [Yaml.Value.string?]
  subst ht
  unfold Yaml.Plain.value? at hv
  grind

theorem ofName?_of_value? (hv : Yaml.Plain.value? text = some key) :
    key.string?.bind Header.ofName? = Header.ofName? text := by
  cases hs : key.string?
  case some s => rw [string?_of_value? hv hs, Option.bind_some]
  case none =>
    rw [Option.bind_none, eq_comm, Option.eq_none_iff_forall_ne_some]
    intro h hn
    have hname := h.value?_name
    rw [← Header.ofName?_eq_some_iff.mp hn, hv, Option.bind_some, hs] at hname
    cases hname

end Preamble

namespace Rules

open Preamble

-- Only the header in front counts for each header, but ranks that never fall from one header to the
-- next are in order.
theorem misplaced?_eq_none_iff :
    misplaced? hs last = none ↔ (∀ h ∈ hs, last ≤ h.rank) ∧ InOrder hs := by
  induction hs generalizing last
  case nil => simp [misplaced?, InOrder]
  case cons h hs ih =>
    have : InOrder (h :: hs) ↔ (∀ h' ∈ hs, h.rank ≤ h'.rank) ∧ InOrder hs := List.pairwise_cons
    rw [misplaced?, this, List.forall_mem_cons]
    split
    case isTrue hlt => simp [Nat.not_le.mpr hlt]
    case isFalse hle =>
      rw [ih]
      have := Nat.not_lt.mp hle
      grind

-- The characters of which the names of headers are made.
def isHeaderChar (c : Char) : Bool :=
  ('a' ≤ c && c ≤ 'z') || c == '-'

theorem isHeaderChar_name (h : Header) : h.name.toList.all isHeaderChar := by
  cases h <;> decide

theorem headerName?_of_all (hx : x ≠ '-') (hall : (x :: name).all isHeaderChar)
    (value : List Char) :
    headerName? (x :: name ++ ':' :: value) = some (String.ofList (x :: name)) := by
  have hp := List.all_eq_true.mp hall
  have ht : (x :: name ++ ':' :: value).takeWhile isHeaderChar = x :: name := by
    rw [List.takeWhile_append_of_pos hp]
    simp [isHeaderChar]
  have hd : (x :: name ++ ':' :: value).dropWhile isHeaderChar = ':' :: value := by
    rw [List.dropWhile_append_of_pos hp]
    simp [isHeaderChar]
  unfold headerName?
  unfold isHeaderChar at ht hd
  simp only [ht, hd]
  simp [hx]

-- Another character of a name comes before the colon.
theorem headerName?_of_not_all (hn : name.all Yaml.isNameChar) (hall : ¬name.all isHeaderChar)
    (value : List Char) : headerName? (name ++ ':' :: value) = none := by
  cases hd : name.dropWhile isHeaderChar
  case nil =>
    rw [List.dropWhile_eq_nil_iff] at hd
    exact absurd (List.all_eq_true.mpr hd) hall
  case cons y cs =>
    have hmem : y ∈ name := (List.dropWhile_suffix isHeaderChar).mem (by simp [hd])
    have hy : y ≠ ':' := Yaml.ne_of_isNameChar (List.all_eq_true.mp hn y hmem) ':' rfl
    have hd : (name ++ ':' :: value).dropWhile isHeaderChar = y :: (cs ++ ':' :: value) := by
      simp [List.dropWhile_append, hd]
    unfold headerName?
    unfold isHeaderChar at hd
    simp only [hd]
    split
    case h_1 he => simp_all
    case h_2 => rfl

-- The line pattern finds the name of a plain line, unless the name is that of no header.
theorem headerName?_text (line : Yaml.PlainLine) :
    (headerName? line.text).bind Header.ofName? = Header.ofName? (String.ofList line.name) := by
  have ⟨x, name, hname, hn, hx, _⟩ := line.exists_name
  rw [Yaml.PlainLine.text, hname]
  by_cases hall : (x :: name).all isHeaderChar
  case pos => rw [headerName?_of_all hx hall, Option.bind_some]
  case neg =>
    rw [headerName?_of_not_all hn hall, Option.bind_none, eq_comm,
      Option.eq_none_iff_forall_ne_some]
    intro h he
    apply hall
    rw [← String.toList_ofList (l := x :: name), Header.ofName?_eq_some_iff.mp he]
    exact isHeaderChar_name h

theorem headersOf_textOf (line : Yaml.PlainLine) (lines : List Yaml.PlainLine) :
    headersOf (String.ofList (Yaml.PlainLine.textOf (line :: lines))) =
      (line :: lines).filterMap fun l => Header.ofName? (String.ofList l.name) := by
  rw [headersOf, String.toList_ofList, Yaml.PlainLine.splitOn_textOf, List.filterMap_map]
  exact List.filterMap_congr fun l _ => headerName?_text l

theorem headersIn_of_holds (h : List.Forall₂ Yaml.PlainLine.Holds lines entries) :
    headersIn entries = lines.filterMap fun l => Header.ofName? (String.ofList l.name) := by
  induction h
  case nil => rfl
  case cons line e lines entries hl _ ih =>
    rw [headersIn, List.filterMap_cons, List.filterMap_cons, ofName?_of_value? hl.1, ← ih]
    rfl

-- A text of plain lines is not blank.
theorem frontValue?_textOf (line : Yaml.PlainLine) (lines : List Yaml.PlainLine) :
    frontValue? (String.ofList (Yaml.PlainLine.textOf (line :: lines))) =
      Yaml.parse (String.ofList (Yaml.PlainLine.textOf (line :: lines))) := by
  have ⟨x, name, hname, hn, _⟩ := line.exists_name
  have hx := Yaml.isWhitespace_name (List.all_eq_true.mp hn x List.mem_cons_self)
  have htrim : ¬(Text.trim (String.ofList (Yaml.PlainLine.textOf (line :: lines)))).isEmpty := by
    rw [Yaml.PlainLine.textOf_cons, Yaml.PlainLine.text, hname, List.cons_append,
      List.cons_append, Text.isEmpty_trim hx]
    exact Bool.false_ne_true
  rw [frontValue?, Annotation.ofText, if_neg htrim]
  cases Yaml.parse (String.ofList (Yaml.PlainLine.textOf (line :: lines))) <;> rfl

-- A text of plain lines has the headers of the mapping that it stands for.
theorem headersOf_of_frontValue? {line : Yaml.PlainLine}
    (hf : frontValue? (String.ofList (Yaml.PlainLine.textOf (line :: lines))) = some v) :
    ∃ entries, v = .map entries ∧
      headersIn entries = headersOf (String.ofList (Yaml.PlainLine.textOf (line :: lines))) := by
  rw [frontValue?_textOf] at hf
  have ⟨entries, hv, hholds, _⟩ := (Yaml.parse_lines_iff line lines v).mp hf
  exact ⟨entries, hv, (headersIn_of_holds hholds).trans (headersOf_textOf line lines).symm⟩

end Rules

open Rules Preamble

namespace Engine

variable {names : List RuleName} {config : Config} {e : Engine} {root : Node}

-- The rule on the order of headers looks only at the names that start the lines of the preamble.
theorem preambleOrder_found_of_first (hy : root.blocks.find? (·.front?.isSome) = some y)
    (path : Option String) : preambleOrder.found (contextOf root path) (Visit.mk 0 root).walk =
      (misplaced? (headersOf y.frontText)).toList.map fun h =>
        ⟨y, "Front-matter property \"" ++ h.name ++ "\" is not in proper order"⟩ := by
  -- No date matters to this rule.
  have hfound : preambleOrder.found (contextOf root path) (Visit.mk 0 root).walk = _ :=
    preambleOrder_found default default
  have hreadable : y.front?.isSome := by simpa using List.find?_some hy
  have ⟨v, hv⟩ := Option.isSome_iff_exists.mp hreadable
  rw [Node.front?] at hv
  simp only [preambleFindings, hy, complaints, hv, Option.toList_some, List.flatMap_singleton,
    List.map_map] at hfound
  exact hfound

theorem exists_preambleOrder_iff {world : World} {settings : RuleSettings}
    (hb : build (names.map (RuleName.rule world settings)) config = .ok e)
    (hn : .preambleOrder ∈ names) (he : config.isEnabled RuleName.preambleOrder.id)
    (ok : (e.validateTree root path s).result = .ok ms)
    (hy : root.blocks.find? (·.front?.isSome) = some y) :
    (∃ m ∈ ms, m.ruleId = RuleName.preambleOrder.id) ↔ ¬InOrder (headersOf y.frontText) := by
  have hmessage := exists_message_iff hb (fun _ => RuleName.lone_of_mem_map)
    (List.mem_map_of_mem hn) he ok
  have horder : InOrder (headersOf y.frontText) ↔ misplaced? (headersOf y.frontText) = none := by
    simp [misplaced?_eq_none_iff]
  refine hmessage.trans (not_congr ?_)
  rw [horder, RuleName.rule, preambleOrder_found_of_first hy]
  cases misplaced? (headersOf y.frontText) <;> simp

-- The rule on the order of headers reads the names at the line starts of the preamble. If all lines
-- are plain, these are the headers of the mapping, in the order that they have there.
theorem validateTree_headerOrder (world : World) (settings : RuleSettings)
    (hb : build (names.map (RuleName.rule world settings)) config = .ok e)
    (hn : .preambleOrder ∈ names) (he : config.isEnabled RuleName.preambleOrder.id)
    (path : Option String) (s : Scheduler) (ok : (e.validateTree root path s).result = .ok ms)
    (hy : root.blocks.find? (·.front?.isSome) = some y) :
    let reported := ∃ m ∈ ms, m.ruleId = RuleName.preambleOrder.id
    (reported ↔ ¬InOrder (headersOf y.frontText)) ∧
      ∀ line lines, y.frontText = String.ofList (Yaml.PlainLine.textOf (line :: lines)) →
        ∃ entries, y.front? = some (.map entries) ∧ (reported ↔ ¬InOrder (headersIn entries)) := by
  intro reported
  have hreported := exists_preambleOrder_iff hb hn he ok hy
  refine ⟨hreported, fun line lines hlines => ?_⟩
  have hreadable : y.front?.isSome := by simpa using List.find?_some hy
  obtain ⟨v, hv⟩ := Option.isSome_iff_exists.mp hreadable
  rw [Node.front?, hlines] at hv
  obtain ⟨entries, hmap, hheaders⟩ := headersOf_of_frontValue? hv
  refine ⟨entries, ?_, ?_⟩
  · rw [Node.front?, hlines, hv, hmap]
  · rw [hheaders, ← hlines]
    exact hreported

-- Two headers in the wrong order.
theorem validateTree_headerOrder_of_pair :
    let world : World := { today := ⟨2024, 1, 2⟩ }
    let title : Yaml.PlainLine := ⟨['t', 'i', 't', 'l', 'e'], [' ', 'T'], by decide, by decide⟩
    let sip : Yaml.PlainLine := ⟨['s', 'i', 'p'], [' ', '1'], by decide, by decide⟩
    let y : Node := .leaf .yaml (some ⟨⟨1, 1, none⟩, ⟨4, 4, none⟩⟩) (.literal "title: T\nsip: 1")
    let root : Node := .branch .root (some ⟨⟨1, 1, none⟩, ⟨5, 1, none⟩⟩) .none [y]
    let rules := [RuleName.preambleOrder].map (RuleName.rule world {})
    let said : Message :=
      ⟨"preamble-order", "Front-matter property \"sip\" is not in proper order", 4, 4⟩
    let reported := ∃ m ∈ [said], m.ruleId = RuleName.preambleOrder.id
    (Engine.validateTree ⟨rules, {}⟩ root none .rounds).result = .ok [said] ∧
      root.blocks.find? (·.front?.isSome) = some y ∧
      y.frontText = String.ofList (Yaml.PlainLine.textOf [title, sip]) ∧
      (reported ↔ ¬InOrder (headersOf y.frontText)) ∧
      ∀ line lines, y.frontText = String.ofList (Yaml.PlainLine.textOf (line :: lines)) →
        ∃ entries, y.front? = some (.map entries) ∧ (reported ↔ ¬InOrder (headersIn entries)) := by
  intro world title sip y root rules said reported
  have hb : build rules {} = .ok ⟨rules, {}⟩ := rfl
  have hl : ∀ r ∈ (Engine.mk rules {}).active, r.Lone True :=
    fun _ hr => RuleName.lone_of_mem_map (List.mem_of_mem_filter hr)
  have ok : (Engine.validateTree ⟨rules, {}⟩ root none .rounds).result = .ok [said] :=
    (validateTree_eq_ok_iff hb hl).mpr
      ⟨by decide +kernel, Contribution.clean_iff.mpr ⟨by decide +kernel, by decide +kernel⟩,
        by decide +kernel⟩
  have hreadable : y.front?.isSome := by decide +kernel
  have hblocks : root.blocks = [y] := rfl
  have hy : root.blocks.find? (·.front?.isSome) = some y := by simp [hblocks, hreadable]
  exact ⟨ok, hy, by decide, validateTree_headerOrder world {} hb (by decide) rfl none .rounds ok hy⟩

-- A quoted header does not start its line with its name.
theorem validateSource_silent_of_quoted :
    let world : World := { today := ⟨2024, 1, 2⟩ }
    let source := "---\n\"title\": T\nsip: 1\n---\n"
    let preamble? := ((Markdown.parse source).blocks.find? (·.front?.isSome)).bind (·.front?)
    let rules := [RuleName.preambleOrder].map (RuleName.rule world {})
    (∃ entries, preamble? = some (.map entries) ∧ ¬InOrder (headersIn entries)) ∧
      (Engine.validateSource ⟨rules, {}⟩ source none .rounds).result = .ok [] := by
  intro world source preamble? rules
  have hb : build rules {} = .ok ⟨rules, {}⟩ := rfl
  have hl : ∀ r ∈ (Engine.mk rules {}).active, r.Lone True :=
    fun _ hr => RuleName.lone_of_mem_map (List.mem_of_mem_filter hr)
  have hkeys : (preamble?.bind (·.entries?)).any fun entries => ¬InOrder (headersIn entries) := by
    decide +kernel
  refine ⟨?_, ?_⟩
  · obtain ⟨entries, he, ho⟩ := (Option.any_eq_true ..).mp hkeys
    obtain ⟨v, hv, hm⟩ := Option.bind_eq_some_iff.mp he
    exact ⟨entries, hv.trans (congrArg some (Yaml.Value.entries?_eq_some_iff.mp hm)),
      of_decide_eq_true ho⟩
  · exact (validateTree_eq_ok_iff hb hl).mpr
      ⟨by decide +kernel, Contribution.clean_iff.mpr ⟨by decide +kernel, by decide +kernel⟩,
        by decide +kernel⟩

end Engine
end ProposalLint

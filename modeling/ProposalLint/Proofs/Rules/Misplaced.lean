import Mathlib.Data.List.Sort
import Mathlib.Order.Bounds.Defs
import ProposalLint.Proofs.Rules.HeaderOrder

namespace ProposalLint

-- A character ends the part of a list that something without it can start.
theorem isPrefix_append_cons_iff {α : Type _} {p l r : List α} {x : α} (h : x ∉ p) :
    p <+: l ++ x :: r ↔ p <+: l := by
  constructor
  case mpr => exact fun hp => hp.trans (List.prefix_append ..)
  case mp =>
    intro hp
    cases List.prefix_or_prefix_of_prefix hp (List.prefix_append l (x :: r))
    case inl hl => exact hl
    case inr hl =>
      have ⟨q, hq⟩ := hl
      subst hq
      rw [List.prefix_append_right_inj, List.prefix_cons_iff] at hp
      cases hp
      case inl hq => simp [hq]
      case inr hq =>
        have ⟨_, hq, _⟩ := hq
        simp [hq] at h

namespace Rules

open Preamble

def isSmall (c : Char) : Bool :=
  'a' ≤ c && c ≤ 'z'

-- The names that can stand for a header: a small letter, then small letters and hyphens.
structure IsName (name : List Char) : Prop where
  head : ∃ x ∈ name.head?, isSmall x
  all  : ∀ c ∈ name, isSmall c ∨ c = '-'

-- The pattern finds a name at a place of a text: at a line start, with a colon behind it.
structure NameAt (text : List Char) (i : Nat) (name : List Char) : Prop where
  start : i = 0 ∨ text[i - 1]? = some '\n'
  shape : IsName name
  colon : name ++ [':'] <+: text.drop i

-- The known headers that the pattern finds in a text, in the order of their places.
def Finds (text : List Char) (hs : List Header) : Prop :=
  ∃ finds : List (Nat × Header), finds.Pairwise (·.1 < ·.1) ∧
    (∀ i h, (i, h) ∈ finds ↔ NameAt text i h.name.toList) ∧ hs = finds.map (·.2)

theorem Finds.eq (h : Finds text hs) (h' : Finds text hs') : hs = hs' := by
  have ⟨finds, hp, hm, he⟩ := h
  have ⟨finds', hp', hm', he'⟩ := h'
  have hsame : finds = finds' := by
    refine hp.eq_of_mem_iff hp' fun (i, h) => ?_
    rw [hm, hm']
  rw [he, he', hsame]

namespace IsName

theorem isHeaderChar (h : IsName name) : name.all Rules.isHeaderChar := by
  rw [List.all_eq_true]
  intro c hc
  cases h.all c hc
  case inl hs => simp only [Rules.isHeaderChar, isSmall] at hs ⊢; simp [hs]
  case inr he => simp [Rules.isHeaderChar, he]

theorem not_mem (h : IsName name) (hx : Rules.isHeaderChar x = false) : x ∉ name := by
  intro hm
  have := List.all_eq_true.mp h.isHeaderChar x hm
  simp [hx] at this

end IsName

theorem headerName?_eq_some_iff :
    headerName? line = some (String.ofList name) ↔ IsName name ∧ name ++ [':'] <+: line := by
  constructor
  case mpr =>
    intro ⟨hn, value, hl⟩
    have ⟨x, hx, hs⟩ := hn.head
    have ⟨rest, he⟩ := List.head?_eq_some_iff.mp hx
    subst he
    have hne : x ≠ '-' := by
      intro he
      simp [he, isSmall] at hs
    rw [← hl, List.append_assoc, List.singleton_append]
    exact headerName?_of_all hne hn.isHeaderChar value
  case mp =>
    intro h
    unfold headerName? at h
    dsimp only at h
    split at h
    case h_2 => cases h
    case h_1 c cs value ht hd =>
      split at h
      case isTrue => cases h
      case isFalse hc =>
        have hname : c :: cs = name := String.ofList_injective (Option.some.inj h)
        have hall : ∀ x ∈ c :: cs, isSmall x ∨ x = '-' := by
          intro x hx
          rw [← ht] at hx
          simpa [isSmall] using List.mem_takeWhile_imp hx
        subst hname
        refine ⟨⟨⟨c, rfl, ?_⟩, hall⟩, value, ?_⟩
        · exact (hall c List.mem_cons_self).resolve_right (by simpa using hc)
        · rw [List.append_assoc, List.singleton_append, ← ht, ← hd, List.takeWhile_append_dropWhile]

theorem IsName.line_feed_not_mem (h : IsName name) : '\n' ∉ name ++ [':'] := by
  simpa using h.not_mem (x := '\n') rfl

-- On the first line there is no other place than its start.
theorem nameAt_line_iff (hl : '\n' ∉ line) :
    NameAt line i name ↔ i = 0 ∧ headerName? line = some (String.ofList name) := by
  rw [headerName?_eq_some_iff]
  constructor
  case mp =>
    intro h
    have hi : i = 0 := by
      cases h.start
      case inl hi => exact hi
      case inr hf => exact absurd (List.mem_of_getElem? hf) hl
    subst hi
    exact ⟨rfl, h.shape, h.colon⟩
  case mpr =>
    intro ⟨hi, hn, hc⟩
    subst hi
    exact ⟨.inl rfl, hn, hc⟩

-- A name stands on the first line or on one of the others.
theorem nameAt_append_iff (hl : '\n' ∉ line) : NameAt (line ++ '\n' :: rest) i name ↔
    NameAt line i name ∨ ∃ j, i = line.length + 1 + j ∧ NameAt rest j name := by
  have hdrop (j : Nat) : (line ++ '\n' :: rest).drop (line.length + 1 + j) = rest.drop j := by
    rw [Nat.add_assoc, Nat.add_comm 1 j, List.drop_length_add_append, List.drop_succ_cons]
  have hstart (j : Nat) : (line ++ '\n' :: rest)[line.length + 1 + j - 1]? = some '\n' ↔
      j = 0 ∨ rest[j - 1]? = some '\n' := by
    rw [Nat.add_right_comm, Nat.add_sub_cancel, List.getElem?_append_right (Nat.le_add_right ..),
      Nat.add_sub_cancel_left]
    cases j <;> simp
  constructor
  case mp =>
    intro ⟨hs, hn, hc⟩
    by_cases hi : i ≤ line.length
    case pos =>
      have hi : i = 0 := by
        by_contra hne
        have hf := hs.resolve_left hne
        rw [List.getElem?_append_left (by omega)] at hf
        exact hl (List.mem_of_getElem? hf)
      subst hi
      exact .inl ⟨.inl rfl, hn, (isPrefix_append_cons_iff hn.line_feed_not_mem).mp hc⟩
    case neg =>
      have ⟨j, hj⟩ := Nat.exists_eq_add_of_le (Nat.succ_le_of_lt (Nat.lt_of_not_le hi))
      subst hj
      refine .inr ⟨j, rfl, (hstart j).mp (hs.resolve_left (by omega)), hn, ?_⟩
      exact hdrop j ▸ hc
  case mpr =>
    intro h
    cases h
    case inl h =>
      have ⟨hi, _⟩ := (nameAt_line_iff hl).mp h
      subst hi
      exact ⟨.inl rfl, h.shape, (isPrefix_append_cons_iff h.shape.line_feed_not_mem).mpr h.colon⟩
    case inr h =>
      have ⟨j, hi, hj⟩ := h
      subst hi
      refine ⟨.inr ((hstart j).mpr hj.start), hj.shape, ?_⟩
      rw [hdrop]
      exact hj.colon

-- The header at the start of a line.
def headerAt? (line : List Char) : Option Header :=
  (headerName? line).bind Header.ofName?

theorem headerAt?_eq_some_iff {h : Header} : headerAt? line = some h ↔
    headerName? line = some (String.ofList h.name.toList) := by
  simp only [headerAt?, Option.bind_eq_some_iff, Header.ofName?_eq_some_iff, String.ofList_toList]
  simp

-- The headers of a text are read line by line, and each line adds the place of its start.
theorem finds_lines (hls : ∀ l ∈ lines, '\n' ∉ l) (hl : '\n' ∉ last) :
    Finds (unlines lines ++ last) ((lines ++ [last]).filterMap headerAt?) := by
  induction lines
  case nil =>
    refine ⟨(headerAt? last).toList.map (0, ·), ?pairwise, ?mem, ?headers⟩
    case pairwise => cases headerAt? last <;> simp
    case mem =>
      intro i h
      simp only [unlines_nil, List.nil_append, nameAt_line_iff hl, ← headerAt?_eq_some_iff]
      cases headerAt? last <;> simp [and_comm, eq_comm]
    case headers => cases hh : headerAt? last <;> simp [hh]
  case cons line lines ih =>
    have ⟨hline, hls⟩ := List.forall_mem_cons.mp hls
    have ⟨finds, hp, hm, he⟩ := ih hls
    let shift : Nat × Header → Nat × Header := fun (i, h) => (line.length + 1 + i, h)
    refine ⟨(headerAt? line).toList.map (0, ·) ++ finds.map shift, ?pairwise, ?mem, ?headers⟩
    case pairwise =>
      refine List.pairwise_append.mpr ⟨?_, List.pairwise_map.mpr (hp.imp ?_), ?_⟩
      · cases headerAt? line <;> simp
      · intro a b hlt
        simp only [shift]
        omega
      · simp only [List.mem_map, shift]
        grind
    case mem =>
      intro i h
      rw [unlines_cons, List.append_assoc, List.cons_append, nameAt_append_iff hline,
        nameAt_line_iff hline, ← headerAt?_eq_some_iff, List.mem_append]
      refine or_congr ?_ ?_
      · cases headerAt? line <;> simp [and_comm, eq_comm]
      · simp only [← hm, List.mem_map, shift]
        grind
    case headers =>
      rw [List.cons_append, List.filterMap_cons, he, List.map_append, List.map_map]
      cases headerAt? line <;> simp [shift, Function.comp_def]

theorem finds_headersOf (text : String) : Finds text.toList (headersOf text) := by
  have ⟨lines, last, p⟩ := Place.of_before text.toList
  have h := finds_lines p.lines p.last
  rw [← p.splitOn, ← p.before] at h
  exact h

-- The headers before the first that is misplaced are in order, so that it suffices to compare each
-- header with the one in front.
theorem misplaced?_eq_some_iff : misplaced? hs last = some h ↔
    ∃ before after, hs = before ++ h :: after ∧ InOrder before ∧ (∀ b ∈ before, last ≤ b.rank) ∧
      (h.rank < last ∨ ∃ b ∈ before, h.rank < b.rank) := by
  induction hs generalizing last
  case nil => simp [misplaced?]
  case cons h' hs ih =>
    rw [misplaced?]
    split
    case isTrue hlt =>
      constructor
      case mp =>
        intro he
        cases he
        exact ⟨[], hs, rfl, .nil, by simp, .inl hlt⟩
      case mpr =>
        rintro ⟨before, after, he, ho, hb, hlow⟩
        cases before
        case nil =>
          cases he
          rfl
        case cons b before =>
          have hb' := hb b List.mem_cons_self
          cases he
          omega
    case isFalse hle =>
      rw [ih]
      constructor
      case mp =>
        rintro ⟨before, after, he, ho, hb, hlow⟩
        refine ⟨h' :: before, after, by simp [he], List.pairwise_cons.mpr ⟨hb, ho⟩, ?_, ?_⟩
        · grind
        · grind
      case mpr =>
        rintro ⟨before, after, he, ho, hb, hlow⟩
        cases before
        case nil =>
          cases he
          simp_all
        case cons b before =>
          cases he
          obtain ⟨hb', ho⟩ := List.pairwise_cons.mp ho
          refine ⟨before, after, rfl, ho, hb', ?_⟩
          grind

-- A header stands behind one of a higher rank.
def Misplaced (hs : List Header) (j : Nat) : Prop :=
  ∃ i < j, ∃ a b, hs[i]? = some a ∧ hs[j]? = some b ∧ b.rank < a.rank

theorem not_misplaced_of_inOrder (h : InOrder hs) (j : Nat) : ¬Misplaced hs j := by
  intro ⟨i, hij, a, b, ha, hb, hlt⟩
  have ⟨hi, ha⟩ := List.getElem?_eq_some_iff.mp ha
  have ⟨hj, hb⟩ := List.getElem?_eq_some_iff.mp hb
  have := List.pairwise_iff_getElem.mp h i j hi hj hij
  rw [ha, hb] at this
  omega

theorem isLeast_of_misplaced? (h : misplaced? hs = some x) :
    ∃ j, IsLeast {j | Misplaced hs j} j ∧ hs[j]? = some x := by
  have ⟨before, after, he, ho, _, hlow⟩ := misplaced?_eq_some_iff.mp h
  have ⟨b, hb, hlt⟩ := hlow.resolve_left (Nat.not_lt_zero _)
  have hx : hs[before.length]? = some x := by simp [he]
  have hfront {i : Nat} (hi : i < before.length) : hs[i]? = before[i]? := by
    rw [he, List.getElem?_append_left hi]
  have ⟨i, hi⟩ := List.getElem?_of_mem hb
  have ⟨hlen, _⟩ := List.getElem?_eq_some_iff.mp hi
  refine ⟨before.length, ⟨⟨i, hlen, b, x, (hfront hlen).trans hi, hx, hlt⟩, ?_⟩, hx⟩
  intro k ⟨i, hik, a, c, ha, hc, hlt⟩
  by_contra hk
  have hk := Nat.lt_of_not_le hk
  rw [hfront (by omega)] at ha
  rw [hfront hk] at hc
  exact not_misplaced_of_inOrder ho k ⟨i, hik, a, c, ha, hc, hlt⟩

end Rules

open Rules Preamble

namespace Engine

-- The rule on the order of headers compares each header with the one in front, and still finds the
-- first of all that stand behind one of a higher rank. That is the only thing that it says, by
-- itself and among other rules.
theorem validateTree_misplaced (root : Node) (path : Option String) (s : Scheduler) (y : Node)
    (hy : root.blocks.find? (·.front?.isSome) = some y) :
    let o := (Engine.mk [preambleOrder] {}).validateTree root path s
    let found := o.found "preamble-order"
    ∃ hs, (∀ hs', Finds y.frontText.toList hs' ↔ hs' = hs) ∧
      (found = [] ↔ InOrder hs) ∧ (o.result = .ok [] ↔ InOrder hs) ∧
      (¬InOrder hs → ∃ j h, IsLeast {j | Misplaced hs j} j ∧ hs[j]? = some h ∧
        let text := "Front-matter property \"" ++ h.name ++ "\" is not in proper order"
        found = [⟨y, text⟩] ∧ ∀ p, y.position = some p →
          o.result = .ok [⟨"preamble-order", text, p.stop.line, p.stop.column⟩]) ∧
      ∀ (world : World) (settings : RuleSettings) (names : List RuleName) (config : Config) (e : Engine)
        (s' : Scheduler) (ms : List Message),
        build (names.map (RuleName.rule world settings)) config = .ok e →
        .preambleOrder ∈ names → config.isEnabled "preamble-order" →
        (e.validateTree root path s').result = .ok ms →
        (ms.filter (·.ruleId = "preamble-order")).map some =
          found.map fun f => (f.report "preamble-order").message? := by
  intro o found
  let hs := headersOf y.frontText
  have hb : build [preambleOrder] {} = .ok ⟨[preambleOrder], {}⟩ := rfl
  have hl : preambleOrder.Lone True := preambleOrder_lone
  have hh := preambleOrder_harmless
  have hsaid := preambleOrder_found_of_first hy path
  have hfound : found = preambleOrder.found (contextOf root path) (Visit.mk 0 root).walk :=
    found_of_harmless hb (by simpa using hl) (by simpa using hh) (List.mem_singleton_self _) rfl
  have hresult : o.result = messages (found.map (·.report "preamble-order")) := by
    rw [hfound]
    exact result_of_single hl hh
  have hnone : found = [] ↔ InOrder hs := by
    have horder : InOrder hs ↔ misplaced? hs = none := by simp [misplaced?_eq_none_iff]
    rw [hfound, hsaid, horder]
    cases misplaced? hs <;> simp
  refine ⟨hs, ?headers, hnone, ?silent, ?first, ?among⟩
  case headers =>
    intro hs'
    exact ⟨fun h => h.eq (finds_headersOf _), fun h => h ▸ finds_headersOf _⟩
  case silent => rw [hresult, messages_eq_nil_iff, List.map_eq_nil_iff, hnone]
  case first =>
    intro hn
    cases hm : misplaced? hs
    case none => exact absurd (hnone.mp (by rw [hfound, hsaid, hm]; rfl)) hn
    case some h =>
      obtain ⟨j, hj, hx⟩ := isLeast_of_misplaced? hm
      rw [hm, ← hfound] at hsaid
      refine ⟨j, h, hj, hx, hsaid, fun p hp => ?_⟩
      rw [hresult, hsaid, messages_eq]
      simp [Finding.report, Report.message?, hp]
  case among =>
    intro world settings names config e s' ms hb hn he ok
    obtain ⟨hown, hms⟩ := validateTree_found hb (fun _ => RuleName.lone_of_mem_map)
      (List.mem_map_of_mem hn) he ok
    rw [hfound]
    exact hms.trans (congrArg _ hown)

-- A header in a comment, one that is not known, and two that are out of order.
theorem validateTree_misplaced_of_comment :
    let y : Node := .leaf .yaml (some ⟨⟨1, 1, none⟩, ⟨7, 4, none⟩⟩)
      (.literal "title: T\n# sip: 1\nkind: a\nstatus: S\nsip: 1\ncreated: 2")
    let root : Node := .branch .root none .none [y]
    root.blocks.find? (·.front?.isSome) = some y ∧
    headersOf y.frontText = [.title, .status, .sip, .created] ∧
    let o := (Engine.mk [preambleOrder] {}).validateTree root none .rounds
    let found := o.found "preamble-order"
    ∃ hs, (∀ hs', Finds y.frontText.toList hs' ↔ hs' = hs) ∧
      (found = [] ↔ InOrder hs) ∧ (o.result = .ok [] ↔ InOrder hs) ∧
      (¬InOrder hs → ∃ j h, IsLeast {j | Misplaced hs j} j ∧ hs[j]? = some h ∧
        let text := "Front-matter property \"" ++ h.name ++ "\" is not in proper order"
        found = [⟨y, text⟩] ∧ ∀ p, y.position = some p →
          o.result = .ok [⟨"preamble-order", text, p.stop.line, p.stop.column⟩]) ∧
      ∀ (world : World) (settings : RuleSettings) (names : List RuleName) (config : Config) (e : Engine)
        (s' : Scheduler) (ms : List Message),
        build (names.map (RuleName.rule world settings)) config = .ok e →
        .preambleOrder ∈ names → config.isEnabled "preamble-order" →
        (e.validateTree root none s').result = .ok ms →
        (ms.filter (·.ruleId = "preamble-order")).map some =
          found.map fun f => (f.report "preamble-order").message? := by
  intro y root
  have hreadable : y.front?.isSome := by decide +kernel
  have hblocks : root.blocks = [y] := rfl
  have hy : root.blocks.find? (·.front?.isSome) = some y := by simp [hblocks, hreadable]
  exact ⟨hy, by decide +kernel, validateTree_misplaced root none .rounds y hy⟩

end Engine
end ProposalLint

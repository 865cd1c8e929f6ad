import ProposalLint.Proofs.Yaml.PlainLine
import ProposalLint.Yaml.Document

namespace ProposalLint.Yaml

namespace PlainLine

def events (line : PlainLine) : List Event :=
  [.scalar none (String.ofList line.name) true, .scalar none (String.ofList line.content) true]

-- The pair of values that a line stands for.
def Holds (line : PlainLine) (entry : Value × Value) : Prop :=
  Plain.value? (String.ofList line.name) = some entry.1 ∧
    Plain.value? (String.ofList line.content) = some entry.2

theorem length_le_flatMap (f : PlainLine → List α) (h : ∀ line, 0 < (f line).length)
    (lines : List PlainLine) : lines.length ≤ (lines.flatMap f).length := by
  induction lines
  case nil => exact Nat.le_refl 0
  case cons line lines ih =>
    have := h line
    simp only [List.flatMap_cons, List.length_append, List.length_cons]
    omega

end PlainLine

namespace Events

variable {s : Events}

theorem blockPart_scalar (hs : s.tokens = .scalar text plain :: ts) (fuel : Nat) :
    blockPart (fuel + 2) s =
      some { s with tokens := ts, events := .scalar none text plain :: s.events } := by
  simp [blockPart, isOneOf, is, next?, hs, node, properties, resolveTag, bind, drop, emit]

theorem blockPart_empty (hs : s.isOneOf [.key, .value, .blockEnd]) (fuel : Nat) :
    blockPart (fuel + 1) s = some { s with events := .scalar none "" true :: s.events } := by
  simp [blockPart, hs, empty, emit]

theorem blockPart_value {line : PlainLine} (hs : s.tokens = line.valueTokens ++ ts)
    (hts : { s with tokens := ts }.isOneOf [.key, .value, .blockEnd]) (fuel : Nat) :
    blockPart (fuel + 2) s =
      some { s with
        tokens := ts, events := .scalar none (String.ofList line.content) true :: s.events } := by
  unfold PlainLine.valueTokens at hs
  split at hs
  case isTrue h =>
    have hcontent : line.content = [] := by rw [PlainLine.content, List.isEmpty_iff.mp h]; rfl
    have hs' : s = { s with tokens := ts } := by rw [← List.nil_append ts, ← hs]
    rw [blockPart_empty (hs' ▸ hts), hcontent, hs']
  case isFalse => exact blockPart_scalar hs fuel

theorem blockPairs_line {line : PlainLine} (hs : s.tokens = line.tokens ++ ts)
    (hts : { s with tokens := ts }.isOneOf [.key, .value, .blockEnd]) (fuel : Nat) :
    blockPairs (fuel + 3) s =
      blockPairs (fuel + 2) { s with tokens := ts, events := line.events.reverse ++ s.events } := by
  have hkey : s.drop.tokens =
      .scalar (String.ofList line.name) true :: .value :: (line.valueTokens ++ ts) := by
    simp [drop, hs, PlainLine.tokens]
  rw [blockPairs, next?, hs]
  simp only [PlainLine.tokens, List.cons_append, List.head?_cons, blockPart_scalar hkey,
    Option.bind_eq_bind, Option.bind_some]
  rw [if_pos (by simp [is, next?]), blockPart_value (by rfl) (by exact hts)]
  simp [PlainLine.events, drop]

theorem blockPairs_lines {lines : List PlainLine}
    (hs : s.tokens = lines.flatMap PlainLine.tokens ++ [.blockEnd])
    (hfuel : lines.length + 2 ≤ fuel) :
    blockPairs (fuel + 1) s =
      some { s with
        tokens := []
        events := .mappingEnd :: ((lines.flatMap PlainLine.events).reverse ++ s.events) } := by
  induction lines generalizing s fuel
  case nil =>
    have hs : s.tokens = [.blockEnd] := hs
    simp [blockPairs, next?, hs, drop, emit]
  case cons line lines ih =>
    have ⟨fuel, hf⟩ : ∃ f, fuel = f + 2 := ⟨fuel - 2, by omega⟩
    subst hf
    rw [List.flatMap_cons, List.append_assoc] at hs
    rw [blockPairs_line hs, ih rfl (by simpa using hfuel)]
    · simp
    · cases lines <;> simp [isOneOf, is, next?, PlainLine.tokens]

theorem node_blockMappingStart (hs : s.tokens = .blockMappingStart :: ts) (fuel : Nat)
    (indentless : Bool) :
    node (fuel + 1) s true indentless =
      blockPairs fuel { s with tokens := ts, events := .mappingStart none :: s.events } := by
  simp [node, next?, hs, properties, resolveTag, bind, drop, emit]

-- A mapping with one pair of scalars for each line.
theorem ofTokens?_lines (lines : List PlainLine) :
    ∃ s, ofTokens? (.blockMappingStart :: (lines.flatMap PlainLine.tokens ++ [.blockEnd])) =
        some s ∧
      s.events = .mappingStart none :: (lines.flatMap PlainLine.events ++ [.mappingEnd]) := by
  have hfuel : lines.length + 2 ≤ 4 * (lines.flatMap PlainLine.tokens).length + 10 := by
    have := PlainLine.length_le_flatMap PlainLine.tokens (by simp [PlainLine.tokens]) lines
    omega
  refine ⟨{
    tokens := []
    events := .mappingStart none :: (lines.flatMap PlainLine.events ++ [.mappingEnd])
    prefixes := [("!", "!"), ("!!", "tag:yaml.org,2002:")] }, ?_, rfl⟩
  have hlen : 4 * (Token.blockMappingStart ::
        (lines.flatMap PlainLine.tokens ++ [.blockEnd])).length + 4 =
      4 * (lines.flatMap PlainLine.tokens).length + 10 + 1 + 1 := by
    rw [List.length_cons, List.length_append, List.length_singleton]
    omega
  rw [ofTokens?, if_neg (by simp), hlen]
  simp only [opening, directives, Option.bind_eq_bind, Option.bind_some, Bool.false_and,
    Bool.false_eq_true, if_false]
  rw [node_blockMappingStart rfl, blockPairs_lines rfl hfuel]
  simp

end Events

-- The keys of two entries differ.
def Distinct (a b : Value × Value) : Prop :=
  a.1.same b.1 = false

namespace Document

variable {events : Array Event} {read : Reader} {p : Place}

theorem getElem?_position (h : events.toList.drop p.position = e :: es) :
    events[p.position]? = some e := by
  have := congrArg List.head? h
  simpa using this

theorem drop_advance (h : events.toList.drop p.position = e :: es) :
    events.toList.drop (advance p).position = es := by
  rw [advance, ← List.drop_drop, h]
  rfl

-- Plain scalars are read as what they mean.
def ReadsPlain (events : Array Event) (read : Reader) : Prop :=
  ∀ {p text es}, events.toList.drop p.position = .scalar none text true :: es →
    read p = (Plain.value? text).map fun v => (v, advance p)

theorem readsPlain_follow (events : Array Event) (targets : List (Nat × Nat)) (depth : Nat) :
    ReadsPlain events (follow events targets (content events targets depth)) := by
  intro p text es h
  have hs := getElem?_position h
  rw [follow, hs]
  unfold content
  cases hv : Plain.value? text <;> simp [hs, untaggedScalar?, ownTag?, hv]

theorem entriesWith_line {line : PlainLine} (hread : ReadsPlain events read)
    (h : events.toList.drop p.position = line.events ++ es) (fuel : Nat)
    (done : List (Value × Value)) :
    entriesWith events read (fuel + 1) p done =
      (Plain.value? (String.ofList line.name)).bind fun k =>
        if done.any fun e => e.1.same k then none
        else (Plain.value? (String.ofList line.content)).bind fun v =>
          entriesWith events read fuel (advance (advance p)) ((k, v) :: done) := by
  rw [entriesWith, getElem?_position h, hread h]
  cases Plain.value? (String.ofList line.name)
  case none => rfl
  case some k =>
    simp only [Option.map_some, Option.bind_eq_bind, Option.bind_some, hread (drop_advance h)]
    cases Plain.value? (String.ofList line.content) <;> split <;> simp_all

theorem not_any_same_iff {done : List (Value × Value)} :
    (¬ done.any fun a => a.1.same e.1) ↔ ∀ a ∈ done, Distinct a e := by
  simp only [List.any_eq_true, not_exists, not_and, Bool.not_eq_true, Distinct]

theorem entriesWith_lines {lines : List PlainLine} {done : List (Value × Value)}
    (hread : ReadsPlain events read)
    (h : events.toList.drop p.position = lines.flatMap PlainLine.events ++ [.mappingEnd])
    (hfuel : lines.length < fuel) :
    (∃ q, entriesWith events read fuel p done = some (entries, q)) ↔
      ∃ rest, entries = done.reverse ++ rest ∧ lines.Forall₂ PlainLine.Holds rest ∧
        rest.Pairwise Distinct ∧ ∀ a ∈ done, ∀ b ∈ rest, Distinct a b := by
  have ⟨fuel, hf⟩ := Nat.exists_eq_add_one.mpr (Nat.zero_lt_of_lt hfuel)
  subst hf
  induction lines generalizing p fuel done
  case nil =>
    have hend : entriesWith events read (fuel + 1) p done = some (done.reverse, advance p) := by
      rw [entriesWith, getElem?_position h]
      rfl
    rw [hend]
    constructor
    · rintro ⟨q, he⟩
      cases he
      exact ⟨[], by simp, .nil, .nil, by simp⟩
    · rintro ⟨rest, rfl, hrest, -⟩
      cases hrest
      exact ⟨_, by rw [List.append_nil]⟩
  case cons line lines ih =>
    rw [List.flatMap_cons, List.append_assoc] at h
    have hnext := drop_advance (drop_advance h)
    have hfuel := Nat.lt_of_succ_lt_succ hfuel
    have ⟨fuel, hf⟩ := Nat.exists_eq_add_one.mpr (Nat.zero_lt_of_lt hfuel)
    subst hf
    rw [entriesWith_line hread h]
    simp only [Option.bind_eq_some_iff]
    constructor
    · rintro ⟨q, k, hk, he⟩
      split at he
      case isTrue => contradiction
      case isFalse hnew =>
        have ⟨v, hv, he⟩ := Option.bind_eq_some_iff.mp he
        have ⟨rest, hentries, hrest, hpair, hdone⟩ := (ih hnext fuel hfuel).mp ⟨q, he⟩
        refine ⟨(k, v) :: rest, by simp [hentries], .cons ⟨hk, hv⟩ hrest,
          .cons (hdone _ List.mem_cons_self) hpair, fun a ha b hb => ?_⟩
        rcases List.mem_cons.mp hb with rfl | hb
        · exact not_any_same_iff.mp hnew a ha
        · exact hdone a (List.mem_cons_of_mem _ ha) b hb
    · rintro ⟨rest, rfl, hrest, hpair, hdone⟩
      cases hrest
      case cons e rest hl hrest =>
        have ⟨hfirst, hpair⟩ := List.pairwise_cons.mp hpair
        have hnew := not_any_same_iff.mpr fun a ha => hdone a ha e List.mem_cons_self
        have hdone : ∀ a ∈ e :: done, ∀ b ∈ rest, Distinct a b :=
          List.forall_mem_cons.mpr
            ⟨hfirst, fun a ha b hb => hdone a ha b (List.mem_cons_of_mem _ hb)⟩
        have ⟨q, he⟩ := (ih hnext fuel hfuel).mpr ⟨rest, by simp, hrest, hpair, hdone⟩
        refine ⟨q, e.1, hl.1, ?_⟩
        rw [if_neg hnew]
        exact Option.bind_eq_some_iff.mpr ⟨e.2, hl.2, he⟩

theorem follow_mapping (h : events.toList.drop p.position = .mappingStart none :: es)
    (targets : List (Nat × Nat)) (depth : Nat) :
    follow events targets (content events targets (depth + 1)) p =
      (entriesWith events (follow events targets (content events targets depth)) (events.size + 1)
        (advance p) []).map fun (entries, q) => (.map entries, q) := by
  have hs := getElem?_position h
  rw [follow, hs]
  unfold content
  simp only [hs, ownTag?, Option.bind_eq_bind, Option.bind_none]
  exact Option.map_eq_bind.symm

theorem follow_lines {lines : List PlainLine}
    (h : events.toList.drop p.position =
      .mappingStart none :: (lines.flatMap PlainLine.events ++ [.mappingEnd]))
    (targets : List (Nat × Nat)) (depth : Nat) (v : Value) :
    (∃ q, follow events targets (content events targets (depth + 1)) p = some (v, q)) ↔
      ∃ entries, v = .map entries ∧ lines.Forall₂ PlainLine.Holds entries ∧
        entries.Pairwise Distinct := by
  have hfuel : lines.length < events.size + 1 := by
    have hlen := PlainLine.length_le_flatMap PlainLine.events (by simp [PlainLine.events]) lines
    have hdrop := congrArg List.length h
    simp only [List.length_drop, Array.length_toList, List.length_cons, List.length_append] at hdrop
    omega
  have hentries (entries : List (Value × Value)) :
      (∃ q, entriesWith events (follow events targets (content events targets depth))
        (events.size + 1) (advance p) [] = some (entries, q)) ↔
        lines.Forall₂ PlainLine.Holds entries ∧ entries.Pairwise Distinct := by
    rw [entriesWith_lines (readsPlain_follow events targets depth) (drop_advance h) hfuel]
    simp
  simp only [follow_mapping h, Option.map_eq_some_iff, ← hentries]
  constructor
  · rintro ⟨q, ⟨entries, q⟩, he, rfl, -⟩
    exact ⟨entries, rfl, q, he⟩
  · rintro ⟨entries, rfl, q, he⟩
    exact ⟨q, (entries, q), he, rfl⟩

end Document

-- A text of plain lines is readable if each name and each value is and no key comes twice.
theorem parse_lines_iff (line : PlainLine) (lines : List PlainLine) (v : Value) :
    parse (String.ofList (PlainLine.textOf (line :: lines))) = some v ↔
      ∃ entries, v = .map entries ∧ (line :: lines).Forall₂ PlainLine.Holds entries ∧
        entries.Pairwise Distinct := by
  have ⟨s, hs, hevents⟩ := Events.ofTokens?_lines (line :: lines)
  have hstart : s.events.toArray.toList.drop (Document.Place.mk 0 0).position =
      .mappingStart none :: ((line :: lines).flatMap PlainLine.events ++ [.mappingEnd]) := by
    simpa using hevents
  rw [← Document.follow_lines hstart s.targets 127, parse, Token.scan_textOf]
  simp only [Option.bind_eq_bind, Option.bind_some, hs]
  rw [if_neg (by simp [hevents]), Option.bind_eq_some_iff]
  constructor
  · rintro ⟨⟨w, q⟩, hw, hv⟩
    cases hv
    exact ⟨q, hw⟩
  · rintro ⟨q, hw⟩
    exact ⟨(v, q), hw, rfl⟩

end ProposalLint.Yaml

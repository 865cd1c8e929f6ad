import Mathlib.Data.List.Forall2
import ProposalLint.Preamble.Schema

namespace ProposalLint.Preamble

open Yaml

namespace Header

theorem mem_all (h : Header) : h ∈ all := by
  cases h <;> decide

theorem ofName?_eq_some_iff {h : Header} : ofName? s = some h ↔ s = h.name := by
  constructor
  case mp =>
    intro hf
    have hn : h.name = s := by simpa using List.find?_some hf
    exact hn.symm
  case mpr =>
    intro hs
    subst hs
    cases h <;> rfl

end Header

section

variable {schema : Schema} {today : Date} {entries : List (Value × Value)} {h : Header} {v : Value}

-- A key that is the name of a header, whatever tags it has.
def Known (key : Value) : Prop :=
  ∃ h : Header, key.untagged = .string h.name

theorem isKnown_iff : isKnown key ↔ Known key := by
  unfold isKnown Known
  cases hk : key.untagged
  case string s =>
    simp [Value.string?, Option.isSome_iff_exists, Header.ofName?_eq_some_iff]
  all_goals simp [Value.string?]

instance : DecidablePred Known :=
  fun _ => decidable_of_iff _ isKnown_iff

-- What a header must hold, not counting the other headers. Only dates may have tags.
def Holds (schema : Schema) : Header → Value → Prop
  | .sip, v => ∃ n, v = .int n ∧ 1 ≤ n
  | .title, v => ∃ s, v = .string s
  | .status, v => ∃ s ∈ statuses, v = .string s
  | .discussionsTo, v => ∃ s address, v = .string s ∧ schema.address? s = some address ∧
    (address.scheme = "http" ∨ address.scheme = "https")
  | .author, v => ∃ s, v = .string s ∧ authorProblem? s = none
  | .created, v | .updated, v => ∃ s d, v.untagged = .string s ∧ date? schema.today s = some d

-- What a mapping has under the name of a header.
def held? (entries : List (Value × Value)) (h : Header) : Option Value :=
  Value.field? h.name (.map entries)

-- A header that is right by itself. Two headers may be missing.
structure Right (schema : Schema) (entries : List (Value × Value)) (h : Header) : Prop where
  holds   : ∀ v, held? entries h = some v → Holds schema h v
  present : h ≠ .discussionsTo → h ≠ .updated → (held? entries h).isSome

-- The date that a header holds.
def Dated (schema : Schema) (entries : List (Value × Value)) (h : Header) (d : Date) : Prop :=
  ∃ v s, held? entries h = some v ∧ v.untagged = .string s ∧ date? schema.today s = some d

-- The entries of a preamble as they should be.
structure Valid (schema : Schema) (entries : List (Value × Value)) : Prop where
  known   : ∀ e ∈ entries, Known e.1
  right   : ∀ h, Right schema entries h
  ordered : ∀ created updated, Dated schema entries .created created →
    Dated schema entries .updated updated → ¬updated.before created
  living  : held? entries .status = some (.string "Living") → (held? entries .updated).isSome

theorem dateOf?_eq_some_iff : dateOf? today v = some d ↔
    ∃ s, v.untagged = .string s ∧ date? today s = some d := by
  unfold dateOf?
  cases v.untagged <;> simp [Value.string?]

theorem checkDate_eq_none_iff :
    checkDate h today v = none ↔ ∃ s d, v.untagged = .string s ∧ date? today s = some d := by
  simp only [checkDate, ite_eq_left_iff, reduceCtorEq, imp_false, not_not,
    Option.isSome_iff_exists, dateOf?_eq_some_iff]
  exact exists_comm

theorem check_eq_none_iff : check schema h v = none ↔ Holds schema h v := by
  cases h
  case sip => cases v <;> simp [check, checkSip, Holds]; omega
  case title => cases v <;> simp [check, checkTitle, Holds]
  case status => cases v <;> simp [check, checkStatus, Holds]
  case discussionsTo =>
    cases v <;> simp [check, checkDiscussionsTo, Holds, Option.any_eq_true, Url.Address.isWeb,
      or_iff_not_imp_left]
  case author => cases v <;> simp [check, checkAuthor, Holds]
  case created | updated => exact checkDate_eq_none_iff

theorem headerFailure?_eq_none_iff :
    headerFailure? schema (.map entries) h = none ↔ Right schema entries h := by
  have hr : Right schema entries h ↔ (∀ v, held? entries h = some v → Holds schema h v) ∧
      (h ≠ .discussionsTo → h ≠ .updated → (held? entries h).isSome) :=
    ⟨fun r => ⟨r.holds, r.present⟩, fun r => ⟨r.left, r.right⟩⟩
  rw [hr, headerFailure?, held?]
  cases Value.field? h.name (.map entries)
  case some v => simp [check_eq_none_iff]
  case none => cases h <;> simp [isOptional]

instance : DecidablePred (Right schema entries) :=
  fun _ => decidable_of_iff _ (Option.isNone_iff_eq_none.trans headerFailure?_eq_none_iff)

-- The header that a failure is about.
def Failure.header? : Failure → Option Header
  | missing h | notPositive h | notInteger h | notNumber h _ | notString h _ | notStatus h _
  | notWebAddress h | badAuthors h _ | notDate h => some h
  | _ => none

-- The message names the header that it is about.
theorem Failure.message_eq_property {f : Failure} (hf : f.header? = some h) :
    ∃ reason, f.message = Failure.property h.name reason := by
  cases f <;> cases hf <;> exact ⟨_, rfl⟩

theorem header?_of_check (hf : check schema h v = some f) : f.header? = some h := by
  cases h <;> simp only [check] at hf
  case sip => cases v <;> grind [checkSip, Failure.header?]
  case title => cases v <;> grind [checkTitle, Failure.header?]
  case status => cases v <;> grind [checkStatus, Failure.header?]
  case discussionsTo => cases v <;> grind [checkDiscussionsTo, Failure.header?]
  case author => cases v <;> grind [checkAuthor, Failure.header?, Option.map_eq_some_iff]
  case created | updated => grind [checkDate, Failure.header?]

theorem header?_of_headerFailure? (hf : headerFailure? schema preamble h = some f) :
    f.header? = some h := by
  unfold headerFailure? at hf
  split at hf
  case h_1 => exact header?_of_check hf
  case h_2 => split at hf <;> cases hf; rfl

-- Of the headers, each that is not right by itself has one failure, which names it.
theorem filterMap_headerFailure? (headers : List Header) :
    List.Forall₂ (fun h f => ∃ reason, f.message = Failure.property h.name reason)
      (headers.filter (¬Right schema entries ·))
      (headers.filterMap (headerFailure? schema (.map entries))) := by
  induction headers
  case nil => exact .nil
  case cons h headers ih =>
    cases hf : headerFailure? schema (.map entries) h
    case none =>
      have hr := headerFailure?_eq_none_iff.mp hf
      simpa [hf, hr] using ih
    case some f =>
      have hr : ¬Right schema entries h := by
        intro hr
        simp [headerFailure?_eq_none_iff.mpr hr] at hf
      rw [List.filter_cons_of_pos (by simpa using hr), List.filterMap_cons_some hf]
      exact .cons (Failure.message_eq_property (header?_of_headerFailure? hf)) ih

end

-- What is wrong with a preamble that has failures: it is no mapping at all; or some keys are unknown
-- or some headers wrong, and each of them has one failure; or, if not, one comparison fails.
inductive Faulty (schema : Schema) (preamble : Value) : List Failure → Prop
  | notObject : (∀ entries, preamble.untagged ≠ .map entries) →
      Faulty schema preamble [.notObject preamble]
  | headers : preamble.untagged = .map entries →
      (∃ e ∈ entries, ¬Known e.1) ∨ (∃ h, ¬Right schema entries h) →
      List.Forall₂ (fun h f => ∃ reason, f.message = Failure.property h.name reason)
        (Header.all.filter (¬Right schema entries ·)) wrong →
      Faulty schema preamble (((entries.map (·.1)).filter (¬Known ·)).map .unknown ++ wrong)
  | early : preamble.untagged = .map entries → (∀ e ∈ entries, Known e.1) →
      (∀ h, Right schema entries h) → Dated schema entries .created created →
      Dated schema entries .updated updated → updated.before created →
      Faulty schema preamble [.updatedBeforeCreated]
  | living : preamble.untagged = .map entries → (∀ e ∈ entries, Known e.1) →
      (∀ h, Right schema entries h) → held? entries .status = some (.string "Living") →
      held? entries .updated = none → Faulty schema preamble [.livingWithoutUpdated]

section

variable {schema : Schema} {entries : List (Value × Value)} {h : Header}

theorem bind_dateOf?_eq_some_iff :
    (held? entries h).bind (dateOf? schema.today) = some d ↔ Dated schema entries h d := by
  simp only [Option.bind_eq_some_iff, dateOf?_eq_some_iff, Dated]
  grind

theorem Dated.eq (hd : Dated schema entries h d) (hd' : Dated schema entries h d') : d = d' := by
  rw [← bind_dateOf?_eq_some_iff] at hd hd'
  exact Option.some.inj (hd.symm.trans hd')

theorem crossFailures_eq : crossFailures schema (.map entries) =
    (if (match (held? entries .created).bind (dateOf? schema.today),
        (held? entries .updated).bind (dateOf? schema.today) with
      | some created, some updated => updated.before created
      | _, _ => false) then [.updatedBeforeCreated] else []) ++
    (if (held? entries .status).bind (·.untagged.string?) == some "Living" &&
        ((held? entries .updated).bind (dateOf? schema.today)).isNone then [.livingWithoutUpdated]
      else []) :=
  rfl

-- The comparisons between headers that are right by themselves. At most one of them fails, since
-- one needs a date that the other misses.
theorem crossFailures_cases (hr : ∀ h, Right schema entries h) :
    let found := crossFailures schema (.map entries)
    (∃ created updated, Dated schema entries .created created ∧
      Dated schema entries .updated updated ∧ updated.before created ∧
      found = [.updatedBeforeCreated]) ∨
    (held? entries .status = some (.string "Living") ∧ held? entries .updated = none ∧
      found = [.livingWithoutUpdated]) ∨
    (∀ created updated, Dated schema entries .created created →
      Dated schema entries .updated updated → ¬updated.before created) ∧
      (held? entries .status = some (.string "Living") → (held? entries .updated).isSome) ∧
      found = [] := by
  intro found
  obtain ⟨v, hv⟩ := Option.isSome_iff_exists.mp ((hr .created).present nofun nofun)
  obtain ⟨s, created, hs, hd⟩ := (hr .created).holds v hv
  have hc : Dated schema entries .created created := ⟨v, s, hv, hs, hd⟩
  obtain ⟨w, hw⟩ := Option.isSome_iff_exists.mp ((hr .status).present nofun nofun)
  obtain ⟨status, _, he⟩ := (hr .status).holds w hw
  subst he
  have hfound : found = crossFailures schema (.map entries) := rfl
  simp only [crossFailures_eq, bind_dateOf?_eq_some_iff.mpr hc, hw, Option.bind_some,
    Value.untagged, Value.string?] at hfound
  cases hu : held? entries .updated
  case none =>
    simp only [hu, Option.bind_none, Option.isNone_none, Bool.and_true] at hfound
    by_cases hl : status = "Living"
    case pos => exact .inr (.inl ⟨by rw [hw, hl], rfl, by simp [hfound, hl]⟩)
    case neg =>
      refine .inr (.inr ⟨?_, ?_, by simp [hfound, hl]⟩)
      · rintro _ _ _ ⟨_, _, hn, _⟩
        simp [hu] at hn
      · simp [hw, hl]
  case some u =>
    obtain ⟨s', updated, hs', hd'⟩ := (hr .updated).holds u hu
    have hup : Dated schema entries .updated updated := ⟨u, s', hu, hs', hd'⟩
    simp only [bind_dateOf?_eq_some_iff.mpr hup, Option.isNone_some, Bool.and_false] at hfound
    by_cases hb : updated.before created
    case pos => exact .inl ⟨created, updated, hc, hup, hb, by simp [hfound, hb]⟩
    case neg =>
      refine .inr (.inr ⟨?_, by simp, by simp [hfound, hb]⟩)
      intro created' updated' hc' hup'
      rwa [hc'.eq hc, hup'.eq hup]

-- The failures of keys and headers, each looked at by itself.
def ownFailures (schema : Schema) (entries : List (Value × Value)) : List Failure :=
  ((entries.map (·.1)).filter (¬Known ·)).map .unknown ++
    Header.all.filterMap (headerFailure? schema (.map entries))

theorem ownFailures_eq_nil_iff : ownFailures schema entries = [] ↔
    (∀ e ∈ entries, Known e.1) ∧ ∀ h, Right schema entries h := by
  simp [ownFailures, headerFailure?_eq_none_iff, Header.mem_all]

theorem failures_of_map (hp : preamble.untagged = .map entries) : failures schema preamble =
    if (ownFailures schema entries).isEmpty then crossFailures schema (.map entries)
    else ownFailures schema entries := by
  have hk : (fun key => !isKnown key) = fun key => decide ¬Known key := by
    funext key
    simp [← isKnown_iff]
  simp only [failures, hp, hk]
  rfl

theorem failures_of_not_map (hp : ∀ entries, preamble.untagged ≠ .map entries) :
    failures schema preamble = [.notObject preamble] := by
  unfold failures
  split
  case h_1 entries he => exact absurd he (hp entries)
  case h_2 => rfl

-- A preamble has no failures exactly if it is as it should be, and otherwise its failures tell what
-- is wrong with it.
theorem failures_valid_or_faulty (schema : Schema) (preamble : Value) :
    (failures schema preamble = [] ↔
      ∃ entries, preamble.untagged = .map entries ∧ Valid schema entries) ∧
    (failures schema preamble ≠ [] → Faulty schema preamble (failures schema preamble)) := by
  by_cases hm : ∃ entries, preamble.untagged = .map entries
  case neg =>
    have hm : ∀ entries, preamble.untagged ≠ .map entries := not_exists.mp hm
    rw [failures_of_not_map hm]
    exact ⟨by simp [hm], fun _ => .notObject hm⟩
  case pos =>
    obtain ⟨entries, he⟩ := hm
    have valid_iff : (∃ entries, preamble.untagged = .map entries ∧ Valid schema entries) ↔
        Valid schema entries := by simp [he]
    rw [failures_of_map he, valid_iff]
    by_cases hown : ownFailures schema entries = []
    case neg =>
      have hwrong := mt ownFailures_eq_nil_iff.mpr hown
      rw [if_neg (mt List.isEmpty_iff.mp hown)]
      refine ⟨iff_of_false hown fun hv => hwrong ⟨hv.known, hv.right⟩, fun _ => .headers he ?_ ?_⟩
      · simpa only [not_and_or, not_forall, exists_prop] using hwrong
      · exact filterMap_headerFailure? Header.all
    case pos =>
      obtain ⟨hk, hr⟩ := ownFailures_eq_nil_iff.mp hown
      rw [if_pos (List.isEmpty_iff.mpr hown)]
      obtain ⟨_, _, hc, hu, hb, hf⟩ | ⟨hs, hu, hf⟩ | ⟨ho, hl, hf⟩ := crossFailures_cases hr
      · rw [hf]
        exact ⟨iff_of_false nofun fun hv => hv.ordered _ _ hc hu hb,
          fun _ => .early he hk hr hc hu hb⟩
      · rw [hf]
        refine ⟨iff_of_false nofun fun hv => ?_, fun _ => .living he hk hr hs hu⟩
        simpa [hu] using hv.living hs
      · rw [hf]
        exact ⟨iff_of_true rfl ⟨hk, hr, ho, hl⟩, fun h => absurd rfl h⟩

end
end ProposalLint.Preamble

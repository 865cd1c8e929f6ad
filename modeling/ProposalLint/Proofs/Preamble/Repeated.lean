import ProposalLint.Proofs.Preamble.Validity
import ProposalLint.Proofs.Text.OneLine

namespace ProposalLint

-- The outermost tag of a value.
def Yaml.Value.tag? : Value → Option String
  | tagged tag _ => some tag
  | _ => none

namespace Preamble

open Yaml

section

variable {schema : Schema} {v key : Value} {h : Header} {entries : List (Value × Value)}

-- Of a value that is described only a tag stands in the message as it stands in the document.
theorem oneLine_describe_iff : OneLine (describe v) ↔ ∀ tag ∈ v.tag?, OneLine tag := by
  cases v
  case tagged tag v =>
    have : OneLine "a value tagged " := by simp [OneLine]
    exact oneLine_append.trans (by simp [Value.tag?, this])
  case bool b => exact iff_of_true (by cases b <;> decide +kernel) (by simp [Value.tag?])
  case int n => exact iff_of_true (oneLine_int n) (by simp [Value.tag?])
  case float x => exact iff_of_true (oneLine_floatText x) (by simp [Value.tag?])
  case string s => exact iff_of_true (oneLine_quoted s) (by simp [Value.tag?])
  case null => exact iff_of_true (show OneLine "null" by decide) (by simp [Value.tag?])
  case list => exact iff_of_true (show OneLine "a list" by decide) (by simp [Value.tag?])
  case map => exact iff_of_true (show OneLine "an object" by decide) (by simp [Value.tag?])

-- What a message about an unknown key repeats of it.
def keyText? (key : Value) : Option String :=
  key.string?.or key.tag?

theorem oneLine_keyName_iff :
    OneLine (Failure.keyName key) ↔ ∀ text ∈ keyText? key, OneLine text := by
  cases key
  case string s => simp [Failure.keyName, keyText?, Value.string?]
  all_goals exact oneLine_describe_iff

theorem Header.oneLine_name (h : Header) : OneLine h.name := by
  cases h <;> decide

namespace Failure

-- What the message of a failure repeats as it stands in the document.
def repeated? : Failure → Option String
  | notObject v | notNumber _ v | notString _ v | notStatus _ v => v.tag?
  | unknown key => keyText? key
  | _ => none

theorem oneLine_property : OneLine (property name reason) ↔ OneLine name ∧ OneLine reason := by
  have hfront : OneLine "Front-matter property \"" := by simp [OneLine]
  have hmiddle : OneLine "\" " := by simp [OneLine]
  unfold property
  simp [hfront, hmiddle]

-- The message about a header that says what is received.
theorem oneLine_received (hr : OneLine reason) :
    OneLine (property h.name (reason ++ describe v)) ↔ ∀ tag ∈ v.tag?, OneLine tag := by
  simp [oneLine_property, h.oneLine_name, hr, oneLine_describe_iff]

theorem oneLine_message_iff (f : Failure) :
    OneLine f.message ↔ ∀ text ∈ f.repeated?, OneLine text := by
  cases f
  case notObject v =>
    have : OneLine "Front-matter expected an object, but received: " := by simp [OneLine]
    exact oneLine_append.trans (by simp [this, oneLine_describe_iff, repeated?])
  case unknown key =>
    have : OneLine "is not an allowed header" := by simp [OneLine]
    exact oneLine_property.trans (by simp [this, oneLine_keyName_iff, repeated?])
  case notNumber | notString => exact oneLine_received (by simp [OneLine])
  case notStatus => exact oneLine_received (by decide +kernel)
  case missing h | notPositive h | notInteger h | notWebAddress h | notDate h =>
    exact iff_of_true (oneLine_property.mpr ⟨h.oneLine_name, by simp [OneLine]⟩)
      (by simp [repeated?])
  case badAuthors h problem =>
    refine iff_of_true (oneLine_property.mpr ⟨h.oneLine_name, ?_⟩) (by simp [repeated?])
    cases problem <;> simp [AuthorProblem.reason, OneLine]
  case updatedBeforeCreated =>
    exact iff_of_true (oneLine_property.mpr ⟨Header.oneLine_name _, by simp [OneLine]⟩)
      (by simp [repeated?])
  case livingWithoutUpdated => exact iff_of_true (by decide +kernel) (by simp [repeated?])

end Failure

-- The headers of which messages say what they hold.
def isDescribed : Header → Bool
  | .created | .updated => false
  | _ => true

-- The texts of a preamble that messages repeat as they stand in the document: unknown keys, and tags
-- where there must be none.
def repeated (preamble : Value) : List String :=
  match preamble.untagged with
  | .map entries =>
    ((entries.map (·.1)).filter (¬Known ·)).filterMap keyText? ++
      Header.all.filterMap fun h => if isDescribed h then (held? entries h).bind (·.tag?) else none
  | _ => preamble.tag?.toList

theorem repeated?_check :
    (check schema h v).bind (·.repeated?) = if isDescribed h then v.tag? else none := by
  cases h
  case created | updated =>
    simp only [check, checkDate]
    split <;> rfl
  all_goals cases v
  case sip.int n =>
    simp only [check, checkSip]
    split <;> rfl
  case status.string s =>
    simp only [check, checkStatus]
    split <;> rfl
  case discussionsTo.string s =>
    simp only [check, checkDiscussionsTo]
    split <;> rfl
  case author.string s =>
    simp only [check, checkAuthor]
    cases authorProblem? s <;> rfl
  all_goals rfl

theorem repeated?_headerFailure? : (headerFailure? schema (.map entries) h).bind (·.repeated?) =
    if isDescribed h then (held? entries h).bind (·.tag?) else none := by
  unfold headerFailure? held?
  cases (Value.map entries).field? h.name
  case some v => exact repeated?_check
  case none => cases isOptional h <;> cases h <;> rfl

theorem repeated_of_map (he : preamble.untagged = .map entries) (schema : Schema) :
    repeated preamble = (ownFailures schema entries).filterMap (·.repeated?) := by
  simp only [repeated, he, ownFailures, List.filterMap_append, List.filterMap_filterMap,
    repeated?_headerFailure?, List.filterMap_map]
  rfl

theorem oneLine_of_mem_crossFailures (hf : f ∈ crossFailures schema (.map entries)) :
    OneLine f.message := by
  have hf : f = .updatedBeforeCreated ∨ f = .livingWithoutUpdated := by
    rw [crossFailures_eq] at hf
    grind
  rw [Failure.oneLine_message_iff]
  obtain rfl | rfl := hf <;> simp [Failure.repeated?]

-- The messages about a preamble take one line each exactly if the texts do that they repeat.
theorem oneLine_messages_iff (schema : Schema) (preamble : Value) :
    (∀ f ∈ failures schema preamble, OneLine f.message) ↔
      ∀ text ∈ repeated preamble, OneLine text := by
  by_cases hm : ∃ entries, preamble.untagged = .map entries
  case neg =>
    have hm : ∀ entries, preamble.untagged ≠ .map entries := not_exists.mp hm
    have hr : repeated preamble = preamble.tag?.toList := by
      unfold repeated
      split
      case h_1 entries he => exact absurd he (hm entries)
      case h_2 => rfl
    rw [failures_of_not_map hm, hr]
    simp [Failure.oneLine_message_iff, Failure.repeated?]
  case pos =>
    obtain ⟨entries, he⟩ := hm
    have own : (∀ f ∈ failures schema preamble, OneLine f.message) ↔
        ∀ f ∈ ownFailures schema entries, OneLine f.message := by
      rw [failures_of_map he]
      split
      case isTrue hn =>
        rw [List.isEmpty_iff.mp hn]
        exact iff_of_true (fun f hf => oneLine_of_mem_crossFailures hf) (by simp)
      case isFalse => rfl
    rw [own, repeated_of_map he schema]
    simp only [Failure.oneLine_message_iff, List.mem_filterMap]
    exact ⟨fun h text ⟨f, hf, ht⟩ => h f hf text ht, fun h f hf text ht => h text ⟨f, hf, ht⟩⟩

end
end Preamble
end ProposalLint

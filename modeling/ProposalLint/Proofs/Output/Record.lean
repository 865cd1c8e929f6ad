import Mathlib.Data.List.Basic
import ProposalLint.Output.Record
import ProposalLint.Proofs.Json.RoundTrip

namespace ProposalLint

open Json

theorem mapM_map_eq_some {α β : Type} {f : α → β} {g : β → Option α} {xs : List α}
    (h : ∀ x ∈ xs, g (f x) = some x) : (xs.map f).mapM g = some xs := by
  induction xs
  case nil => rfl
  case cons x xs ih =>
    have ⟨hx, hxs⟩ := List.forall_mem_cons.mp h
    simp [hx, ih hxs]

theorem Json.word?_natural (h : n < UInt64.size) : (natural n).word? = some n :=
  Option.filter_some_pos (decide_eq_true h)

namespace Message

variable {m : Message}

-- The place of the message is given by whole numbers of at most 64 bits.
def Fits (m : Message) : Prop :=
  m.line < UInt64.size ∧ m.column < UInt64.size

theorem plain_toJson (m : Message) : m.toJson.Plain := by
  refine .object ?_
  simp only [List.forall_mem_cons]
  exact ⟨.string, .string, .natural, .natural, by simp⟩

theorem ofJson?_toJson (h : m.Fits) : ofJson? m.toJson = some m := by
  have ⟨hl, hc⟩ := h
  simp [ofJson?, toJson, members?, List.lookup_cons, string?, word?_natural hl, word?_natural hc]

end Message

namespace FileResult

theorem plain_toJson (r : FileResult) : r.toJson.Plain := by
  refine .object ?_
  simp only [List.forall_mem_cons]
  refine ⟨.string, .array ?_, by simp⟩
  simpa using fun m _ => m.plain_toJson

theorem ofJson?_toJson {r : FileResult} (h : ∀ m ∈ r.messages, m.Fits) :
    ofJson? r.toJson = some r := by
  have hm := mapM_map_eq_some fun m hm => Message.ofJson?_toJson (h m hm)
  simp [ofJson?, toJson, members?, List.lookup_cons, string?, array?, hm]

end FileResult

namespace LintResult

theorem plain_toJson (r : LintResult) : r.toJson.Plain := by
  refine .object ?_
  simp only [List.forall_mem_cons]
  refine ⟨.array ?_, by simp⟩
  simpa using fun f _ => f.plain_toJson

theorem ofJson?_toJson {r : LintResult} (h : ∀ f ∈ r.files, ∀ m ∈ f.messages, m.Fits) :
    ofJson? r.toJson = some r := by
  have hf := mapM_map_eq_some fun f hf => FileResult.ofJson?_toJson (h f hf)
  simp [ofJson?, toJson, members?, List.lookup_cons, array?, hf]

-- What was written of a result can be read, and is that result.
theorem parse?_renderJson (r : LintResult) (h : ∀ f ∈ r.files, ∀ m ∈ f.messages, m.Fits) :
    (parse? r.renderJson).bind ofJson? = some r := by
  rw [renderJson, parse?_pretty r.plain_toJson, Option.bind_some, ofJson?_toJson h]

-- Texts with all that has to be written in another way, and the largest place there is.
theorem parse?_renderJson_of_escapes :
    let m : Message := ⟨"a\"b\\c", "\n\r\t\x08\x0c\x00\x1f\x7f é\u2028😀/", UInt64.size - 1, 0⟩
    let r : LintResult := ⟨[⟨"", []⟩, ⟨"a\\b/c.md", [m, m]⟩]⟩
    (∀ f ∈ r.files, ∀ m ∈ f.messages, m.Fits) ∧ (parse? r.renderJson).bind ofJson? = some r := by
  intro m r
  have h : ∀ f ∈ r.files, ∀ m ∈ f.messages, m.Fits := by
    simp [r, m, Message.Fits, UInt64.size]
  exact ⟨h, parse?_renderJson r h⟩

end LintResult
end ProposalLint

import Mathlib.Data.List.Induction
import ProposalLint.Discovery.Documents
import ProposalLint.Proofs.Files.Path

namespace ProposalLint

open ProposalLint.Path

variable {p q : String} {ps xs ys : List String}

-- Paths in order, none of them twice.
def Increasing (ps : List String) : Prop :=
  ps.Pairwise Before

-- The first of the spellings that a list has of a path.
def First (xs : List String) (q : String) : Prop :=
  xs.find? (components · == components q) = some q

namespace First

theorem mem (h : First xs q) : q ∈ xs :=
  List.mem_of_find?_eq_some h

theorem eq (h₁ : First xs p) (h₂ : First xs q) (hs : Same p q) : p = q := by
  rw [First, hs] at h₁
  exact Option.some.inj (h₁.symm.trans h₂)

theorem append_iff :
    First (xs ++ ys) q ↔ First xs q ∨ (∀ p ∈ xs, ¬Same p q) ∧ First ys q := by
  have hnone : xs.find? (components · == components q) = none ↔ ∀ p ∈ xs, ¬Same p q := by
    simp [Same]
  rw [First, First, First, ← hnone, List.find?_append]
  cases xs.find? (components · == components q) <;> simp

end First

theorem exists_first (h : p ∈ xs) : ∃ q, First xs q ∧ Same q p := by
  have hsome : (xs.find? (components · == components p)).isSome :=
    List.find?_isSome.mpr ⟨p, h, beq_self_eq_true _⟩
  have ⟨q, hq⟩ := Option.isSome_iff_exists.mp hsome
  have hs : components q = components p := by simpa using List.find?_some hq
  rw [← hs] at hq
  exact ⟨q, hq, hs⟩

theorem mem_insertPath (h : Increasing ps) :
    q ∈ insertPath p ps ↔ q ∈ ps ∨ q = p ∧ ∀ r ∈ ps, ¬Same p r := by
  induction ps
  case nil => simp [insertPath]
  case cons r rs ih =>
    have ⟨hr, hrs⟩ := List.pairwise_cons.mp h
    rw [insertPath]
    cases ho : order p r
    case lt =>
      have hb : ∀ r' ∈ r :: rs, ¬Same p r' :=
        List.forall_mem_cons.mpr
          ⟨Before.not_same ho, fun r' hm => (Before.trans ho (hr r' hm)).not_same⟩
      simp only [List.mem_cons]
      grind
    case eq =>
      have hs := order_eq_eq_iff.mp ho
      simp [hs]
    case gt =>
      have hs : ¬Same p r := fun hs => (order_eq_gt_iff.mp ho).not_same hs.symm
      simp [ih hrs, hs, or_assoc]

theorem increasing_insertPath (h : Increasing ps) (p : String) : Increasing (insertPath p ps) := by
  induction ps
  case nil => exact List.pairwise_singleton ..
  case cons r rs ih =>
    have ⟨hr, hrs⟩ := List.pairwise_cons.mp h
    rw [insertPath]
    cases ho : order p r
    case lt =>
      exact .cons (List.forall_mem_cons.mpr ⟨ho, fun r' hm => Before.trans ho (hr r' hm)⟩) h
    case eq => exact h
    case gt =>
      refine .cons (fun r' hm => ?_) (ih hrs)
      cases (mem_insertPath hrs).mp hm
      case inl hm => exact hr r' hm
      case inr he => exact he.left ▸ order_eq_gt_iff.mp ho

-- Paths put in order one by one.
def ordered (xs : List String) : List String :=
  xs.foldl (fun ps p => insertPath p ps) []

theorem ordered_concat : ordered (xs ++ [p]) = insertPath p (ordered xs) := by
  simp [ordered]

theorem increasing_ordered (xs : List String) : Increasing (ordered xs) := by
  induction xs using List.reverseRec
  case nil => exact .nil
  case append_singleton xs p ih => exact ordered_concat ▸ increasing_insertPath ih p

-- Of the spellings of a path the first one stays.
theorem mem_ordered : q ∈ ordered xs ↔ First xs q := by
  induction xs using List.reverseRec generalizing q
  case nil => simp [ordered, First]
  case append_singleton xs p ih =>
    have hnew : (∀ r ∈ ordered xs, ¬Same p r) ↔ ∀ r ∈ xs, ¬Same r p := by
      constructor
      case mp =>
        intro h r hr hs
        have ⟨r', hf, hs'⟩ := exists_first hr
        exact h r' (ih.mpr hf) (hs'.trans hs).symm
      case mpr => exact fun h r hr hs => h r (ih.mp hr).mem hs.symm
    have hlast : First [p] q ↔ q = p := by
      rw [First, List.find?_singleton]
      grind
    rw [ordered_concat, mem_insertPath (increasing_ordered xs), ih, First.append_iff, hnew, hlast]
    grind

end ProposalLint

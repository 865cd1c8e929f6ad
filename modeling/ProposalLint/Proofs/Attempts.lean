import Mathlib.Data.List.Forall2

namespace ProposalLint

variable {ε ε' α β : Type}

theorem bind_eq_ok_iff {x : Except ε α} {f : α → Except ε β} :
    x >>= f = .ok b ↔ ∃ a, x = .ok a ∧ f a = .ok b := by
  cases x <;> simp [Bind.bind, Except.bind]

theorem mapError_eq_ok_iff {x : Except ε α} {f : ε → ε'} : x.mapError f = .ok a ↔ x = .ok a := by
  cases x <;> simp [Except.mapError]

-- A list of attempts, each of which may fail.
variable {f g : α → Except ε β} {xs : List α} {ys : List β}

theorem forall₂_of_mapM (xs : List α) {ys : List β}
    (h : xs.mapM f = .ok ys) : List.Forall₂ (fun x y => f x = .ok y) xs ys := by
  induction xs generalizing ys
  case nil =>
    cases h
    exact .nil
  case cons x xs ih =>
    rw [List.mapM_cons] at h
    cases hx : f x
    case error => simp [hx, Bind.bind, Except.bind] at h
    case ok y =>
      cases hxs : xs.mapM f
      case error => simp [hx, hxs, Bind.bind, Except.bind] at h
      case ok ys' =>
        simp only [hx, hxs] at h
        cases h
        exact .cons hx (ih hxs)

theorem mapM_congr (h : ∀ x ∈ xs, f x = g x) : xs.mapM f = xs.mapM g := by
  induction xs
  case nil => rfl
  case cons x xs ih =>
    have ⟨hx, hxs⟩ := List.forall_mem_cons.mp h
    rw [List.mapM_cons, List.mapM_cons, hx, ih hxs]

theorem mapM_ok_of_forall (h : ∀ x ∈ xs, ∃ y, f x = .ok y) : ∃ ys, xs.mapM f = .ok ys := by
  induction xs
  case nil => exact ⟨[], rfl⟩
  case cons x xs ih =>
    have ⟨⟨y, hy⟩, hxs⟩ := List.forall_mem_cons.mp h
    have ⟨ys, hys⟩ := ih hxs
    exact ⟨y :: ys, by simp [hy, hys, Bind.bind, Except.bind, Pure.pure, Except.pure]⟩

-- What the attempts give, if none of them fails.
theorem mem_of_mapM (h : xs.mapM f = .ok ys) : y ∈ ys ↔ ∃ x ∈ xs, f x = .ok y := by
  have hall := forall₂_of_mapM xs h
  clear h
  induction hall
  case nil => simp
  case cons x y' xs ys hx _ ih => simp [ih, hx, eq_comm]

theorem exists_of_mapM (h : xs.mapM f = .ok ys) (hx : x ∈ xs) : ∃ y, f x = .ok y := by
  have hall := forall₂_of_mapM xs h
  clear h
  induction hall
  case nil => cases hx
  case cons hy _ ih =>
    cases hx
    case head => exact ⟨_, hy⟩
    case tail hx => exact ih hx

end ProposalLint

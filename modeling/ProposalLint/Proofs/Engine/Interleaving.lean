import Mathlib.Data.List.Basic
import ProposalLint.Engine.Trace

namespace ProposalLint

-- `Interleaving parts whole` says that `whole` is made of the elements of all `parts`, and that the
-- elements of each part keep their order.
inductive Interleaving : List (List α) → List α → Prop
  | nil : (∀ part ∈ parts, part = []) → Interleaving parts []
  | cons : (parts[i]? = some (x :: part)) → (Interleaving (parts.set i part) whole) →
      Interleaving parts (x :: whole)

namespace Interleaving

variable {parts : List (List α)} {whole : List α}

-- What a function keeps of an interleaving is an interleaving of what it keeps of the parts.
theorem filterMap (f : α → Option β) (h : Interleaving parts whole) :
    Interleaving (parts.map (List.filterMap f)) (whole.filterMap f) := by
  induction h
  case nil parts h =>
    refine .nil fun part hp => ?_
    have ⟨part', hm, he⟩ := List.mem_map.mp hp
    simp [← he, h part' hm]
  case cons parts i x part whole hp _ ih =>
    rw [List.map_set] at ih
    have hi : (parts.map (List.filterMap f))[i]? = some ((x :: part).filterMap f) := by simp [hp]
    cases hx : f x
    case none =>
      rw [List.filterMap_cons_none hx] at hi ⊢
      have ⟨hl, he⟩ := List.getElem?_eq_some_iff.mp hi
      rwa [← he, List.set_getElem_self] at ih
    case some y =>
      rw [List.filterMap_cons_some hx] at hi ⊢
      exact .cons hi ih

theorem map (f : α → β) (h : Interleaving parts whole) :
    Interleaving (parts.map (List.map f)) (whole.map f) := by
  have := h.filterMap fun x => some (f x)
  simpa only [List.filterMap_eq_map'] using this

theorem flatten_perm_cons_set {parts : List (List α)} (h : parts[i]? = some (x :: part)) :
    List.Perm parts.flatten (x :: (parts.set i part).flatten) := by
  induction parts generalizing i
  case nil => simp at h
  case cons p parts ih =>
    cases i
    case zero => simp_all
    case succ i =>
      simp only [List.set_cons_succ, List.flatten_cons]
      exact ((ih h).append_left p).trans List.perm_middle

theorem perm (h : Interleaving parts whole) : List.Perm whole parts.flatten := by
  induction h
  case nil parts h => rw [List.flatten_eq_nil_iff.mpr h]
  case cons hp _ ih => exact (ih.cons _).trans (flatten_perm_cons_set hp).symm

end Interleaving

namespace Turn

-- What can be seen of the call of one validator.
def eventsOf (turns : List Turn) (i : Nat) : List CallEvent :=
  turns.filterMap fun t => if t.validator = i then some t.event else none

@[simp]
theorem eventsOf_nil : eventsOf [] i = [] :=
  rfl

@[simp]
theorem eventsOf_append : eventsOf (ts ++ us) i = eventsOf ts i ++ eventsOf us i :=
  List.filterMap_append

theorem eventsOf_cons_self : eventsOf (⟨i, e⟩ :: ts) i = e :: eventsOf ts i := by
  simp [eventsOf]

theorem eventsOf_cons_ne (h : j ≠ i) : eventsOf (⟨j, e⟩ :: ts) i = eventsOf ts i := by
  simp [eventsOf, h]

variable {events : List CallEvent}

theorem eventsOf_map_self : eventsOf (events.map (mk i)) i = events := by
  induction events <;> simp_all [eventsOf_cons_self]

theorem eventsOf_map_ne (h : j ≠ i) : eventsOf (events.map (mk j)) i = [] := by
  induction events <;> simp_all [eventsOf_cons_ne]

-- Turns that name where they come from are an interleaving of what comes from each place.
theorem interleaving_eventsOf {turns : List Turn} (h : ∀ t ∈ turns, t.validator < n) :
    Interleaving ((List.range n).map fun i => (eventsOf turns i).map (Turn.mk i)) turns := by
  induction turns
  case nil => exact .nil (by simp)
  case cons t ts ih =>
    have ⟨i, e⟩ := t
    have hi : i < n := h _ List.mem_cons_self
    have head : ((List.range n).map fun j => (eventsOf (⟨i, e⟩ :: ts) j).map (Turn.mk j))[i]? =
        some (⟨i, e⟩ :: (eventsOf ts i).map (Turn.mk i)) := by
      rw [List.getElem?_map, List.getElem?_range hi, Option.map_some, eventsOf_cons_self]
      rfl
    refine .cons head ?_
    convert ih fun t ht => h t (List.mem_cons_of_mem _ ht)
    apply List.ext_getElem (by simp)
    intro j _ _
    by_cases hj : i = j
    case pos => simp [hj]
    case neg => simp [List.getElem_set_ne hj, eventsOf_cons_ne hj]

theorem mem_iff_of_interleaving {lives : List (List CallEvent)}
    (h : Interleaving (lives.mapIdx fun i life => life.map (Turn.mk i)) turns) :
    ⟨i, e⟩ ∈ turns ↔ ∃ life, lives[i]? = some life ∧ e ∈ life := by
  rw [h.perm.mem_iff, List.mem_flatten]
  constructor
  case mp =>
    intro ⟨part, hp, hm⟩
    have ⟨j, hj, he⟩ := List.mem_mapIdx.mp hp
    rw [← he, List.mem_map] at hm
    have ⟨e', hm, ht⟩ := hm
    cases ht
    exact ⟨_, List.getElem?_eq_getElem hj, hm⟩
  case mpr =>
    intro ⟨life, hl, hm⟩
    have ⟨hi, he⟩ := List.getElem?_eq_some_iff.mp hl
    refine ⟨life.map (Turn.mk i), List.mem_mapIdx.mpr ⟨i, hi, by rw [he]⟩, ?_⟩
    exact List.mem_map_of_mem hm

end Turn
end ProposalLint

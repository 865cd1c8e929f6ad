import Mathlib.Algebra.Group.Int.Defs
import ProposalLint.Yaml.Document

namespace ProposalLint.Yaml

-- All whole numbers of a value have 64 bits, with or without a sign.
inductive Value.Fits : Value → Prop
  | null : Fits null
  | bool : Fits (bool b)
  | int : (-2 ^ 63 ≤ n) → (n < 2 ^ 64) → Fits (int n)
  | float : Fits (float x)
  | string : Fits (string s)
  | list : (∀ v ∈ items, Fits v) → Fits (list items)
  | map : (∀ e ∈ entries, Fits e.1) → (∀ e ∈ entries, Fits e.2) → Fits (map entries)
  | tagged : (Fits v) → Fits (tagged tag v)

open Value (Fits)

theorem Value.Fits.untagged {v : Value} (h : Fits v) : Fits v.untagged := by
  induction h
  case tagged ih => exact ih
  case null => exact .null
  case bool => exact .bool
  case int h₁ h₂ => exact .int h₁ h₂
  case float => exact .float
  case string => exact .string
  case list h _ => exact .list h
  case map hk hv _ _ => exact .map hk hv

theorem Value.Fits.field? {v : Value} (h : Fits v) (hf : v.field? name = some w) : Fits w := by
  cases h
  case map entries _ hv =>
    have ⟨e, he, hw⟩ := Option.map_eq_some_iff.mp hf
    exact hw ▸ hv e (List.mem_of_find?_eq_some he)
  all_goals cases hf

namespace Plain

theorem bounds_of_whole (h : whole s = .value n) : -2 ^ 63 ≤ n ∧ n < 2 ^ 64 := by
  unfold whole at h
  split at h
  case h_2 => cases h
  case h_1 =>
    split at h
    case isTrue hn =>
      cases h
      simp only [Bool.and_eq_true, decide_eq_true_eq] at hn
      omega
    case isFalse => split at h <;> cases h

theorem value?_fits (h : value? s = some v) : Fits v := by
  unfold value? at h
  split at h
  case isTrue =>
    cases h
    exact .null
  case isFalse =>
    split at h
    case h_1 =>
      cases h
      exact .bool
    case h_2 =>
      split at h
      case h_1 hw =>
        cases h
        exact .int (bounds_of_whole hw).left (bounds_of_whole hw).right
      case h_2 => cases h
      case h_3 =>
        split at h
        case isTrue =>
          cases h
          exact .string
        case isFalse =>
          split at h <;> cases h
          case h_1 => exact .float
          case h_2 => exact .string

end Plain

theorem untaggedScalar?_fits (h : untaggedScalar? text plain = some v) : Fits v := by
  unfold untaggedScalar? at h
  split at h
  case isTrue => exact Plain.value?_fits h
  case isFalse =>
    cases h
    exact .string

theorem typedScalar?_fits (h : typedScalar? tag text = some v) : Fits v := by
  unfold typedScalar? at h
  split at h
  case h_1 =>
    have ⟨_, _, he⟩ := Option.map_eq_some_iff.mp h
    exact he ▸ .bool
  case h_2 =>
    split at h
    case h_1 hw =>
      cases h
      exact .int (Plain.bounds_of_whole hw).left (Plain.bounds_of_whole hw).right
    case h_2 => cases h
  case h_3 =>
    have ⟨_, _, he⟩ := Option.map_eq_some_iff.mp h
    exact he ▸ .float
  case h_4 =>
    split at h <;> cases h
    exact .null
  case h_5 =>
    cases h
    exact .string

namespace Document

variable {events : Array Event} {targets : List (Nat × Nat)} {read : Reader} {p q : Place}

-- Whatever the reader reads fits.
def Reads (read : Reader) : Prop :=
  ∀ p v q, read p = some (v, q) → Fits v

theorem Reads.follow (h : Reads read) : Reads (follow events targets read) := by
  intro p v q hf
  unfold Document.follow at hf
  split at hf
  case h_2 => exact h p v q hf
  case h_1 =>
    dsimp only at hf
    split at hf
    case isTrue => cases hf
    case isFalse =>
      have ⟨target, _, hf⟩ := Option.bind_eq_some_iff.mp hf
      have ⟨⟨w, r⟩, hr, hf⟩ := Option.bind_eq_some_iff.mp hf
      cases hf
      exact h _ _ _ hr

theorem Reads.forall_items (h : Reads read) (hi : itemsWith events read fuel p items = some (items', q))
    (hitems : ∀ v ∈ items, Fits v) : ∀ v ∈ items', Fits v := by
  induction fuel generalizing p items
  case zero => cases hi
  case succ fuel ih =>
    rw [itemsWith] at hi
    split at hi
    case isTrue =>
      cases hi
      simpa using hitems
    case isFalse =>
      have ⟨⟨v, r⟩, hv, hi⟩ := Option.bind_eq_some_iff.mp hi
      exact ih hi (List.forall_mem_cons.mpr ⟨h _ _ _ hv, hitems⟩)

theorem Reads.forall_entries (h : Reads read)
    (he : entriesWith events read fuel p entries = some (entries', q))
    (hentries : ∀ e ∈ entries, Fits e.1 ∧ Fits e.2) : ∀ e ∈ entries', Fits e.1 ∧ Fits e.2 := by
  induction fuel generalizing p entries
  case zero => cases he
  case succ fuel ih =>
    rw [entriesWith] at he
    split at he
    case isTrue =>
      cases he
      simpa using hentries
    case isFalse =>
      have ⟨⟨k, r⟩, hk, he⟩ := Option.bind_eq_some_iff.mp he
      dsimp only at he
      split at he
      case isTrue => cases he
      case isFalse =>
        have ⟨⟨v, r'⟩, hv, he⟩ := Option.bind_eq_some_iff.mp he
        exact ih he (List.forall_mem_cons.mpr ⟨⟨h _ _ _ hk, h _ _ _ hv⟩, hentries⟩)

-- A tag changes nothing about what is under it.
theorem wrap_fits (tag : Option String) (h : Fits v) :
    Fits (match ownTag? tag with | some tag => .tagged tag v | none => v) := by
  split
  case h_1 => exact .tagged h
  case h_2 => exact h

theorem scalar_fits (tag : Option String) {scalar : Option Value}
    (hs : ∀ w, scalar = some w → Fits w)
    (h : (scalar.bind fun w =>
      some (match ownTag? tag with | some tag => .tagged tag w | none => w, r)) = some (v, q)) :
    Fits v := by
  have ⟨w, hw, h⟩ := Option.bind_eq_some_iff.mp h
  cases h
  exact wrap_fits tag (hs w hw)

-- Collections hold what is read one level below.
theorem content_step (below : ∀ d, depth = d + 1 → Reads (content events targets d)) :
    Reads (content events targets depth) := by
  intro p v q h
  unfold content at h
  dsimp only at h
  split at h
  case h_1 =>
    split at h
    case h_1 => exact scalar_fits none (fun _ => untaggedScalar?_fits) h
    case h_2 =>
      split at h
      case isTrue => exact scalar_fits _ (fun _ => untaggedScalar?_fits) h
      case isFalse => exact scalar_fits _ (fun _ => typedScalar?_fits) h
  case h_2 d _ =>
    have ⟨⟨items, r⟩, hi, h⟩ := Option.bind_eq_some_iff.mp h
    cases h
    exact wrap_fits _ (.list ((below d rfl).follow.forall_items hi (by simp)))
  case h_3 d _ =>
    have ⟨⟨entries, r⟩, he, h⟩ := Option.bind_eq_some_iff.mp h
    cases h
    have hentries := (below d rfl).follow.forall_entries he (by simp)
    exact wrap_fits _ (.map (fun e he => (hentries e he).left) fun e he => (hentries e he).right)
  case h_4 => cases h

theorem content_reads (depth : Nat) : Reads (content events targets depth) := by
  induction depth
  case zero => exact content_step (by simp)
  case succ depth ih =>
    refine content_step fun d hd => ?_
    cases hd
    exact ih

end Document

theorem parse_fits (h : parse text = some v) : Fits v := by
  have ⟨tokens, _, h⟩ := Option.bind_eq_some_iff.mp h
  have ⟨s, _, h⟩ := Option.bind_eq_some_iff.mp h
  dsimp only at h
  split at h
  case isTrue =>
    cases h
    exact .null
  case isFalse =>
    have ⟨⟨w, _⟩, hw, h⟩ := Option.bind_eq_some_iff.mp h
    cases h
    exact (Document.content_reads 128).follow _ _ _ hw

end ProposalLint.Yaml

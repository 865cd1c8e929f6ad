namespace ProposalLint

variable {α β : Type} [DecidableEq α] {key : α}

-- Taking out what a key has does not touch the other keys.
theorem lookup_filter_ne {entries : List (α × β)} {k : α} (h : k ≠ key) :
    (entries.filter (·.1 != key)).lookup k = entries.lookup k := by
  induction entries
  case nil => rfl
  case cons entry entries ih =>
    obtain ⟨key', value⟩ := entry
    by_cases hk : key' = key
    case pos => simp [hk, beq_false_of_ne h, ih, List.lookup_cons]
    case neg => simp [hk, ih, List.lookup_cons]

theorem lookup_filter_self (entries : List (α × β)) (key : α) :
    (entries.filter (·.1 != key)).lookup key = none := by
  rw [List.lookup_eq_none_iff]
  intro entry he
  have hne : entry.1 ≠ key := by simpa using (List.mem_filter.mp he).right
  simp [hne.symm]

end ProposalLint

import ProposalLint.Proofs.Text.OneLine
import ProposalLint.Url.Web

namespace ProposalLint.Url

-- The sign in front of a fragment cannot stand in any other part of an address, so that the form of
-- an address tells what a server is asked for.

theorem hash_not_mem_toDigits (hb : 1 < b) (n : Nat) : '#' ∉ Nat.toDigits b n :=
  not_mem_toDigits (by simp) hb n

theorem not_mem_intercalate {α : Type} {x : α} {sep : List α} {parts : List (List α)}
    (hs : x ∉ sep) (h : ∀ part ∈ parts, x ∉ part) : x ∉ sep.intercalate parts := by
  induction parts
  case nil => simp
  case cons part parts ih =>
    have ⟨hp, hps⟩ := List.forall_mem_cons.mp h
    cases parts
    case nil => simpa using hp
    case cons => simpa [List.intercalate_cons_cons, hs, hp] using ih hps

namespace Percent

theorem not_mem_encodeByte (b : UInt8) : '#' ∉ encodeByte b := by
  have digit : ∀ n < 16, upperHex n ≠ '#' := by decide
  have h := digit (b.toNat / 16) (by have := b.toNat_lt; omega)
  have h' := digit (b.toNat % 16) (Nat.mod_lt _ (by decide))
  simp [encodeByte, h.symm, h'.symm]

theorem not_mem_encode {set : List Char} (h : '#' ∈ set) (cs : List Char) :
    '#' ∉ encode set cs := by
  intro hm
  have ⟨c, _, hc⟩ := List.mem_flatMap.mp hm
  unfold encodeChar at hc
  split at hc
  case isTrue =>
    have ⟨b, _, hb⟩ := List.mem_flatMap.mp hc
    exact not_mem_encodeByte b hb
  case isFalse hn =>
    cases List.mem_singleton.mp hc
    simp [h] at hn

end Percent

theorem Domain.not_mem_of_toAscii? (h : toAscii? cs = some name) : '#' ∉ name := by
  have ⟨labels, _, h⟩ := Option.bind_eq_some_iff.mp h
  dsimp only at h
  split at h
  case isTrue => cases h
  case isFalse hf =>
    cases h
    intro hm
    have : ¬isForbidden '#' := by simp_all
    exact this (by decide)

namespace Host

theorem not_mem_join (ps : List Nat) : '#' ∉ (":".intercalate (ps.map hexText)).toList := by
  rw [String.toList_intercalate]
  refine not_mem_intercalate (by decide) ?_
  simpa [hexText] using fun p _ => hash_not_mem_toDigits (b := 16) (by decide) p

theorem not_mem_text (h : parse? cs = some host) : '#' ∉ host.text.toList := by
  cases host
  case domain name =>
    unfold parse? at h
    split at h
    case h_1 => split at h <;> simp at h
    case h_2 =>
      have ⟨_, _, h⟩ := Option.bind_eq_some_iff.mp h
      have ⟨_, ha, h⟩ := Option.bind_eq_some_iff.mp h
      split_ifs at h
      · simp at h
      · cases h
        simpa [text] using Domain.not_mem_of_toAscii? ha
  case ipv4 n =>
    rw [text, String.toList_intercalate]
    refine not_mem_intercalate (by decide) ?_
    simp [hash_not_mem_toDigits]
  case ipv6 pieces =>
    simp only [text, String.toList_append, List.mem_append, not_or]
    refine ⟨⟨by decide, ?_⟩, by decide⟩
    split
    case isTrue => exact not_mem_join _
    case isFalse =>
      simp only [String.toList_append, List.mem_append, not_or]
      exact ⟨⟨not_mem_join _, by decide⟩, not_mem_join _⟩

end Host

namespace WebAddress

variable {a : WebAddress}

theorem not_mem_segments {parts done : List (List Char)} (h : ∀ s ∈ done, '#' ∉ s) :
    ∀ s ∈ segments parts done, '#' ∉ s := by
  have encoded (s : List Char) : '#' ∉ Percent.encode pathSet s :=
    Percent.not_mem_encode (by decide) s
  have tail {done : List (List Char)} (h : ∀ s ∈ done, '#' ∉ s) : ∀ s ∈ done.tail, '#' ∉ s :=
    fun s hs => h s (List.mem_of_mem_tail hs)
  have push {s : List Char} {done : List (List Char)} (hs : '#' ∉ s) (h : ∀ s ∈ done, '#' ∉ s) :
      ∀ s' ∈ (s :: done).reverse, '#' ∉ s' := by
    intro s' hm
    cases List.mem_reverse.mp hm
    case head => exact hs
    case tail hm => exact h s' hm
  fun_induction segments parts done
  case case1 => simpa using h
  case case2 => exact push (by simp) (tail h)
  case case3 => exact push (by simp) h
  case case4 s done _ _ => exact push (encoded s) h
  case case5 ih => exact ih (tail h)
  case case6 ih => exact ih h
  case case7 s rest done _ _ _ ih => exact ih (List.forall_mem_cons.mpr ⟨encoded s, h⟩)

-- The parts of an address in front of the fragment.
structure Plain (a : WebAddress) : Prop where
  user     : '#' ∉ a.user
  password : '#' ∉ a.password
  host     : '#' ∉ a.host.text.toList
  path     : ∀ s ∈ a.path, '#' ∉ s
  query    : ∀ q ∈ a.query, '#' ∉ q

theorem plain_of_ofRest? {secure : Bool} (h : ofRest? secure rest = some a) : a.Plain := by
  unfold ofRest? at h
  dsimp only at h
  split at h
  case isTrue => cases h
  case isFalse =>
    have ⟨host, hh, h⟩ := Option.bind_eq_some_iff.mp h
    have ⟨port, _, h⟩ := Option.bind_eq_some_iff.mp h
    cases h
    exact {
      user := Percent.not_mem_encode (by decide) _
      password := Percent.not_mem_encode (by decide) _
      host := Host.not_mem_text hh
      path := not_mem_segments (by simp)
      query := by simpa using fun q _ => Percent.not_mem_encode (by decide) q }

theorem plain_of_parse? (h : parse? s = some a) : a.Plain := by
  unfold parse? at h
  split at h
  case h_1 | h_2 => exact plain_of_ofRest? h
  case h_3 => cases h

theorem Plain.not_mem_requestText (h : a.Plain) : '#' ∉ a.requestText.toList := by
  simp only [requestText, String.toList_append, List.mem_append, not_or]
  refine ⟨⟨⟨⟨⟨?scheme, ?credentials⟩, h.host⟩, ?port⟩, ?path⟩, ?query⟩
  case scheme => cases a.secure <;> decide
  case credentials =>
    simp only [String.toList_ofList, credentials]
    split_ifs <;> simp [h.user, h.password]
  case port =>
    cases a.port
    case none => simp
    case some n => simp [hash_not_mem_toDigits]
  case path => simpa using h.path
  case query =>
    cases hq : a.query
    case none => simp
    case some q => simpa using h.query q hq

-- What a server is asked for is all of the address but its fragment.
theorem requestText_address (h : parse? s = some a) : a.address.requestText = a.requestText := by
  have hn := (plain_of_parse? h).not_mem_requestText
  have hp : ∀ c ∈ a.requestText.toList, decide (c ≠ '#') = true :=
    fun c hc => decide_eq_true fun he => hn (he ▸ hc)
  rw [Address.requestText, address, text, String.toList_append, List.takeWhile_append_of_pos hp]
  cases a.fragment <;> simp

end WebAddress
end ProposalLint.Url

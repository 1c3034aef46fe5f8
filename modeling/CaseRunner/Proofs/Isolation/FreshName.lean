import CaseRunner.Isolation.Lookup
import Mathlib.Data.Finset.Card

/-!
# `CaseRunner.Proofs.Isolation.FreshName`: the name of a new test set is free

The candidates for a name are all different (`candidate_injective`), so candidates that are taken
are as many names (`le_card_of_taken`), and of one candidate more than there are taken names at
least one is free. The search finds the first of them (`freeName_spec`).
-/

set_option autoImplicit false

namespace CaseRunner.Isolation

/-- A numbered candidate is longer than the base. -/
theorem candidate_ne_base (base : String) {index : Nat} (h : index ≠ 0) :
    candidate base index ≠ base := by
  rw [candidate, if_neg h]
  intro heq
  have hlength := congrArg String.length heq
  simp only [String.length_append] at hlength
  -- The space between the base and the number is one character at least.
  have hspace : (toString " ").length = 1 := by decide
  have hbase : (toString base).length = base.length := rfl
  omega

/-- Different numbers give different candidates. -/
theorem candidate_injective (base : String) {i j : Nat} (h : candidate base i = candidate base j) :
    i = j := by
  by_cases hi : i = 0
  · subst hi
    by_cases hj : j = 0
    · exact hj.symm
    · exact absurd h.symm (candidate_ne_base base hj)
  · by_cases hj : j = 0
    · subst hj
      exact absurd h (candidate_ne_base base hi)
    -- Both are the base with a number, which can be read off the digits after the base.
    · rw [candidate, candidate, if_neg hi, if_neg hj] at h
      have hlist := congrArg String.toList h
      simp only [String.toList_append, List.append_assoc, List.append_cancel_left_eq] at hlist
      have hdigits := congrArg (fun digits => Nat.ofDigitChars 10 digits 0) hlist
      simpa using hdigits

/-- The search ends at a candidate before which all are taken. That one is free, unless the
search has come to the end of its range. -/
theorem firstFree_spec (taken : List String) (base : String) (index count : Nat) :
    ∃ n, firstFree taken base index count = candidate base n ∧ index ≤ n ∧
      (∀ m, index ≤ m → m < n → candidate base m ∈ taken) ∧
      (candidate base n ∉ taken ∨ n = index + count) := by
  induction count generalizing index with
  | zero => exact ⟨index, rfl, Nat.le_refl index, fun m _ _ => by omega, .inr rfl⟩
  | succ count ih =>
      rw [firstFree]
      split
      · rename_i htaken
        obtain ⟨n, hn, hle, hbefore, hend⟩ := ih (index + 1)
        refine ⟨n, hn, by omega, fun m hm hmn => ?_, hend.imp_right fun h => by omega⟩
        by_cases hfirst : m = index
        · rw [hfirst]
          exact htaken
        · exact hbefore m (by omega) hmn
      · rename_i hfree
        exact ⟨index, rfl, Nat.le_refl index, fun m _ _ => by omega, .inl hfree⟩

/-- Candidates that are taken are as many names. -/
theorem le_card_of_taken {taken : List String} {base : String} {count : Nat}
    (h : ∀ i < count, candidate base i ∈ taken) : count ≤ taken.toFinset.card := by
  have hsubset : (Finset.range count).image (candidate base) ⊆ taken.toFinset := by
    intro name hname
    obtain ⟨i, hi, rfl⟩ := Finset.mem_image.mp hname
    exact List.mem_toFinset.mpr (h i (Finset.mem_range.mp hi))
  have hcard := Finset.card_le_card hsubset
  rwa [Finset.card_image_of_injective _ fun _ _ => candidate_injective base,
    Finset.card_range] at hcard

/-- Not all candidates up to a number can be taken by fewer names. -/
theorem exists_candidate_not_mem (taken : List String) (base : String) :
    ∃ n ≤ taken.length, candidate base n ∉ taken := by
  by_contra hall
  have hmem : ∀ n < taken.length + 1, candidate base n ∈ taken := by
    simpa [Nat.lt_succ_iff] using hall
  have hcount := (le_card_of_taken hmem).trans taken.toFinset_card_le
  omega

/-- The name that is given is the first candidate that is free. -/
theorem freeName_spec (taken : List String) (base : String) :
    ∃ n, freeName taken base = candidate base n ∧ candidate base n ∉ taken ∧
      ∀ m < n, candidate base m ∈ taken := by
  obtain ⟨n, hn, -, hbefore, hend⟩ := firstFree_spec taken base 0 taken.length
  refine ⟨n, hn, ?_, fun m hm => hbefore m (Nat.zero_le m) hm⟩
  rcases hend with hfree | rfl
  · exact hfree
  -- At the end of its range the search has left all candidates but one behind it as taken, so
  -- the one that is free is the last.
  · obtain ⟨free, hle, hfree⟩ := exists_candidate_not_mem taken base
    by_cases hlast : free = 0 + taken.length
    · rw [← hlast]
      exact hfree
    · exact absurd (hbefore free (Nat.zero_le free) (by omega)) hfree

theorem freeName_not_mem (taken : List String) (base : String) : freeName taken base ∉ taken := by
  obtain ⟨n, hn, hfree, -⟩ := freeName_spec taken base
  rw [hn]
  exact hfree

end CaseRunner.Isolation

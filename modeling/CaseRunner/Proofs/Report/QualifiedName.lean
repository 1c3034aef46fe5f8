import CaseRunner.Proofs.Text.Numeral
import CaseRunner.Report.CaseResult

/-!
# `CaseRunner.Proofs.Report.QualifiedName`: name and number tell results apart

A qualified name is the name of a test case, an underscore and its number. The name may have
underscores in it and may end in what looks like a number. The number has no underscore, so what
stands before and after the last one can be told (`append_cons_inj_of_last`), and a number can be
told from its digits and its sign. So results have the same qualified name if and only if they have
the same name and the same number (`qualifiedName_inj`).
-/

set_option autoImplicit false

namespace CaseRunner.Report

/-- What stands before and after the last separator is the same if the whole is. -/
theorem append_cons_inj_of_last {α : Type} {separator : α} {before before' after after' : List α}
    (hlast : separator ∉ after) (hlast' : separator ∉ after') :
    before ++ separator :: after = before' ++ separator :: after' ↔
      before = before' ∧ after = after' := by
  constructor
  · intro h
    rcases List.append_eq_append_iff.mp h with ⟨more, rfl, hrest⟩ | ⟨more, rfl, hrest⟩
    -- Where one side has more before its separator, the other side has that separator after its
    -- own one.
    · cases more with
      | nil => simpa using hrest
      | cons c more =>
          rw [List.cons_append, List.cons.injEq] at hrest
          exact absurd (hrest.2 ▸ List.mem_append_cons_self) hlast
    · cases more with
      | nil => simpa using hrest.symm
      | cons c more =>
          rw [List.cons_append, List.cons.injEq] at hrest
          exact absurd (hrest.2 ▸ List.mem_append_cons_self) hlast'
  · rintro ⟨rfl, rfl⟩
    rfl

namespace CaseResult

theorem toList_qualifiedName (r : CaseResult) :
    r.qualifiedName.toList = r.name.toList ++ '_' :: r.id.repr.toList := by
  show (r.name ++ "_" ++ r.id.repr).toList = _
  rw [String.toList_append, String.toList_append, List.append_assoc]
  rfl

/-- Results have the same qualified name if and only if they have the same name and the same
number. -/
theorem qualifiedName_inj (r s : CaseResult) :
    r.qualifiedName = s.qualifiedName ↔ r.name = s.name ∧ r.id = s.id := by
  have hnumber (n : Int) : '_' ∉ n.repr.toList := by
    intro hmem
    have hdigit := Text.isDigit_of_mem_repr hmem (by decide)
    cases hdigit
  rw [← String.toList_inj, toList_qualifiedName, toList_qualifiedName,
    append_cons_inj_of_last (hnumber r.id) (hnumber s.id), String.toList_inj, String.toList_inj,
    Text.repr_injective.eq_iff]

/-- The name may end in a number of its own. -/
example : (ofCase "Brake_1" (-2)).qualifiedName = "Brake_1_-2" := by decide

end CaseResult

end CaseRunner.Report

import CaseRunner.Proofs.Remote.Replay

/-!
# `CaseRunner.Proofs.Remote.Listing`: the test sets of a project

A project lists its test sets. Two kinds of calls change such a list, each that of one
project (`Call.listed?`): a new test set comes to the end, and a test set that is deleted
takes all of its name with it. What a test set holds only grows, and a new one gets a number
that no other one has.

* `testSets_replay`: other calls leave the list as it is.
* `testSets_replay_create`: one call that creates a test set among other calls adds it.
* `testCases_replay`: what a test set holds changes only by calls that add to it.
-/

set_option autoImplicit false

namespace CaseRunner.Remote

/-- The project whose list of test sets the call changes. -/
def Call.listed? : Call → Option ProjectRef
  | .createTestSet p _ | .deleteTestSet p _ => some p
  | _ => none

/-- A call for the list of a project is a change. -/
theorem Call.mutates_of_listed? {call : Call} {q : ProjectRef} (h : call.listed? = some q) :
    call.mutates = true := by
  cases call with
  | createTestSet p name => rfl
  | deleteTestSet p set => rfl
  | _ => cases h

namespace History

/-- No call of the history is for the list of a project. -/
def Unlisted (history : History) : Prop := ∀ record ∈ history, record.call.listed? = none

theorem unlisted_append {later earlier : History} :
    Unlisted (later ++ earlier) ↔ later.Unlisted ∧ earlier.Unlisted := by
  simp only [Unlisted, List.mem_append]
  exact ⟨fun h => ⟨fun r hr => h r (.inl hr), fun r hr => h r (.inr hr)⟩,
    fun h r hr => hr.elim (h.1 r) (h.2 r)⟩

/-- Changes alone can be for a list. -/
theorem unlisted_of_changes {history : History}
    (h : ∀ call ∈ history.changes, call.listed? = none) : history.Unlisted := by
  intro record hmem
  cases hlisted : record.call.listed? with
  | none => rfl
  | some q =>
      rw [← hlisted]
      exact h _ (mem_changes hmem (Call.mutates_of_listed? hlisted))

/-- The calls for the lists of projects, the last one first. -/
def forLists (history : History) : History := history.filter (·.call.listed?.isSome)

theorem mem_forLists {history : History} {record : CallRecord} :
    record ∈ history.forLists ↔ record ∈ history ∧ record.call.listed?.isSome = true :=
  List.mem_filter

theorem forLists_append (later earlier : History) :
    forLists (later ++ earlier) = later.forLists ++ earlier.forLists :=
  List.filter_append later earlier

theorem Unlisted.forLists {history : History} (h : history.Unlisted) : history.forLists = [] :=
  List.filter_eq_nil_iff.mpr fun record hmem => by simp [h record hmem]

theorem Quiet.unlisted {history : History} (h : history.Quiet) : history.Unlisted := by
  intro record hmem
  cases hlisted : record.call.listed? with
  | none => rfl
  | some q => exact absurd hmem (h.not_mem (Call.mutates_of_listed? hlisted))

end History

namespace World

variable {σ : Type} {w : World σ} {history : History} {number : Nat}

/-! ### Changed projects -/

theorem project_updateProject (w : World σ) (changed : Nat) (change : Project → Project)
    (number : Nat) :
    (w.updateProject changed change).project number =
      if changed = number ∧ number < w.projects.length then change (w.project number)
      else w.project number := by
  simp only [project, updateProject, List.getD, List.getElem?_modify]
  by_cases hlen : number < w.projects.length
  · rw [List.getElem?_eq_getElem hlen]
    by_cases heq : changed = number <;> simp [heq, hlen]
  · rw [List.getElem?_eq_none (Nat.le_of_not_lt hlen)]
    simp [hlen]

/-- A change of a project that is no change of its list. -/
theorem testSets_updateProject (w : World σ) (changed : Nat) {change : Project → Project}
    (h : ∀ project, (change project).testSets = project.testSets) (number : Nat) :
    ((w.updateProject changed change).project number).testSets =
      (w.project number).testSets := by
  rw [project_updateProject]
  split
  · exact h _
  · rfl

/-- Changing a configuration leaves the test sets of all projects as they are. -/
theorem testSets_updateConfiguration (w : World σ) (c : ConfigRef)
    (change : Configuration → Configuration) (number : Nat) :
    ((w.updateConfiguration c change).project number).testSets = (w.project number).testSets :=
  w.testSets_updateProject c.project.number (fun _ => by rfl) number

/-! ### One call -/

/-- A call that is not for the list of a project leaves it as it is. -/
theorem testSets_obey (w : World σ) {call : Call}
    (h : ∀ p, call.listed? = some p → p.number ≠ number) :
    ((w.obey call).project number).testSets = (w.project number).testSets := by
  cases call with
  | createTestSet p name =>
      show ((w.updateProject p.number _).project number).testSets = _
      rw [project_updateProject, if_neg fun hp => h p rfl hp.1]
  | deleteTestSet p set =>
      rw [obey, project_updateProject, if_neg fun hp => h p rfl hp.1]
  | close p => exact w.testSets_updateProject p.number (fun _ => by rfl) number
  | setDataDir c | setReportDir c => exact w.testSets_updateConfiguration c _ number
  | setTestSet item => exact w.testSets_updateConfiguration item.config _ number
  | _ => rfl

/-- A test set that is created comes to the end of the list. -/
theorem testSets_create (w : World σ) (p : ProjectRef) (name : String)
    (h : p.number < w.projects.length) :
    ((w.obey (.createTestSet p name)).project p.number).testSets =
      (w.project p.number).testSets ++ [⟨w.contents.length, name⟩] := by
  show ((w.updateProject p.number _).project p.number).testSets = _
  rw [project_updateProject, if_pos ⟨rfl, h⟩]

/-- A test set that is deleted is not in the list any more. -/
theorem testSets_delete (w : World σ) (p : ProjectRef) (set : TestSetRef)
    (h : p.number < w.projects.length) :
    ((w.obey (.deleteTestSet p set)).project p.number).testSets =
      (w.project p.number).testSets.filter fun other => other.name ≠ set.name := by
  rw [obey, project_updateProject, if_pos ⟨rfl, h⟩]

/-- No call loads a project or drops one. -/
theorem projects_length_obey (w : World σ) (call : Call) :
    (w.obey call).projects.length = w.projects.length := by
  cases call <;> simp [obey, updateConfiguration, updateProject]

/-- What a test set holds changes only by a call that adds to it. -/
theorem testCases_obey (w : World σ) {call : Call} {set : TestSetRef}
    (h : set.number < w.contents.length)
    (hother : ∀ other testCase, call = .addTestCase other testCase → other.number ≠ set.number) :
    set.number < (w.obey call).contents.length ∧
      (w.obey call).testCases set = w.testCases set := by
  cases call with
  | createTestSet p name =>
      refine ⟨?_, ?_⟩
      · show set.number < (w.contents ++ [[]]).length
        rw [List.length_append]
        omega
      · show (w.contents ++ [[]]).getD set.number [] = w.contents.getD set.number []
        rw [List.getD, List.getElem?_append_left h, List.getD]
  | addTestCase other testCase =>
      have hne := hother other testCase rfl
      refine ⟨?_, ?_⟩
      · show set.number < (w.contents.modify other.number _).length
        rw [List.length_modify]
        exact h
      · show (w.contents.modify other.number _).getD set.number [] = w.contents.getD set.number []
        rw [List.getD, List.getElem?_modify, List.getD]
        simp only [if_neg hne, id_map']
  | _ => exact ⟨h, rfl⟩

/-! ### All calls of a history -/

theorem projects_length_replay (w : World σ) (history : History) :
    (w.replay history).projects.length = w.projects.length := by
  induction history with
  | nil => rfl
  | cons record history ih =>
      rw [replay]
      split
      · rw [projects_length_obey, ih]
      · exact ih

/-- If no call for the list of a project was granted, the list is as it was. -/
theorem testSets_replay (w : World σ)
    (h : ∀ record ∈ history, record.verdict = .granted →
      ∀ p, record.call.listed? = some p → p.number ≠ number) :
    ((w.replay history).project number).testSets = (w.project number).testSets := by
  induction history with
  | nil => rfl
  | cons record history ih =>
      have hrest := ih fun r hr => h r (List.mem_cons_of_mem record hr)
      rw [replay]
      split
      · rename_i hgranted
        rw [testSets_obey _ (h record List.mem_cons_self hgranted), hrest]
      · exact hrest

theorem testSets_replay_unlisted (w : World σ) (h : history.Unlisted) (number : Nat) :
    ((w.replay history).project number).testSets = (w.project number).testSets := by
  refine w.testSets_replay fun record hmem _ q hlisted => ?_
  rw [h record hmem] at hlisted
  cases hlisted

/-- If one call of a history is for a list and creates a test set, that one is at the end. -/
theorem testSets_replay_create (w : World σ) {p : ProjectRef} {later earlier : History}
    (hlater : later.Unlisted) (hearlier : earlier.Unlisted) (hp : p.number < w.projects.length)
    (name : String) :
    ∃ set, set.name = name ∧
      ((w.replay (later ++ ⟨.createTestSet p name, .granted⟩ :: earlier)).project
        p.number).testSets = (w.project p.number).testSets ++ [set] := by
  refine ⟨⟨(w.replay earlier).contents.length, name⟩, rfl, ?_⟩
  have hlength : p.number < (w.replay earlier).projects.length := by
    rwa [projects_length_replay]
  rw [replay_append, testSets_replay_unlisted _ hlater, replay_granted,
    testSets_create _ _ _ hlength, testSets_replay_unlisted _ hearlier]

/-- If test cases were added to other test sets alone, this one holds what it held. -/
theorem testCases_replay (w : World σ) {set : TestSetRef} (hset : set.number < w.contents.length)
    (h : ∀ record ∈ history, ∀ other testCase, record.call = .addTestCase other testCase →
      other.number ≠ set.number) :
    set.number < (w.replay history).contents.length ∧
      (w.replay history).testCases set = w.testCases set := by
  induction history with
  | nil => exact ⟨hset, rfl⟩
  | cons record history ih =>
      obtain ⟨hlength, hsame⟩ := ih fun r hr => h r (List.mem_cons_of_mem record hr)
      rw [replay]
      split
      · obtain ⟨hlength', hsame'⟩ := testCases_obey _ hlength (h record List.mem_cons_self)
        exact ⟨hlength', hsame'.trans hsame⟩
      · exact ⟨hlength, hsame⟩

end World

end CaseRunner.Remote

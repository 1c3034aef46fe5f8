import CaseRunner.Proofs.Isolation.Compensation
import CaseRunner.Proofs.Isolation.FreshName
import CaseRunner.Proofs.Isolation.Restoration

/-!
# `CaseRunner.Proofs.Isolation.TestSets`: the test sets that were there

A case run creates at most one test set and deletes no other one, since the name of the
temporary test set is free when it is created (`freeName_not_mem`) and test sets are deleted
by their name. If it is created, its deletion is asked for. So the list of the project is as
before, or it has the temporary test set at its end if that was refused
(`runCase_keeps_testSets`). What the old test sets hold and all other configurations are as
before in any case, even where the configuration of the run could not be put back.
-/

set_option autoImplicit false

namespace CaseRunner.Remote

/-- A test set of the project was created. -/
def History.CreatedSet (made : History) (p : ProjectRef) : Prop :=
  ∃ name, ⟨.createTestSet p name, .granted⟩ ∈ made

/-- A test set of the project was deleted. -/
def History.DeletedSet (made : History) (p : ProjectRef) : Prop :=
  ∃ set, ⟨.deleteTestSet p set, .granted⟩ ∈ made

/-- The calls `made` have left the test sets as they were between two worlds, but for one
more at the end of the project's list if its deletion was asked for and refused. A test set that
was created is the one for which that is asked, once and after it was created; there is no other
call for a list then. -/
structure World.KeepsTestSets {σ τ : Type} (w : World σ) (p : ProjectRef) (made : History)
    (w' : World τ) : Prop where
  deletion : ∀ name, ⟨.createTestSet p name, .granted⟩ ∈ made → ∃ v, made.forLists =
    [⟨.deleteTestSet p ⟨w.contents.length, name⟩, v⟩, ⟨.createTestSet p name, .granted⟩]
  noDeletion : ¬made.CreatedSet p → ∀ q set v, ⟨.deleteTestSet q set, v⟩ ∉ made
  kept : ¬made.CreatedSet p ∨ made.DeletedSet p →
    (w'.project p.number).testSets = (w.project p.number).testSets
  left : ∀ set v, ⟨.deleteTestSet p set, v⟩ ∈ made → v ≠ .granted → ∃ other,
    (w'.project p.number).testSets = (w.project p.number).testSets ++ [other] ∧
      other.name = set.name ∧ set.name ∉ w.takenNames p
  others : ∀ number, number ≠ p.number →
    (w'.project number).testSets = (w.project number).testSets
  cases : ∀ set, set.number < w.contents.length → w'.testCases set = w.testCases set

end CaseRunner.Remote

namespace CaseRunner.Isolation

open CaseRunner.Config (CaseRequest)
open CaseRunner.Files (FileStore CopyBack)
open CaseRunner.Remote
open CaseRunner.Remote.Action

variable {σ : Type} {s : Surroundings} {w w' : World σ} {project : ProjectRef}
  {config c : ConfigRef} {testCase : TestCase} {request : CaseRequest} {p : Parts}

/-! ### The calls for test sets -/

/-- Of the planned calls, one is for the list of a project, and it creates the test set. -/
theorem listed_of_planned {scope : Scope} {set : TestSetRef} {dataDir reportDir : FilePath}
    {number : Nat} {call : Call} {q : ProjectRef}
    (hcall : call ∈ plan project config testCase scope set dataDir reportDir ++ [.cancel number])
    (hlisted : call.listed? = some q) : call = .createTestSet project set.name := by
  simp only [plan, beforeRun, preparing, List.mem_append, List.mem_cons, List.mem_map,
    List.not_mem_nil, or_false] at hcall
  rcases hcall with (((rfl | rfl | rfl) | rfl | ⟨item, -, rfl⟩) | rfl) | rfl
  · cases hlisted
  · cases hlisted
  · rfl
  · cases hlisted
  · cases hlisted
  · cases hlisted
  · cases hlisted

/-- The planned calls add to the one test set alone. -/
theorem set_of_planned {scope : Scope} {set other : TestSetRef} {dataDir reportDir : FilePath}
    {number : Nat} {added : TestCase}
    (hcall : .addTestCase other added ∈
      plan project config testCase scope set dataDir reportDir ++ [.cancel number]) :
    other = set := by
  simp only [plan, beforeRun, preparing, List.mem_append, List.mem_cons, List.mem_map,
    List.not_mem_nil, or_false] at hcall
  have hboth : other = set ∧ added = testCase := by simpa using hcall
  exact hboth.1

/-- The call by which a planned test set is created is the only one for a list. -/
theorem not_listed_of_split {scope : Scope} {set : TestSetRef} {dataDir reportDir : FilePath}
    {number : Nat} {before after : List Call} {call : Call}
    (hsplit : before ++ .createTestSet project set.name :: after <+:
      plan project config testCase scope set dataDir reportDir ++ [.cancel number])
    (hcall : call ∈ before ∨ call ∈ after) : call.listed? = none := by
  have hplan : plan project config testCase scope set dataDir reportDir ++ [.cancel number] =
      [.setDataDir config dataDir.text, .setReportDir config reportDir.text] ++
        .createTestSet project set.name ::
          (preparing testCase scope set ++ [.run config, .cancel number]) := by
    simp [plan, beforeRun]
  have hbefore (call : Call)
      (h : call ∈ [.setDataDir config dataDir.text, .setReportDir config reportDir.text]) :
      call.listed? = none := by
    simp only [List.mem_cons, List.not_mem_nil, or_false] at h
    rcases h with rfl | rfl <;> rfl
  have hafter (call : Call)
      (h : call ∈ preparing testCase scope set ++ [.run config, .cancel number]) :
      call.listed? = none := by
    simp only [preparing, List.mem_append, List.mem_cons, List.mem_map, List.not_mem_nil,
      or_false] at h
    rcases h with (rfl | ⟨item, -, rfl⟩) | rfl | rfl <;> rfl
  rw [hplan] at hsplit
  obtain ⟨rfl, -, hbegin⟩ := split_unique (p := fun call => call.listed?.isSome) hsplit rfl
    (fun call h => by simp [hbefore call h]) (fun call h => by simp [hafter call h])
  rcases hcall with h | h
  · exact hbefore call h
  · exact hafter call (hbegin.subset h)

section
variable [FileStore σ]

/-- Every call of a case run that changes something is planned, puts something back or
deletes the temporary test set. -/
theorem RunsBy.call_cases (h : RunsBy s w project request config testCase p w') :
    ∃ dataDir reportDir, ∀ record ∈ p.made, record.call.mutates = true →
      record.call ∈ plan project config testCase (scopeOf w config) (tempSetOf w project request)
          dataDir reportDir ++ [.cancel w.runs.length] ∨
        record.call ∈ (scopeOf w config).restoring config ∨
        record.call = .deleteTestSet project (tempSetOf w project request) ∧
          record ∈ p.cleanup ∧ p.applied.tempTestSet = some (tempSetOf w project request) := by
  obtain ⟨dataDir, reportDir, hplan, -⟩ := h.forward.attempted
  refine ⟨dataDir, reportDir, fun record hmem hchange => ?_⟩
  have hsequence {part : History} (hr : record ∈ part) : record.call ∈ part.sequence :=
    History.mem_sequence.mpr ⟨record.verdict, hr⟩
  simp only [Parts.made, List.mem_append] at hmem
  rcases hmem with ((hmem | hmem) | hmem) | hmem | hmem
  · have hcall := hsequence hmem
    rw [h.cleanupCalls, Applied.cleaningUp] at hcall
    rcases h.forward.created with ⟨hset, -⟩ | ⟨hset, -⟩
    · rw [hset] at hcall
      simp only [List.mem_cons, List.not_mem_nil, or_false] at hcall
      rcases hcall with hcall | hcall
      · rw [hcall] at hchange
        cases hchange
      · exact .inr (.inr ⟨hcall, hmem, hset⟩)
    · rw [hset] at hcall
      cases hcall
  · exact .inr (.inl (h.mem_undo.mp (hsequence (List.mem_append_left _ hmem))))
  · exact .inr (.inl (h.mem_undo.mp (hsequence (List.mem_append_right _ hmem))))
  · exact .inl (hplan.subset (History.mem_changes hmem hchange))
  · exact absurd hmem (h.quiet.not_mem hchange)

/-- What puts something back changes a setting, and no list of test sets. -/
theorem settingChange?_of_restoring {scope : Scope} {call : Call}
    (h : call ∈ scope.restoring config) : call.settingChange?.isSome := by
  simp only [Scope.restoring, Scope.restoringDirs, List.mem_append, List.mem_map, List.mem_cons,
    List.not_mem_nil, or_false] at h
  rcases h with ⟨a, -, rfl⟩ | rfl | rfl <;> rfl

theorem listed?_of_settingChange? {call : Call} (h : call.settingChange?.isSome) :
    call.listed? = none := by
  cases call with
  | createTestSet | deleteTestSet => cases h
  | _ => rfl

/-- A call of a case run for the list of a project creates the temporary test set or deletes
it, and it is deleted only after it was created. -/
theorem RunsBy.listed_cases (h : RunsBy s w project request config testCase p w')
    {record : CallRecord} (hmem : record ∈ p.made) {q : ProjectRef}
    (hlisted : record.call.listed? = some q) :
    record.call = .createTestSet project (tempSetOf w project request).name ∨
      record.call = .deleteTestSet project (tempSetOf w project request) ∧
        record ∈ p.cleanup ∧ p.applied.tempTestSet = some (tempSetOf w project request) := by
  obtain ⟨dataDir, reportDir, hcalls⟩ := h.call_cases
  rcases hcalls record hmem (Call.mutates_of_listed? hlisted) with hplan | hrestoring | hdelete
  · exact .inl (listed_of_planned hplan hlisted)
  · rw [listed?_of_settingChange? (settingChange?_of_restoring hrestoring)] at hlisted
    cases hlisted
  · exact .inr hdelete

/-- The project of a case run that found its configuration is there. -/
theorem RunsBy.project_lt (h : RunsBy s w project request config testCase p w') :
    project.number < w.projects.length := by
  obtain ⟨hproject, -, hconfig⟩ := World.configNamed?_eq_some h.configFound
  by_cases hlt : project.number < w.projects.length
  · exact hlt
  · rw [World.configuration?, hproject, List.getElem?_eq_none (Nat.le_of_not_lt hlt)] at hconfig
    cases hconfig

/-- Whether a test set was created is whether the temporary one is recorded as created. -/
theorem RunsBy.createdSet_iff (h : RunsBy s w project request config testCase p w') :
    p.made.CreatedSet project ↔ p.applied.tempTestSet = some (tempSetOf w project request) := by
  constructor
  · rintro ⟨name, hmem⟩
    rcases h.listed_cases hmem rfl with hcall | ⟨hcall, -⟩
    · rw [← h.created_iff, ← hcall]
      exact hmem
    · cases hcall
  · intro hset
    exact ⟨_, h.created_iff.mpr hset⟩

/-- Putting things back is not for a list, as long as the temporary test set is not deleted. -/
theorem RunsBy.undo_unlisted (h : RunsBy s w project request config testCase p w') :
    History.Unlisted p.undo := by
  intro record hmem
  have hcall := h.mem_undo.mp (History.mem_sequence.mpr ⟨record.verdict, hmem⟩)
  exact listed?_of_settingChange? (settingChange?_of_restoring hcall)

/-- Where the temporary test set was created, the call that did it is the only one for a list
among the changes. -/
theorem RunsBy.forward_split (h : RunsBy s w project request config testCase p w')
    (hset : p.applied.tempTestSet = some (tempSetOf w project request)) :
    ∃ later earlier : History, p.forward = later ++
        ⟨.createTestSet project (tempSetOf w project request).name, .granted⟩ :: earlier ∧
      later.Unlisted ∧ earlier.Unlisted := by
  obtain ⟨dataDir, reportDir, hplan, -⟩ := h.forward.attempted
  have hcreated : ⟨.createTestSet project (tempSetOf w project request).name, .granted⟩ ∈
      p.forward := by
    rcases h.forward.created with ⟨-, hmem⟩ | ⟨hnone, -⟩
    · exact hmem
    · cases hset.symm.trans hnone
  obtain ⟨later, earlier, hforward⟩ := List.append_of_mem hcreated
  have hchanges : p.forward.changes = History.changes earlier ++
      .createTestSet project (tempSetOf w project request).name :: History.changes later := by
    rw [hforward, ← List.singleton_append, History.changes_append, History.changes_append,
      List.append_assoc]
    rfl
  rw [hchanges] at hplan
  exact ⟨later, earlier, hforward,
    History.unlisted_of_changes fun call hcall => not_listed_of_split hplan (.inr hcall),
    History.unlisted_of_changes fun call hcall => not_listed_of_split hplan (.inl hcall)⟩

/-- Before it is deleted, the temporary test set is at the end of the list. -/
theorem RunsBy.testSets_created (h : RunsBy s w project request config testCase p w')
    (hset : p.applied.tempTestSet = some (tempSetOf w project request)) :
    ∃ set, set.name = (tempSetOf w project request).name ∧
      ((w.replay (p.undo ++ (p.forward ++ p.asked))).project project.number).testSets =
        (w.project project.number).testSets ++ [set] := by
  obtain ⟨later, earlier, hforward, hlater, hearlier⟩ := h.forward_split hset
  have hparts : p.undo ++ (p.forward ++ p.asked) = (p.undo ++ later) ++
      (⟨.createTestSet project (tempSetOf w project request).name, .granted⟩ ::
        (earlier ++ p.asked)) := by
    rw [hforward]
    simp
  rw [hparts]
  exact w.testSets_replay_create (History.unlisted_append.mpr ⟨h.undo_unlisted, hlater⟩)
    (History.unlisted_append.mpr ⟨hearlier, h.quiet.unlisted⟩) h.project_lt _

/-- The calls that end the temporary test set: whether it is deleted is what becomes of the
last one. -/
theorem RunsBy.cleanup_eq (h : RunsBy s w project request config testCase p w')
    (hset : p.applied.tempTestSet = some (tempSetOf w project request)) :
    ∃ v₁ v₂, p.cleanup = [⟨.deleteTestSet project (tempSetOf w project request), v₂⟩,
        ⟨.setName (tempSetOf w project request), v₁⟩] ∧
      (p.made.DeletedSet project ↔ v₂ = .granted) := by
  have hcalls := h.cleanupCalls
  rw [Applied.cleaningUp, hset] at hcalls
  obtain ⟨v₁, v₂, hcleanup⟩ := History.eq_of_sequence_pair hcalls
  refine ⟨v₁, v₂, hcleanup, ?_, ?_⟩
  · rintro ⟨set, hmem⟩
    rcases h.listed_cases hmem rfl with hcall | ⟨-, hmem, -⟩
    · cases hcall
    · rw [hcleanup] at hmem
      simp only [List.mem_cons, List.not_mem_nil, or_false, CallRecord.mk.injEq] at hmem
      rcases hmem with ⟨-, hv⟩ | ⟨hcall, -⟩
      · exact hv.symm
      · cases hcall
  · rintro rfl
    refine ⟨tempSetOf w project request, ?_⟩
    simp [Parts.made, hcleanup]

/-- If a list has one test set of a name, at its end, the others are left when it is deleted. -/
theorem filter_append_named {sets : List TestSetRef} {set : TestSetRef} {name : String}
    (hname : set.name = name) (hfresh : name ∉ sets.map (·.name)) :
    (sets ++ [set]).filter (fun other => other.name ≠ name) = sets := by
  have hkept : ∀ other ∈ sets, decide (other.name ≠ name) = true := by
    intro other hother
    rw [decide_eq_true_eq]
    intro heq
    exact hfresh (List.mem_map.mpr ⟨other, hother, heq⟩)
  rw [List.filter_append, List.filter_eq_self.mpr hkept]
  simp [hname]

/-- Once created, the temporary test set is at the end of the list, unless it is deleted. -/
theorem RunsBy.testSets_of_created (h : RunsBy s w project request config testCase p w')
    (hset : p.applied.tempTestSet = some (tempSetOf w project request)) :
    (p.made.DeletedSet project →
        (w'.project project.number).testSets = (w.project project.number).testSets) ∧
      (¬p.made.DeletedSet project → ∃ set, set.name = (tempSetOf w project request).name ∧
        (w'.project project.number).testSets = (w.project project.number).testSets ++ [set]) := by
  obtain ⟨set, hname, hbefore⟩ := h.testSets_created hset
  obtain ⟨v₁, v₂, hcleanup, hdeleted⟩ := h.cleanup_eq hset
  have hmade : p.made = [⟨.deleteTestSet project (tempSetOf w project request), v₂⟩] ++
      ([⟨.setName (tempSetOf w project request), v₁⟩] ++ (p.undo ++ (p.forward ++ p.asked))) := by
    simp [Parts.made, Parts.undo, hcleanup]
  have hquiet : History.Quiet [⟨.setName (tempSetOf w project request), v₁⟩] := by
    simp [History.Quiet, Call.mutates]
  rw [hdeleted, h.tool.project, hmade, World.replay_append, World.replay_append,
    World.replay_of_quiet _ hquiet]
  constructor
  · intro hgranted
    have hlength := (w.projects_length_replay (p.undo ++ (p.forward ++ p.asked))).symm ▸
      h.project_lt
    rw [hgranted, World.replay_granted, World.replay_nil, World.testSets_delete _ _ _ hlength,
      hbefore]
    exact filter_append_named hname (freeName_not_mem (w.takenNames project) request.tempTestSet)
  · intro hrefused
    refine ⟨set, hname, ?_⟩
    rw [World.replay_of_not_granted _ _ _ hrefused, World.replay_nil, hbefore]

/-- If the temporary test set was not created, no list has changed. -/
theorem RunsBy.testSets_of_not_created (h : RunsBy s w project request config testCase p w')
    (hset : p.applied.tempTestSet ≠ some (tempSetOf w project request)) (number : Nat) :
    (w'.project number).testSets = (w.project number).testSets := by
  rw [h.tool.project]
  refine w.testSets_replay fun record hmem hgranted q hlisted => ?_
  rcases h.listed_cases hmem hlisted with hcall | ⟨-, -, hsome⟩
  · refine absurd (h.created_iff.mp ?_) hset
    rw [← hcall, ← hgranted]
    exact hmem
  · exact absurd hsome hset

/-- The lists of other projects have not changed in any case. -/
theorem RunsBy.testSets_others (h : RunsBy s w project request config testCase p w')
    {number : Nat} (hnumber : number ≠ project.number) :
    (w'.project number).testSets = (w.project number).testSets := by
  rw [h.tool.project]
  refine w.testSets_replay fun record hmem _ q hlisted => ?_
  rcases h.listed_cases hmem hlisted with hcall | ⟨hcall, -⟩
  all_goals
    rw [hcall] at hlisted
    cases hlisted
    exact hnumber.symm

/-- The test cases of a test set that was there are as before. -/
theorem RunsBy.testCases_kept (h : RunsBy s w project request config testCase p w')
    {set : TestSetRef} (hset : set.number < w.contents.length) :
    w'.testCases set = w.testCases set := by
  obtain ⟨dataDir, reportDir, hcalls⟩ := h.call_cases
  rw [h.tool.testCases]
  refine (w.testCases_replay hset fun record hmem other added hcall => ?_).2
  -- Test cases are added to the temporary test set alone, and that has the next number.
  rcases hcalls record hmem (by rw [hcall]; rfl) with hplan | hrestoring | ⟨hdelete, -⟩
  · rw [hcall] at hplan
    have hnumber := Nat.ne_of_gt hset
    rw [set_of_planned hplan]
    exact hnumber
  · have hsome := settingChange?_of_restoring hrestoring
    rw [hcall] at hsome
    cases hsome
  · rw [hcall] at hdelete
    cases hdelete

/-- Once created, the temporary test set is deleted by the one other call for a list. -/
theorem RunsBy.forLists (h : RunsBy s w project request config testCase p w')
    (hset : p.applied.tempTestSet = some (tempSetOf w project request)) :
    ∃ v, p.made.forLists = [⟨.deleteTestSet project (tempSetOf w project request), v⟩,
        ⟨.createTestSet project (tempSetOf w project request).name, .granted⟩] ∧
      (p.made.DeletedSet project ↔ v = .granted) := by
  obtain ⟨v₁, v₂, hcleanup, hdeleted⟩ := h.cleanup_eq hset
  obtain ⟨later, earlier, hforward, hlater, hearlier⟩ := h.forward_split hset
  refine ⟨v₂, ?_, hdeleted⟩
  have hmade : p.made = p.cleanup ++ (p.undo ++ (p.forward ++ p.asked)) := by
    simp [Parts.made, Parts.undo]
  have hend : History.forLists p.cleanup =
      [⟨.deleteTestSet project (tempSetOf w project request), v₂⟩] := by
    rw [hcleanup]
    rfl
  have hbegin : p.forward.forLists =
      [⟨.createTestSet project (tempSetOf w project request).name, .granted⟩] := by
    rw [hforward, ← List.singleton_append, History.forLists_append, History.forLists_append,
      hlater.forLists, hearlier.forLists]
    rfl
  rw [hmade, History.forLists_append, History.forLists_append, History.forLists_append,
    h.undo_unlisted.forLists, h.quiet.unlisted.forLists, hend, hbegin]
  rfl

theorem RunsBy.keepsTestSets (h : RunsBy s w project request config testCase p w') :
    w.KeepsTestSets project p.made w' where
  deletion name hcreated := by
    have hset := h.createdSet_iff.mp ⟨name, hcreated⟩
    obtain ⟨v, hlists, -⟩ := h.forLists hset
    refine ⟨v, ?_⟩
    -- There is one call that creates a test set, so the name is that of the temporary one.
    have hmem := History.mem_forLists.mpr ⟨hcreated, rfl⟩
    rw [hlists] at hmem
    simp only [List.mem_cons, List.not_mem_nil, or_false, CallRecord.mk.injEq, reduceCtorEq,
      false_and, false_or, Call.createTestSet.injEq, true_and, and_true] at hmem
    rw [hlists, hmem]
    rfl
  noDeletion hnone q set v hmem := by
    rcases h.listed_cases hmem rfl with hcall | ⟨-, -, hset⟩
    · cases hcall
    · exact hnone (h.createdSet_iff.mpr hset)
  kept := by
    intro hcase
    rw [h.createdSet_iff] at hcase
    by_cases hset : p.applied.tempTestSet = some (tempSetOf w project request)
    · exact (h.testSets_of_created hset).1 (hcase.resolve_left (not_not_intro hset))
    · exact h.testSets_of_not_created hset project.number
  left set v hmem hrefused := by
    rcases h.listed_cases hmem rfl with hcall | ⟨hcall, -, hset⟩
    · cases hcall
    obtain ⟨-, rfl⟩ := Call.deleteTestSet.inj hcall
    obtain ⟨v', hlists, hdeleted⟩ := h.forLists hset
    have hone := History.mem_forLists.mpr ⟨hmem, rfl⟩
    rw [hlists] at hone
    simp only [List.mem_cons, List.not_mem_nil, or_false, CallRecord.mk.injEq, reduceCtorEq,
      false_and, true_and] at hone
    obtain ⟨other, hname, hsets⟩ :=
      (h.testSets_of_created hset).2 fun hgone => hrefused (hone.trans (hdeleted.mp hgone))
    exact ⟨other, hsets, hname, freeName_not_mem (w.takenNames project) request.tempTestSet⟩
  others _ := h.testSets_others
  cases _ := h.testCases_kept

end

/-! ### Other configurations -/

/-- A call that puts something back is for the configuration of the run. -/
theorem place_of_restoring {call : Call} {setting : Setting}
    (hcall : call ∈ (scopeOf w config).restoring config) (hfor : call.isFor c setting = true) :
    c.place = config.place := by
  obtain ⟨d, value, hchange, hplace⟩ := Call.isFor_iff.mp hfor
  simp only [Scope.restoring, Scope.restoringDirs, scopeOf, List.mem_append, List.mem_map,
    List.mem_mapIdx, List.mem_cons, List.not_mem_nil, or_false] at hcall
  rcases hcall with ⟨_, ⟨index, hindex, rfl⟩, rfl⟩ | rfl | rfl
  all_goals
    simp only [Assignment.restoring, Call.settingChange?, Option.some.injEq,
      Prod.mk.injEq] at hchange
    rw [← hplace, ← hchange.1]

/-- All other configurations are as before. -/
theorem RunsBy.configuration?_kept [FileStore σ]
    (h : RunsBy s w project request config testCase p w')
    (hc : c.place ≠ config.place) : w'.configuration? c = w.configuration? c := by
  refine World.configuration?_eq_of_setting? h.tool fun setting => ?_
  rw [h.tool.setting?]
  refine w.setting?_replay_of_not_isFor fun record hmem => ?_
  by_contra hfor
  rw [Bool.not_eq_false] at hfor
  obtain ⟨last, hlast, hfor⟩ := h.undo_isFor hmem hfor
  have hundo := h.mem_undo.mp (History.mem_sequence.mpr ⟨last.verdict, hlast⟩)
  exact hc (place_of_restoring hundo hfor)

/-- A case run leaves the test sets as they were, whatever fails. If it creates the temporary test
set, it asks once for its deletion. The list of the project changes only if that is refused, and
then it has that one more at its end, of a name that was not in the list. All configurations but
the one that was asked for are as before. -/
theorem runCase_keeps_testSets [FileStore σ] {copyBack : CopyBack σ} {r : Except Failure Bool}
    (h : (runCase copyBack project request).outcome s w = some (r, w')) :
    ∃ made, w'.calls = made ++ w.calls ∧ w.KeepsTestSets project made w' ∧
      ∀ c, (∀ config, w.configNamed? project request.executionConfig = some config →
        c.place ≠ config.place) → w'.configuration? c = w.configuration? c := by
  rcases runCase_cases h with ⟨asked, -, hasks, -⟩ | ⟨config, testCase, p, answer, -, -, hrun, -⟩
  · have hsame := hasks.sameTool
    refine ⟨asked, hasks.course.calls, ?_, fun c _ => hsame.configuration? c⟩
    exact {
      deletion := fun name hmem => absurd hmem (hasks.quiet.not_mem rfl)
      noDeletion := fun _ q set v => hasks.quiet.not_mem rfl
      kept := fun _ => by rw [hsame.project]
      left := fun set v hmem => absurd hmem (hasks.quiet.not_mem rfl)
      others := fun number _ => by rw [hsame.project]
      cases := fun set _ => hsame.testCases set }
  · exact ⟨p.made, hrun.calls, hrun.keepsTestSets, fun c hc =>
      hrun.configuration?_kept (hc config hrun.configFound)⟩

/-- The small case run with a temporary test set that is to be called like the one that is
there, where the tool refuses to delete it: that is asked for once, and the test set is left at
the end of the list, under a name of its own. -/
theorem runCase_keeps_testSets_small :
    let verdict (_ : History) (call : Call) : Verdict :=
      if call = .deleteTestSet ⟨0, none⟩ ⟨1, "All 2"⟩ then .refused (.api "") else .granted
    ∃ w' set, (runCase CopyBack.silent ⟨0, none⟩ { smallRequest with tempTestSet := "All" }).outcome
        (promptTool verdict) smallWorld = some (.ok true, w') ∧
      w'.calls.forLists = [⟨.deleteTestSet ⟨0, none⟩ ⟨1, "All 2"⟩, .refused (.api "")⟩,
        ⟨.createTestSet ⟨0, none⟩ "All 2", .granted⟩] ∧
      (w'.project 0).testSets = smallProject.testSets ++ [set] ∧ set.name = "All 2" ∧
      "All 2" ∉ smallWorld.takenNames ⟨0, none⟩ := by
  intro verdict
  have hends : ((runCase CopyBack.silent ⟨0, none⟩
      { smallRequest with tempTestSet := "All" }).outcome (promptTool verdict) smallWorld).map
        (fun p => (p.1.toOption,
          decide (⟨.createTestSet ⟨0, none⟩ "All 2", .granted⟩ ∈ p.2.calls ∧
            ⟨.deleteTestSet ⟨0, none⟩ ⟨1, "All 2"⟩, .refused (.api "")⟩ ∈ p.2.calls))) =
      some (some true, true) := by decide +kernel
  obtain ⟨⟨r, w'⟩, h, heq⟩ := Option.map_eq_some_iff.mp hends
  simp only [Prod.mk.injEq, decide_eq_true_eq] at heq
  obtain ⟨hr, hcreated, hrefused⟩ := heq
  obtain ⟨made, hcalls, hkeeps, -⟩ := runCase_keeps_testSets h
  obtain rfl : w'.calls = made := hcalls.trans (List.append_nil made)
  obtain ⟨v, hlists⟩ := hkeeps.deletion "All 2" hcreated
  -- The refused call is the one that deletes, since there is no other.
  have hmem := History.mem_forLists.mpr ⟨hrefused, rfl⟩
  rw [hlists] at hmem
  obtain ⟨-, rfl⟩ : 1 = smallWorld.contents.length ∧ .refused (.api "") = v := by
    simpa using hmem
  obtain ⟨set, hsets, hname, hfree⟩ := hkeeps.left _ _ hrefused nofun
  cases r with
  | error failure => cases hr
  | ok answer =>
      cases hr
      exact ⟨w', set, h, hlists, hsets, hname, hfree⟩

end CaseRunner.Isolation

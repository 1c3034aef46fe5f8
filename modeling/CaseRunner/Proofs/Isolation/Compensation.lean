import CaseRunner.Proofs.Isolation.CaseCourse

/-!
# `CaseRunner.Proofs.Isolation.Compensation`: the order in which things are put back

The changes that a case run asks for are a beginning of the plan, followed by all of the
calls that put things back, in a fixed order (`runCase_compensates`). This does not depend
on what becomes of the calls, except that the artifacts are copied if and only if the run
was started, and the temporary test set is deleted if and only if it was created. The copy is
made of the files that the run has left, after the last call for an item and before the first
one for a directory, and the files are as it has left them when the case run is over.
-/

set_option autoImplicit false

namespace CaseRunner.Isolation

open CaseRunner.Config (CaseRequest)
open CaseRunner.Files (FileStore CopyBack)
open CaseRunner.Remote
open CaseRunner.Remote.Action

variable {σ : Type} [FileStore σ] {s : Surroundings} {w w' : World σ} {project : ProjectRef}
  {config : ConfigRef} {testCase : TestCase} {request : CaseRequest} {p : Parts}

/-- The temporary test set is recorded as created if the tool was asked to and did so. -/
theorem RunsBy.created_iff (h : RunsBy s w project request config testCase p w') :
    ⟨.createTestSet project (tempSetOf w project request).name, .granted⟩ ∈ p.made ↔
      p.applied.tempTestSet = some (tempSetOf w project request) := by
  rw [h.mem_made .granted rfl]
  · rcases h.forward.created with ⟨hset, hmem⟩ | ⟨hset, hmem⟩
    · exact iff_of_true hmem hset
    · exact iff_of_false hmem (by simp [hset])
  · simp [Assignment.restoring]
  · simp [Scope.restoringDirs]
  · unfold Applied.cleaningUp
    split <;> simp

/-- The run is recorded as started if the tool was asked to and did so. -/
theorem RunsBy.started_iff (h : RunsBy s w project request config testCase p w') :
    ⟨.run config, .granted⟩ ∈ p.made ↔ p.applied.runStarted = true := by
  rw [h.mem_made .granted rfl]
  · exact h.forward.started.symm
  · simp [Assignment.restoring]
  · simp [Scope.restoringDirs]
  · unfold Applied.cleaningUp
    split <;> simp

/-- The temporary test set is deleted if it was created. -/
theorem RunsBy.cleanup_changes (h : RunsBy s w project request config testCase p w') :
    p.cleanup.changes =
      if ⟨.createTestSet project (tempSetOf w project request).name, .granted⟩ ∈ p.made then
        [.deleteTestSet project (tempSetOf w project request)] else [] := by
  rw [History.changes_eq_filter, h.cleanupCalls, Applied.cleaningUp]
  by_cases hcreated : p.applied.tempTestSet = some (tempSetOf w project request)
  · rw [if_pos (h.created_iff.mpr hcreated), hcreated]
    rfl
  · rw [if_neg fun hmem => hcreated (h.created_iff.mp hmem)]
    rcases h.forward.created with ⟨hset, -⟩ | ⟨hset, -⟩
    · exact absurd hset hcreated
    · rw [hset]
      rfl

/-- The changes of a case run, in two stretches with the copy of the artifacts between them.
The earlier one has the changes `forward` and then puts the test sets back. It leads to
`before`, where the artifacts are copied if the run was granted, from the files as that run has
left them. From `after` on, the later stretch puts the directories back and deletes the
temporary test set, and the files stay as they are. -/
structure Compensates (copyBack : CopyBack σ) (s : Surroundings) (w : World σ)
    (project : ProjectRef) (request : CaseRequest) (config : ConfigRef) (testCase : TestCase)
    (dataDir reportDir : FilePath) (forward : List Call) (earlier later : History)
    (before after w' : World σ) : Prop where
  configFound : w.configNamed? project request.executionConfig = some config
  caseFound : w.caseNamed? project request.testCase = some testCase
  planned : forward <+: plan project config testCase (scopeOf w config)
    (tempSetOf w project request) dataDir reportDir ++ [.cancel w.runs.length]
  dirs : PlansDirs config request w.files forward dataDir reportDir
  toCopy : Course w earlier before
  earlierChanges : earlier.changes =
    forward ++ (scopeOf w config).assignments.map Assignment.restoring
  left : ⟨.run config, .granted⟩ ∈ later ++ earlier →
    LeftByRun s w request dataDir reportDir before
  copied : CopiedIf (⟨.run config, .granted⟩ ∈ later ++ earlier) copyBack [dataDir, reportDir]
    before after
  fromCopy : Course after later w'
  filesFromCopy : w'.files = after.files
  laterChanges : later.changes = (scopeOf w config).restoringDirs config ++
    if ⟨.createTestSet project (tempSetOf w project request).name, .granted⟩ ∈ later ++ earlier then
      [.deleteTestSet project (tempSetOf w project request)] else []

/-- A case run that went through its parts has put things back in order. -/
theorem RunsBy.compensates {copyBack : CopyBack σ} {before after : World σ}
    (h : RunsBy s w project request config testCase p w')
    (hcopies : CopiesBetween copyBack s w request p before after w') :
    ∃ dataDir reportDir, Compensates copyBack s w project request config testCase dataDir
      reportDir p.forward.changes (p.items ++ (p.forward ++ p.asked)) (p.cleanup ++ p.dirs)
      before after w' := by
  obtain ⟨dataDir, reportDir, hplan, hdirs, hcopied⟩ := h.forward.attempted
  have hmade : p.cleanup ++ p.dirs ++ (p.items ++ (p.forward ++ p.asked)) = p.made := by
    simp [Parts.made]
  exact ⟨dataDir, reportDir, {
    configFound := h.configFound
    caseFound := h.caseFound
    planned := hplan
    dirs := hdirs
    toCopy := hcopies.toCopy
    earlierChanges := by
      rw [History.changes_append, History.changes_append, History.changes_of_quiet h.quiet,
        h.items_changes, List.nil_append]
    left := fun hrun => by
      have hstarted := h.started_iff.mp (hmade ▸ hrun)
      obtain ⟨_, _, heq, hleft⟩ := hcopies.left hstarted
      rw [hcopied hstarted] at heq
      cases heq
      exact hleft
    copied := by
      rw [hmade]
      refine CopiedIf.congr ⟨fun hstarted => ?_, hcopies.copied.2⟩ h.started_iff
      exact hcopied hstarted ▸ hcopies.copied.1 hstarted
    fromCopy := hcopies.fromCopy
    filesFromCopy := hcopies.filesFromCopy
    laterChanges := by rw [hmade, History.changes_append, h.dirs_changes, h.cleanup_changes] }⟩

/-- Whatever becomes of its calls, a case run asks for no change if the configuration and the
test case are not found or the scope is not captured, and then leaves the files alone. Else
it asks for a beginning of the plan and then for all that puts things back: first the test
sets in order, then the directories, then the end of the temporary test set if that was
created. Between the test sets and the directories the artifacts are copied if the run was
granted, from the files that it has left, and after that the files do not change. -/
theorem runCase_compensates {copyBack : CopyBack σ} {r : Except Failure Bool}
    (h : (runCase copyBack project request).outcome s w = some (r, w')) :
    ∃ made, w'.calls = made ++ w.calls ∧
      (made.changes = [] ↔ ¬Captures s w project request) ∧
      (¬Captures s w project request → w'.files = w.files ∧ w'.copies = w.copies) ∧
      (Captures s w project request →
        ∃ config testCase dataDir reportDir forward earlier later before after,
          made = later ++ earlier ∧
          Compensates copyBack s w project request config testCase dataDir reportDir forward
            earlier later before after w') := by
  rcases runCase_cases h with ⟨asked, rfl, hasks, hnot⟩ |
    ⟨config, testCase, p, _, rfl, hcaptures, hrun, -, before, after, hcopies⟩
  · have hnone : History.changes asked = [] := History.changes_of_quiet hasks.quiet
    refine ⟨asked, hasks.course.calls, iff_of_true hnone hnot, ?_, ?_⟩
    · exact fun _ => ⟨hasks.files, hasks.course.copies⟩
    · exact fun hcaptures => absurd hcaptures hnot
  · obtain ⟨dataDir, reportDir, hcompensates⟩ := hrun.compensates hcopies
    refine ⟨p.made, hrun.calls, iff_of_false ?_ fun hnot => hnot hcaptures,
      fun hnot => absurd hcaptures hnot, fun _ => ?_⟩
    · -- The directories are always put back, so there is a change at least.
      intro hnone
      have hdirs : p.dirs.changes = [] := by simp_all [Parts.made]
      rw [hrun.dirs_changes] at hdirs
      cases hdirs
    · refine ⟨config, testCase, dataDir, reportDir, _, _, _, before, after, ?_, hcompensates⟩
      simp [Parts.made]

/-- A tool that refuses to put the test set of the first item back, and whose runs write a log
into the report directory. -/
def stubbornTool : Surroundings :=
  { promptTool fun _ call => if call = .setTestSet ⟨smallConfig, 0⟩ (some ⟨0, "All"⟩) then
      .refused (.api "") else .granted with
    products := [⟨.report, "log", [7]⟩] }

/-- The outcome of the small case run with this tool, with artifacts copied to `/out`. -/
def stubbornOutcome : Option (Except Failure Bool × World Files.Tree) :=
  (runCase (CopyBack.into 2 "/out") ⟨0, none⟩ smallRequest).outcome stubbornTool smallWorld

/-- What this case run asks for up to the copy of the artifacts. -/
def stubbornEarlier : List Call :=
  [.setDataDir smallConfig "/d", .setReportDir smallConfig "/r",
    .createTestSet ⟨0, none⟩ "Temp", .addTestCase ⟨1, "Temp"⟩ ⟨"Brake", "2"⟩,
    .setTestSet ⟨smallConfig, 0⟩ (some ⟨1, "Temp"⟩),
    .setTestSet ⟨smallConfig, 1⟩ (some ⟨1, "Temp"⟩), .run smallConfig,
    .setTestSet ⟨smallConfig, 0⟩ (some ⟨0, "All"⟩), .setTestSet ⟨smallConfig, 1⟩ none]

/-- What this case run asks for after the copy. -/
def stubbornLater : List Call :=
  [.setDataDir smallConfig "/data", .setReportDir smallConfig "/report",
    .deleteTestSet ⟨0, none⟩ ⟨1, "Temp"⟩]

/-- The first item is not put back, but everything after it is, and in order. The log is copied
after the items and before the directories. -/
theorem runCase_compensates_small : ∃ w' earlier later before after,
    stubbornOutcome = some (.ok false, w') ∧ w'.calls = later ++ earlier ∧
    earlier.changes = stubbornEarlier ∧ before.calls = earlier ∧
    Copied (CopyBack.into 2 "/out") ["/d", "/r"] before after ∧
    after.files.find? "/out/r/log" = some (.file [7]) ∧ w'.files = after.files ∧
    later.changes = stubbornLater := by
  have hends : stubbornOutcome.map (fun p => (p.1.toOption, p.2.calls.changes,
      decide (⟨.run smallConfig, .granted⟩ ∈ p.2.calls ∧
        ⟨.createTestSet ⟨0, none⟩ "Temp", .granted⟩ ∈ p.2.calls),
      p.2.files.find? "/out/r/log")) =
    some (some false, stubbornEarlier ++ stubbornLater, true, some (.file [7])) := by
    decide +kernel
  obtain ⟨⟨r, w'⟩, h, heq⟩ := Option.map_eq_some_iff.mp hends
  simp only [Prod.mk.injEq, decide_eq_true_eq] at heq
  obtain ⟨hr, hchanges, ⟨hgranted, hcreated⟩, hfile⟩ := heq
  obtain ⟨made, hcalls, hnone, -, hparts⟩ := runCase_compensates h
  obtain rfl : w'.calls = made := hcalls.trans (List.append_nil made)
  have hcaptures : Captures stubbornTool smallWorld ⟨0, none⟩ smallRequest := by
    by_contra hnot
    rw [hnone.mpr hnot] at hchanges
    cases hchanges
  obtain ⟨config, testCase, dataDir, reportDir, forward, earlier, later, before, after, hmade,
    hcompensates⟩ := hparts hcaptures
  obtain rfl : smallConfig = config := Option.some.inj (hcompensates.configFound ▸ rfl)
  rw [hmade] at hgranted hcreated hchanges
  -- The two directories are those of the request, since they have been prepared.
  obtain ⟨files₁, files₂, record, hdata, hreport, -⟩ := hcompensates.left hgranted
  obtain rfl : "/d" = dataDir := Except.ok.inj hdata.absolute
  obtain rfl : "/r" = reportDir := Except.ok.inj hreport.absolute
  have hlater : later.changes = stubbornLater := by
    have hset : tempSetOf smallWorld ⟨0, none⟩ smallRequest = ⟨1, "Temp"⟩ := by decide +kernel
    rw [hcompensates.laterChanges, hset, if_pos hcreated]
    rfl
  refine ⟨w', earlier, later, before, after, ?_, hmade, ?_, ?_, hcompensates.copied.1 hgranted,
    hcompensates.filesFromCopy ▸ hfile, hcompensates.filesFromCopy, hlater⟩
  · cases r with
    | error failure => cases hr
    | ok answer =>
        cases hr
        exact h
  · rw [History.changes_append, hlater] at hchanges
    exact List.append_cancel_right hchanges
  · exact hcompensates.toCopy.calls.trans (List.append_nil earlier)

end CaseRunner.Isolation

import CaseRunner.Files.Tree
import CaseRunner.Proofs.Isolation.Plan
import CaseRunner.Proofs.Isolation.Undo

/-!
# `CaseRunner.Proofs.Isolation.CaseCourse`: a whole case run, part by part

A case run asks, then makes changes, then puts things back. It never fails itself, and it
goes one of two ways. If the configuration and the test case are not found or the scope is not
captured, nothing but questions has happened. Else it goes through all of its `Stages`
(`runCase_stages`). The calls then have the `Parts` that `RunsBy` describes, and the answer is
`true` if the changes went well and all that was changed was put back (`runCase_cases`).
-/

set_option autoImplicit false

namespace CaseRunner.Isolation

open CaseRunner.Config (CaseRequest)
open CaseRunner.Files (FileStore CopyBack)
open CaseRunner.Remote
open CaseRunner.Remote.Action

/-- The calls of a case run, part by part, with the changes that were recorded as done and
whether they all went well. -/
structure Parts where
  /-- The questions before the changes. -/
  asked : History
  /-- The changes, with the questions between them. -/
  forward : History
  /-- The calls that put the test sets back. -/
  items : History
  /-- The calls that put the directories back. -/
  dirs : History
  /-- The calls that end the temporary test set. -/
  cleanup : History
  /-- The changes recorded as done. -/
  applied : Applied
  /-- Whether the changes all went well. -/
  ok : Bool

/-- All calls, the last one first. -/
def Parts.made (p : Parts) : History := p.cleanup ++ p.dirs ++ p.items ++ (p.forward ++ p.asked)

variable {σ : Type} {s : Surroundings} {w w' : World σ} {project : ProjectRef}
  {config : ConfigRef} {testCase : TestCase} {request : CaseRequest} {p : Parts}

/-- The configuration and the test case are found, and the scope is captured. -/
def Captures (s : Surroundings) (w : World σ) (project : ProjectRef) (request : CaseRequest) :
    Prop :=
  ∃ config testCase scope w₁ w₂,
    (resolve project request).outcome s w = some (.ok (config, testCase), w₁) ∧
      (Scope.capture config).outcome s w₁ = some (.ok scope, w₂)

/-- A failure of the changes is noted, and that is all that happens before what comes next. -/
theorem noteFailure_outcome (result : Except Failure Unit) (message : String)
    (fields : Failure → List (String × String)) (next : Action σ Failure Bool) (w : World σ) :
    ∃ w₁, Course w [] w₁ ∧ filesAndRuns w₁ = filesAndRuns w ∧ w₁.now = w.now ∧
      (show Action σ Failure Bool from do
        if let .error failure := result then
          note .error .transaction message (fields failure)
        next).outcome s w = next.outcome s w₁ := by
  cases result with
  | ok => exact ⟨w, .refl w, rfl, rfl, rfl⟩
  | error failure =>
      refine ⟨_, (Course.refl w).noted ⟨.error, .transaction, message, fields failure⟩, rfl, rfl, ?_⟩
      simp only [outcome_bind, outcome_note, Option.bind_some]

/-- A failure of the changes is noted, and then `next` goes on. -/
theorem noteFailure_cases {result : Except Failure Unit} {message : String}
    {fields : Failure → List (String × String)} {next : Action σ Failure Bool}
    {r : Except Failure Bool}
    (h : (show Action σ Failure Bool from do
      if let .error failure := result then
        note .error .transaction message (fields failure)
      next).outcome s w = some (r, w')) :
    ∃ w₁, Course w [] w₁ ∧ filesAndRuns w₁ = filesAndRuns w ∧
      next.outcome s w₁ = some (r, w') := by
  obtain ⟨w₁, hnoted, hsame, -, hnext⟩ :=
    noteFailure_outcome (s := s) result message fields next w
  exact ⟨w₁, hnoted, hsame, hnext.symm.trans h⟩

section
variable [FileStore σ]

/-- The calls of a case run that found a configuration and a test case. -/
structure RunsBy (s : Surroundings) (w : World σ) (project : ProjectRef) (request : CaseRequest)
    (config : ConfigRef) (testCase : TestCase) (p : Parts) (w' : World σ) : Prop where
  configFound : w.configNamed? project request.executionConfig = some config
  caseFound : w.caseNamed? project request.testCase = some testCase
  quiet : p.asked.Quiet
  answered : p.asked.Granted
  forward : Forward project config testCase (scopeOf w config) request w.files
    (tempSetOf w project request) w.runs.length p.forward p.applied p.ok
  sawEnd : p.ok = true → SawEnd s w.runs.length (p.forward ++ p.asked ++ w.calls)
  waitedFor : p.applied.runStarted = true →
    WaitedFor s w.runs.length (p.forward ++ p.asked ++ w.calls)
  itemCalls : p.items.sequence = (scopeOf w config).assignments.map Assignment.restoring
  dirCalls : p.dirs.sequence = (scopeOf w config).restoringDirs config
  cleanupCalls : p.cleanup.sequence = p.applied.cleaningUp project
  calls : w'.calls = p.made ++ w.calls
  tool : w'.SameTool (w.replay p.made)

/-- Where the artifacts are copied in a case run with these parts: between `before`, to which the
calls up to the last one for an item lead, and `after`, from which the others follow. They are
copied if the run was started, from the files that it has left, and the files stay as the copy
has left them. -/
structure CopiesBetween (copyBack : CopyBack σ) (s : Surroundings) (w : World σ)
    (request : CaseRequest) (p : Parts) (before after w' : World σ) : Prop where
  toCopy : Course w (p.items ++ (p.forward ++ p.asked)) before
  left : p.applied.runStarted = true → ∃ dataDir reportDir,
    p.applied.dirs = [dataDir, reportDir] ∧ LeftByRun s w request dataDir reportDir before
  copied : CopiedIf (p.applied.runStarted = true) copyBack p.applied.dirs before after
  fromCopy : Course after (p.cleanup ++ p.dirs) w'
  filesFromCopy : w'.files = after.files

/-- The stages of a case run that was not stopped by the two attempts at its beginning: these only
ask, then there are the changes, which keep a failure in the progress, then a note of such a
failure, and then things are put back. -/
structure Stages (copyBack : CopyBack σ) (s : Surroundings) (w : World σ) (project : ProjectRef)
    (request : CaseRequest) (config : ConfigRef) (testCase : TestCase) (asked : History)
    (progress : Progress) (restored : Bool) (w₁ w₂ w₃ w₄ w' : World σ) : Prop where
  resolved : (resolve project request).outcome s w = some (.ok (config, testCase), w₁)
  captured : (Scope.capture config).outcome s w₁ = some (.ok (scopeOf w config), w₂)
  asks : Asks w asked w₂
  answered : asked.Granted
  configFound : w.configNamed? project request.executionConfig = some config
  caseFound : w.caseNamed? project request.testCase = some testCase
  changed : (changeAndRun project config testCase (scopeOf w config) request).outcome s w₂ =
    some (.ok progress, w₃)
  noted : Course w₃ [] w₄
  notedOnly : filesAndRuns w₄ = filesAndRuns w₃
  undone : (compensate copyBack project config (scopeOf w config) progress.applied).outcome s w₄ =
    some (.ok restored, w')

/-- A case run never fails. Either one of the attempts at its beginning does, and it has only
asked, or it goes through all of its stages. -/
theorem runCase_stages {copyBack : CopyBack σ} {r : Except Failure Bool}
    (h : (runCase copyBack project request).outcome s w = some (r, w')) :
    (∃ asked, r = .ok false ∧ Asks w asked w' ∧ ¬Captures s w project request) ∨
      ∃ config testCase asked progress restored w₁ w₂ w₃ w₄,
        r = .ok (progress.result.isOk && restored) ∧
        Stages copyBack s w project request config testCase asked progress restored
          w₁ w₂ w₃ w₄ w' := by
  rw [runCase] at h
  obtain ⟨resolved, w₁, h₁, h⟩ := attempt_bind_cases h
  obtain ⟨asked₁, hasks₁, hresolved⟩ := resolve_cases h₁
  rcases hresolved with ⟨config, testCase, rfl, hg₁, hconfig, hcase⟩ | ⟨⟨failure, rfl⟩, -⟩
  rotate_left
  · simp only [outcome_bind, outcome_note, outcome_pure, Option.bind_some, Option.some.injEq,
      Prod.mk.injEq] at h
    obtain ⟨rfl, rfl⟩ := h
    refine .inl ⟨_, rfl, hasks₁.trans (.of_note w₁ _), ?_⟩
    -- There is one outcome of each attempt, and here the first is a failure.
    rintro ⟨config', testCase', scope, w₁', w₂', h₁', -⟩
    rw [h₁] at h₁'
    cases h₁'
  obtain ⟨captured, w₂, h₂, h⟩ := attempt_bind_cases h
  obtain ⟨asked₂, hasks₂, hcaptured⟩ := (capture_answers w config).cases hasks₁ h₂
  rcases hcaptured with ⟨rfl, hg₂⟩ | ⟨⟨fault, rfl⟩, -⟩
  rotate_left
  · simp only [outcome_bind, outcome_note, outcome_pure, Option.bind_some, Option.some.injEq,
      Prod.mk.injEq] at h
    obtain ⟨rfl, rfl⟩ := h
    refine .inl ⟨_, rfl, (hasks₁.trans hasks₂).trans (.of_note w₂ _), ?_⟩
    rintro ⟨config', testCase', scope, w₁', w₂', h₁', h₂'⟩
    rw [h₁] at h₁'
    cases h₁'
    rw [h₂] at h₂'
    cases h₂'
  -- From here on the run goes through to the end, as neither the changes nor putting back fail.
  rcases bind_cases h with ⟨progress, w₃, h₃, h⟩ | ⟨failure, h₃, -⟩
  rotate_left
  · obtain ⟨_, _, hr, -⟩ := changeAndRun_cases h₃
    cases hr
  obtain ⟨w₄, hnoted, hsame, h⟩ := noteFailure_cases h
  rcases bind_cases h with ⟨restored, w₅, h₅, h⟩ | ⟨failure, h₅, -⟩
  rotate_left
  · obtain ⟨_, _, _, _, _, _, -, hr, -⟩ := compensate_cases h₅
    cases hr
  simp only [outcome_pure, Option.some.injEq, Prod.mk.injEq] at h
  obtain ⟨rfl, rfl⟩ := h
  exact .inr ⟨config, testCase, asked₂ ++ asked₁, progress, restored, w₁, w₂, w₃, w₄, rfl, {
    resolved := h₁
    captured := h₂
    asks := hasks₁.trans hasks₂
    answered := History.granted_append.mpr ⟨hg₂, hg₁⟩
    configFound := hconfig
    caseFound := hcase
    changed := h₃
    noted := hnoted
    notedOnly := hsame
    undone := h₅ }⟩

/-- A case run never fails. Either it could not begin and has only asked, or it went through
all of its parts. -/
theorem runCase_cases {copyBack : CopyBack σ} {r : Except Failure Bool}
    (h : (runCase copyBack project request).outcome s w = some (r, w')) :
    (∃ asked, r = .ok false ∧ Asks w asked w' ∧ ¬Captures s w project request) ∨
      ∃ config testCase p answer, r = .ok answer ∧ Captures s w project request ∧
        RunsBy s w project request config testCase p w' ∧
        (answer = true ↔ p.ok = true ∧ p.items.Granted ∧ p.dirs.Granted) ∧
        ∃ before after, CopiesBetween copyBack s w request p before after w' := by
  rcases runCase_stages h with hnot |
    ⟨config, testCase, asked, progress, restored, w₁, w₂, w₃, w₄, hr, hstages⟩
  · exact .inl hnot
  obtain ⟨forward, _, hprogress, hforward, hends, hsaw, hstarted⟩ :=
    changeAndRun_cases hstages.changed
  cases hprogress
  obtain ⟨items, before, after, dirs, cleanup, _, hundone, hrestored, hiff⟩ :=
    compensate_cases hstages.undone
  cases hrestored
  have hasks := hstages.asks
  have hchanges : Course w (forward ++ asked) w₃ := hasks.course.trans hforward
  have hbefore : Course w (forward ++ asked) w₄ := hchanges.trans hstages.noted
  -- The changes began in a world that had only been asked, so they are told of `w`.
  rw [hasks.files, tempSetOf_of_asks hasks, hasks.runs] at hends
  rw [hasks.runs, hchanges.calls] at hsaw hstarted
  refine .inr ⟨config, testCase,
    ⟨asked, forward, items, dirs, cleanup, progress.applied, progress.result.isOk⟩, _, hr,
    ⟨config, testCase, _, w₁, w₂, hstages.resolved, hstages.captured⟩, ?_, ?_, before, after, ?_⟩
  · exact {
      configFound := hstages.configFound
      caseFound := hstages.caseFound
      quiet := hasks.quiet
      answered := hstages.answered
      forward := hends
      sawEnd := hsaw
      waitedFor := fun h => (hstarted h).1
      itemCalls := hundone.itemCalls
      dirCalls := hundone.dirCalls
      cleanupCalls := hundone.cleanupCalls
      calls := by simp [Parts.made, hundone.calls, hbefore.calls]
      tool := by
        rw [Parts.made, World.replay_append]
        exact hundone.tool.trans (hbefore.tool.replay _) }
  · rw [Bool.and_eq_true, hiff]
  · exact {
      toCopy := hbefore.trans hundone.toCopy
      left := fun h => by
        obtain ⟨dataDir, reportDir, hdirs, hleft⟩ := (hstarted h).2
        obtain ⟨hfiles, hruns⟩ := Prod.mk.inj hstages.notedOnly
        refine ⟨dataDir, reportDir, hdirs, hleft.congr hasks.files hasks.runs ?_ ?_⟩
        · rw [hundone.filesToCopy, hfiles]
        · rw [hundone.runsToCopy, hruns]
      copied := hundone.copied
      fromCopy := hundone.fromCopy
      filesFromCopy := hundone.filesFromCopy }

/-- The copy is recorded if the run was started. -/
theorem CopiesBetween.copies {copyBack : CopyBack σ} {before after : World σ}
    (h : CopiesBetween copyBack s w request p before after w') :
    w'.copies = w.copies ++ if p.applied.runStarted then
      [⟨(p.items ++ (p.forward ++ p.asked) ++ w.calls).length, p.applied.dirs⟩] else [] := by
  rw [h.fromCopy.copies, h.copied.copies, h.toCopy.copies, h.toCopy.calls]

/-- The calls that put test sets back are changes. -/
theorem RunsBy.items_changes (h : RunsBy s w project request config testCase p w') :
    p.items.changes = (scopeOf w config).assignments.map Assignment.restoring := by
  rw [History.changes_of_all, h.itemCalls]
  intro call hcall
  rw [h.itemCalls] at hcall
  obtain ⟨a, -, rfl⟩ := List.mem_map.mp hcall
  rfl

/-- The calls that put directories back are changes. -/
theorem RunsBy.dirs_changes (h : RunsBy s w project request config testCase p w') :
    p.dirs.changes = (scopeOf w config).restoringDirs config := by
  rw [History.changes_eq_filter, h.dirCalls]
  rfl

/-- What is neither put back nor ended is a change for the run. -/
theorem RunsBy.mem_made (h : RunsBy s w project request config testCase p w') {call : Call}
    (v : Verdict) (hcall : call.mutates = true)
    (hitems : call ∉ (scopeOf w config).assignments.map Assignment.restoring)
    (hdirs : call ∉ (scopeOf w config).restoringDirs config)
    (hcleanup : call ∉ p.applied.cleaningUp project) :
    ⟨call, v⟩ ∈ p.made ↔ ⟨call, v⟩ ∈ p.forward := by
  have hnot {part : History} (h : call ∉ part.sequence) : ⟨call, v⟩ ∉ part :=
    fun hmem => h (History.mem_sequence.mpr ⟨v, hmem⟩)
  have hasked : ⟨call, v⟩ ∉ p.asked := h.quiet.not_mem hcall
  simp only [Parts.made, List.mem_append, hnot (h.itemCalls ▸ hitems), hnot (h.dirCalls ▸ hdirs),
    hnot (h.cleanupCalls ▸ hcleanup), hasked, or_false, false_or]

end

/-! ### A small case run -/

/-- A project with one configuration of two items and one test case in a group. -/
def smallProject : Project where
  file := none
  configurations := [⟨"EC", "/data", "/report", [some ⟨0, "All"⟩, none]⟩]
  cases := [.group "Group" 0 [.leaf ⟨"Brake", "2"⟩]]
  testSets := [⟨0, "All"⟩]
  created := []
  deleted := []
  closed := false

/-- The configuration of the small project. -/
def smallConfig : ConfigRef := ⟨⟨0, none⟩, 0, "EC"⟩

/-- The world with the small project alone. -/
def smallWorld : World Files.Tree := .initial .empty [smallProject] [[⟨"Brake", "2"⟩]]

/-- A request for the one test case. -/
def smallRequest : CaseRequest :=
  ⟨"EC", "Brake", ⟨true, [['d']]⟩, ⟨true, [['r']]⟩, "Temp", 1⟩

/-- A tool that is done with each run at once, and answers calls as `verdict` says. -/
def promptTool (verdict : History → Call → Verdict) : Surroundings where
  verdict := verdict
  registry := fun _ _ _ _ => .ok ⟨0⟩
  ready := fun _ _ => true
  version := fun _ => ""
  openable := []
  openLogs := []
  running := fun _ _ => false
  pending := fun _ _ => false
  products := []
  launch := fun _ => .error (.other [])
  outputToJournal := false
  interruptAt := none
  patience := 1

/-- The outcome of the small case run with such a tool. -/
def smallOutcome (verdict : History → Call → Verdict) :
    Option (Except Failure Bool × World Files.Tree) :=
  (runCase CopyBack.silent ⟨0, none⟩ smallRequest).outcome (promptTool verdict) smallWorld

end CaseRunner.Isolation

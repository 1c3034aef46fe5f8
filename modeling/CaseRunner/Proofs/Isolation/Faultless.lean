import CaseRunner.Proofs.Isolation.Ending
import CaseRunner.Proofs.Isolation.TestSets

/-!
# `CaseRunner.Proofs.Isolation.Faultless`: a case run without faults

Where the tool grants every call and the directories can be prepared, only waiting for the run
can end in more than one way. What comes before the wait goes well and takes no time, and all
that comes after it is done, and takes no time either (`runCase_waits`). Everything is as it
was before then (`runCase_restored`).
-/

set_option autoImplicit false

namespace CaseRunner.Isolation

open CaseRunner.Config (CaseRequest)
open CaseRunner.Files (FileStore CopyBack)
open CaseRunner.Remote
open CaseRunner.Remote.Action

variable {σ : Type} {s : Surroundings} {w w' : World σ} {project : ProjectRef}
  {config : ConfigRef} {testCase : TestCase} {request : CaseRequest}

/-! ### What a case run leaves -/

/-- All configurations and test sets are as they were in `w`. -/
structure Restored (w w' : World σ) : Prop where
  configuration? : ∀ c, w'.configuration? c = w.configuration? c
  testSets : ∀ number, (w'.project number).testSets = (w.project number).testSets
  testCases : ∀ set, set.number < w.contents.length → w'.testCases set = w.testCases set

section
variable [FileStore σ]

/-- A case run that went through its parts with all calls granted has put everything back. -/
theorem RunsBy.restored {p : Parts} (h : RunsBy s w project request config testCase p w')
    (hgranted : p.made.Granted) : Restored w w' where
  configuration? c := by
    refine World.configuration?_eq_of_setting? h.tool fun setting => ?_
    rcases h.setting? c setting with hsame | ⟨last, hlast, -, hrefused⟩
    · exact hsame
    · exact absurd (hgranted last (List.mem_of_find?_eq_some hlast)) hrefused
  testSets number := by
    by_cases hset : p.applied.tempTestSet = some (tempSetOf w project request)
    · by_cases hnumber : number = project.number
      -- The call that was to delete the temporary test set was granted.
      · obtain ⟨v₁, v₂, hcleanup, hdeleted⟩ := h.cleanup_eq hset
        subst hnumber
        refine (h.testSets_of_created hset).1 (hdeleted.mpr ?_)
        refine hgranted ⟨.deleteTestSet project (tempSetOf w project request), v₂⟩ ?_
        simp [Parts.made, hcleanup]
      · exact h.testSets_others hnumber
    · exact h.testSets_of_not_created hset number
  testCases _ := h.testCases_kept

/-- After a case run whose calls were all granted, everything is as it was. -/
theorem runCase_restored {copyBack : CopyBack σ} {r : Except Failure Bool} {made : History}
    (h : (runCase copyBack project request).outcome s w = some (r, w'))
    (hcalls : w'.calls = made ++ w.calls) (hgranted : made.Granted) : Restored w w' := by
  rcases runCase_cases h with ⟨asked, -, hasks, -⟩ | ⟨config, testCase, p, answer, -, -, hrun, -⟩
  · have hsame := hasks.sameTool
    exact ⟨hsame.configuration?, fun number => by rw [hsame.project],
      fun set _ => hsame.testCases set⟩
  · rw [hrun.calls] at hcalls
    exact hrun.restored (List.append_cancel_right hcalls ▸ hgranted)

end

/-! ### Stages that go well -/

section
variable {α : Type} {applied : Applied} {step : Action σ Failure α}
  {next : α → Action σ Failure Progress}

/-- After a step that succeeds, the changes go on. -/
theorem outcome_orStop_ok {a : α} (h : step.outcome s w = some (.ok a, w')) :
    (orStop applied step next).outcome s w = (next a).outcome s w' := by
  rw [orStop, outcome_bind, outcome_attempt, h]
  rfl

/-- After a step that fails, the changes are over. -/
theorem outcome_orStop_error {failure : Failure}
    (h : step.outcome s w = some (.error failure, w')) :
    (orStop applied step next).outcome s w = some (.ok ⟨applied, .error failure⟩, w') := by
  rw [orStop, outcome_bind, outcome_attempt, h]
  rfl

end

/-- A directory that can be prepared is set, if that is granted. -/
theorem Isolates.of_granted [FileStore σ] {files files' : σ} {dir path : FilePath}
    {call : FilePath → Call} {made : History} {result : Option (FilePath × σ)}
    (h : Isolates files dir call made result) (hgranted : made.Granted)
    (hprepared : Prepared files dir path files') :
    made = [⟨call path, .granted⟩] ∧ result = some (path, files') := by
  cases h with
  | done hdone =>
      obtain ⟨rfl, rfl⟩ := hdone.unique hprepared
      exact ⟨rfl, rfl⟩
  | unprepared hnot => exact absurd ⟨path, files', hprepared⟩ hnot
  | refused _ hv => exact absurd (History.granted_cons.mp hgranted).1 hv

/-- An activity that sets an empty directory goes well if the directory can be prepared and all
is granted. -/
theorem isolate_granted [FileStore σ] {x : Action σ Failure FilePath} {dir path : FilePath}
    {call : FilePath → Call} {files' : σ}
    (hgrants : ∀ history call, s.verdict history call = .granted) (hx : Prompt s x)
    (hcases : ∀ r w', x.outcome s w = some (r, w') → ∃ made, Course w made w' ∧
      Isolates w.files dir call made (r.toOption.map fun path => (path, w'.files)))
    (hprepared : Prepared w.files dir path files') :
    ∃ w', x.outcome s w = some (.ok path, w') ∧ Course w [⟨call path, .granted⟩] w' ∧
      History.Plain s [⟨call path, .granted⟩] ∧ w'.now = w.now ∧ w'.files = files' := by
  obtain ⟨r, w', -, h, hnow, -⟩ := hx w
  obtain ⟨made, hcourse, hisolates⟩ := hcases r w' h
  have hplain := hx.of_course h hcourse
  obtain ⟨rfl, hr⟩ := hisolates.of_granted (hplain.granted hgrants) hprepared
  cases r with
  | error failure => cases hr
  | ok path' =>
      simp only [Except.toOption, Option.map_some, Option.some.injEq, Prod.mk.injEq] at hr
      obtain ⟨rfl, hfiles⟩ := hr
      exact ⟨w', h, hcourse, hplain, hnow, hfiles⟩

/-! ### Before and after the wait -/

/-- What undoes the changes does so from any world with the same tool and the same files. -/
theorem Undone.of_course {copyBack : CopyBack σ} {scope : Scope} {applied : Applied}
    {v v' before after : World σ} {items dirs cleanup : History}
    (h : Undone copyBack project config scope applied v' items before after dirs cleanup w')
    (hcourse : Course v [] v') (hsame : filesAndRuns v' = filesAndRuns v) :
    Undone copyBack project config scope applied v items before after dirs cleanup w' where
  toCopy := by simpa using hcourse.trans h.toCopy
  filesToCopy := h.filesToCopy.trans (congrArg Prod.fst hsame)
  runsToCopy := h.runsToCopy.trans (congrArg Prod.snd hsame)
  copied := h.copied
  fromCopy := h.fromCopy
  filesFromCopy := h.filesFromCopy
  itemCalls := h.itemCalls
  dirCalls := h.dirCalls
  cleanupCalls := h.cleanupCalls

section
variable (hgrants : ∀ history call, s.verdict history call = .granted)
include hgrants

/-- The configuration and the test case are found if they are there. -/
theorem resolve_granted (hconfig : w.configNamed? project request.executionConfig = some config)
    (hcase : w.caseNamed? project request.testCase = some testCase) :
    ∃ asked w', (resolve project request).outcome s w = some (.ok (config, testCase), w') ∧
      Asks w asked w' ∧ asked.Plain s ∧ w'.now = w.now := by
  have hprompt := resolve_prompt (s := s) (σ := σ) project request
  obtain ⟨r, w', -, h, hnow, -⟩ := hprompt w
  obtain ⟨asked, hasks, hresolved⟩ := resolve_cases h
  have hplain := hprompt.of_course h hasks.course
  rcases hresolved with ⟨config', testCase', rfl, -, hconfig', hcase'⟩ | ⟨-, hnot⟩
  · rw [hconfig] at hconfig'
    rw [hcase] at hcase'
    cases hconfig'
    cases hcase'
    exact ⟨asked, w', h, hasks, hplain, hnow⟩
  · exact absurd ⟨hplain.granted hgrants, by rw [hconfig]; rfl, by rw [hcase]; rfl⟩ hnot

/-- The scope is captured as it is in a world that has only been asked since. -/
theorem capture_granted {before : History} {w₁ : World σ} (hbefore : Asks w before w₁)
    (config : ConfigRef) :
    ∃ asked w', (Scope.capture config).outcome s w₁ = some (.ok (scopeOf w config), w') ∧
      Asks w₁ asked w' ∧ asked.Plain s ∧ w'.now = w₁.now := by
  have hprompt := capture_prompt (s := s) (σ := σ) config
  obtain ⟨r, w', -, h, hnow, -⟩ := hprompt w₁
  obtain ⟨asked, hasks, hcaptured⟩ := (capture_answers w config).cases hbefore h
  have hplain := hprompt.of_course h hasks.course
  obtain ⟨rfl, -⟩ := hcaptured.resolve_right fun h => h.2 (hplain.granted hgrants)
  exact ⟨asked, w', h, hasks, hplain, hnow⟩

/-- Everything is put back. -/
theorem compensate_granted {copyBack : CopyBack σ} (hcopy : ∀ dirs, (copyBack dirs).Ends)
    (project : ProjectRef) (config : ConfigRef) (scope : Scope) (applied : Applied)
    (w : World σ) :
    ∃ items before after dirs cleanup w',
      (compensate copyBack project config scope applied).outcome s w = some (.ok true, w') ∧
      Undone copyBack project config scope applied w items before after dirs cleanup w' ∧
      History.Plain s (cleanup ++ dirs ++ items) ∧ w'.now = w.now := by
  obtain ⟨r, w', made, h, hnow, hcalls, hplain⟩ :=
    compensate_prompt (s := s) hcopy project config scope applied w
  obtain ⟨items, before, after, dirs, cleanup, restored, hundone, rfl, hiff⟩ := compensate_cases h
  rw [hundone.calls] at hcalls
  rw [← List.append_cancel_right hcalls] at hplain
  have hgranted := hplain.granted hgrants
  simp only [History.granted_append] at hgranted
  rw [hiff.mpr ⟨hgranted.2, hgranted.1.2⟩] at h
  exact ⟨items, before, after, dirs, cleanup, w', h, hundone, hplain, hnow⟩

variable [FileStore σ] {dataDir reportDir : FilePath}
  (hdirs : DirsPrepared w.files request dataDir reportDir)
include hdirs

/-- The changes go well up to the start of the run, and then it is waited for. -/
theorem changeAndRun_waits (project : ProjectRef) (config : ConfigRef) (testCase : TestCase)
    (scope : Scope) :
    ∃ before u, Course w (⟨.run config, .granted⟩ :: before) u ∧
      History.Plain s (⟨.run config, .granted⟩ :: before) ∧ u.now = w.now ∧
      ∀ r v, (awaitCompletion w.runs.length request.statusInterval s.patience).outcome s u =
          some (r, v) →
        (changeAndRun project config testCase scope request).outcome s w =
          some (.ok ⟨⟨some dataDir, some reportDir, some (tempSetOf w project request), true⟩, r⟩,
            v) := by
  obtain ⟨files₁, files₂, hdata, hreport⟩ := hdirs
  -- The directories.
  obtain ⟨w₁, h₁, hcourse₁, hplain₁, hnow₁, hfiles₁⟩ := isolate_granted hgrants
    (isolateData_prompt config request) (fun _ _ => isolate_cases fun _ _ => rfl) hdata
  obtain ⟨w₂, h₂, hcourse₂, hplain₂, hnow₂, -⟩ := isolate_granted hgrants
    (isolateReport_prompt config request) (fun _ _ => isolate_cases fun _ _ => rfl)
    (hfiles₁.symm ▸ hreport)
  have hisolating : Course w (isolating config dataDir reportDir) w₂ := hcourse₁.trans hcourse₂
  -- The temporary test set.
  have hprompt₃ := createTempSet_prompt (s := s) (σ := σ) project request
  obtain ⟨r₃, w₃, -, h₃, hnow₃, -⟩ := hprompt₃ w₂
  obtain ⟨made₃, hcourse₃, hend₃⟩ := createTempSet_cases h₃
  have hplain₃ := hprompt₃.of_course h₃ hcourse₃
  obtain ⟨rfl, hcreate⟩ := hend₃.resolve_right fun h => h.2.fault (hplain₃.granted hgrants)
  rw [tempSetOf_of_isolating hisolating] at h₃ hcreate
  have hcreated := hisolating.trans hcourse₃
  -- The start.
  have hprompt₄ := startRun_prompt (s := s) (σ := σ) config testCase scope
    (tempSetOf w project request) request
  obtain ⟨r₄, u, -, h₄, hnow₄, -⟩ := hprompt₄ w₃
  obtain ⟨made₄, hcourse₄, -, hend₄⟩ := startRun_cases h₄
  have hplain₄ := hprompt₄.of_course h₄ hcourse₄
  obtain ⟨rfl, hsequence, hgranted⟩ :=
    hend₄.resolve_right fun h => h.2.fault (hplain₄.granted hgrants)
  rw [runs_of_creates hcreate hcreated] at h₄
  obtain ⟨v, before, rfl⟩ := History.exists_cons_of_sequence hsequence
  obtain rfl : v = .granted := hgranted _ List.mem_cons_self
  refine ⟨before ++ (made₃ ++ isolating config dataDir reportDir), u, hcreated.trans hcourse₄,
    hplain₄.append (hplain₃.append (hplain₂.append hplain₁)),
    hnow₄.trans (hnow₃.trans (hnow₂.trans hnow₁)), fun r v hwait => ?_⟩
  rw [changeAndRun, outcome_orStop_ok h₁, outcome_orStop_ok h₂, outcome_orStop_ok h₃,
    outcome_orStop_ok h₄, outcome_bind, outcome_read, Option.bind_some]
  cases r with
  | error failure => exact outcome_orStop_error hwait
  | ok => exact outcome_orStop_ok hwait

/-- A case run comes to a run that is waited for, and when that is over everything is undone, with
the files as the run has left them. The answer is whether the wait went well. -/
theorem runCase_waits {copyBack : CopyBack σ}
    (hconfig : w.configNamed? project request.executionConfig = some config)
    (hcase : w.caseNamed? project request.testCase = some testCase)
    (hcopy : ∀ dirs, (copyBack dirs).Ends) :
    ∃ before u, u.calls = ⟨.run config, .granted⟩ :: before ++ w.calls ∧
      History.Plain s (⟨.run config, .granted⟩ :: before) ∧ u.now = w.now ∧
      ∀ r v, (awaitCompletion w.runs.length request.statusInterval s.patience).outcome s u =
          some (r, v) →
        LeftByRun s w request dataDir reportDir v ∧ ∃ items before after dirs cleanup w',
          (runCase copyBack project request).outcome s w = some (.ok r.isOk, w') ∧
          Undone copyBack project config (scopeOf w config)
            ⟨some dataDir, some reportDir, some (tempSetOf w project request), true⟩ v
            items before after dirs cleanup w' ∧
          History.Plain s (cleanup ++ dirs ++ items) ∧ w'.now = v.now := by
  obtain ⟨asked₁, w₁, h₁, hasks₁, hplain₁, hnow₁⟩ := resolve_granted hgrants hconfig hcase
  obtain ⟨asked₂, w₂, h₂, hasks₂, hplain₂, hnow₂⟩ := capture_granted hgrants hasks₁ config
  -- The changes begin in a world that has only been asked.
  have hasks := hasks₁.trans hasks₂
  obtain ⟨before, u, hcourse, hplain, hnow, hchanges⟩ := changeAndRun_waits hgrants
    (hasks.files.symm ▸ hdirs) project config testCase (scopeOf w config)
  rw [hasks.runs, tempSetOf_of_asks hasks] at hchanges
  have hbefore := hasks.course.trans hcourse
  refine ⟨before ++ (asked₂ ++ asked₁), u, hbefore.calls,
    hplain.append (hplain₂.append hplain₁), hnow.trans (hnow₂.trans hnow₁),
    fun r v hwait => ?_⟩
  have hleft : LeftByRun s w request dataDir reportDir v := by
    obtain ⟨_, _, hprogress, -, -, -, hstarted⟩ := changeAndRun_cases (hchanges r v hwait)
    cases hprogress
    obtain ⟨-, _, _, hdirs, hleft⟩ := hstarted rfl
    cases hdirs
    exact hleft.congr hasks.files hasks.runs rfl rfl
  let applied : Applied :=
    ⟨some dataDir, some reportDir, some (tempSetOf w project request), true⟩
  obtain ⟨v', hnoted, hsame, hnow', hnext⟩ := noteFailure_outcome (s := s) r "test case execution failed"
    (fun failure => [("config", request.executionConfig), ("test_case", request.testCase),
      ("error", failure.message)])
    (do
      let restored ← compensate copyBack project config (scopeOf w config) applied
      return r.isOk && restored) v
  obtain ⟨items, before', after, dirs, cleanup, w', h₃, hundone, hplain₃, hnow₃⟩ :=
    compensate_granted hgrants hcopy project config (scopeOf w config) applied v'
  refine ⟨hleft, items, before', after, dirs, cleanup, w', ?_, hundone.of_course hnoted hsame,
    hplain₃, hnow₃.trans hnow'⟩
  rw [runCase, outcome_bind, outcome_attempt, h₁, Option.map_some, Option.bind_some]
  show (attempt (Scope.capture config) >>= _).outcome s w₁ = _
  rw [outcome_bind, outcome_attempt, h₂, Option.map_some, Option.bind_some]
  show (changeAndRun project config testCase (scopeOf w config) request >>= _).outcome s w₂ = _
  rw [outcome_bind, hchanges r v hwait, Option.bind_some]
  refine hnext.trans ?_
  rw [outcome_bind, h₃]
  simp only [Option.bind_some, outcome_pure, Bool.and_true]

end

end CaseRunner.Isolation

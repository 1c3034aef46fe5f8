import CaseRunner.Config.Check

/-!
# `CaseRunner.Proofs.Config.Accepted`: configurations that are accepted

A configuration is accepted if no rule is broken. What is then known of its execution are the
rules themselves (`Execution.fault?_eq_none`), and it is used as it was written
(`Source.execution_of_check`).
-/

set_option autoImplicit false

namespace CaseRunner.Config

/-- The rules that an execution obeys. -/
structure Execution.Accepted (e : Execution) : Prop where
  project : e.project.isEmpty = false
  executionConfig : Text.isBlankText e.executionConfig = false
  testCase : Text.isBlankText e.testCase = false
  dataDir : e.dataDir.isEmpty = false
  reportDir : e.reportDir.isEmpty = false
  tempTestSet : Text.isBlankText e.tempTestSet = false
  /-- The directories are spelled as different ways. -/
  differ : e.dataDir.same e.reportDir = false
  /-- If artifacts are copied, the directories do not end in the same way. -/
  finalNames : e.artifactDir.isSome = true → e.dataDir.fileName ≠ e.reportDir.fileName

theorem Execution.fault?_eq_none {e : Execution} : e.fault? = none ↔ e.Accepted := by
  constructor
  · intro h
    unfold Execution.fault? at h
    repeat' split at h
    all_goals cases h
    rename_i hproject hconfig hcase hdata hreport hset hsame hnames
    constructor <;> simp_all
  · rintro ⟨hproject, hconfig, hcase, hdata, hreport, hset, hsame, hnames⟩
    unfold Execution.fault?
    simp_all

/-- The execution of a configuration that is accepted is used as it was written. -/
theorem Source.execution_of_check {env : Environment} {source : Source} {settings : Settings}
    (h : source.check env = .ok settings) :
    settings.execution = source.execution ∧ settings.execution.Accepted := by
  unfold check at h
  split at h
  · cases h
  · cases h
  · rename_i hfault
    cases hstartup : (readDuration source.tool.startupTimeout).mapError
      ConfigFault.badStartupTimeout with
    | error fault =>
        rw [hstartup] at h
        cases h
    | ok startup =>
        cases hready : (readDuration source.tool.readinessTimeout).mapError
          ConfigFault.badReadinessTimeout with
        | error fault =>
            rw [hstartup, hready] at h
            cases h
        | ok readiness =>
            rw [hstartup, hready] at h
            cases h
            exact ⟨rfl, Execution.fault?_eq_none.mp hfault⟩

end CaseRunner.Config

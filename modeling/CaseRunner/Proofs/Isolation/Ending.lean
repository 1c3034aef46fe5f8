import CaseRunner.Proofs.Isolation.Polling
import CaseRunner.Proofs.Remote.Prompt

/-!
# `CaseRunner.Proofs.Isolation.Ending`: a case run comes to its end

The other modules say what a case run has done when it is over. Here it is shown to be over
at some time. Its parts go through lists and trees whatever becomes of their calls, so they
end, and at once (`Prompt`). There are two exceptions: the copy of the artifacts, which is a
parameter, and waiting for the run, which goes on while the tool is busy.

* `awaitCompletion_ends_of_done`: waiting ends if the tool is done with the run after a
  number of calls.
* `awaitCompletion_ends_of_interrupt`: waiting ends if the user interrupts at some time.
* `runCase_ends`: if waiting and the copy end, the case run does.
-/

set_option autoImplicit false

namespace CaseRunner.Isolation

open CaseRunner.Config (CaseRequest Millis)
open CaseRunner.Files (FileStore CopyBack)
open CaseRunner.Remote
open CaseRunner.Remote.Action

variable {σ : Type} {s : Surroundings} {w : World σ}

/-! ### Questions -/

theorem firstNamed_prompt (name : String) (configs : List ConfigRef) :
    Prompt s (firstNamed name configs : Action σ RemoteFault (Option ConfigRef)) := by
  induction configs with
  | nil => exact prompt_pure none
  | cons config rest ih =>
      refine (prompt_query rfl _).bind fun found => ?_
      by_cases hname : found = name
      · simp only [hname, if_true]
        exact prompt_pure (some config)
      · simp only [hname, if_false]
        exact ih

mutual

theorem findInTree_prompt (name : String) (tree : CaseTree) :
    Prompt s (findInTree name tree : Action σ RemoteFault (Option TestCase)) := by
  cases tree with
  | leaf testCase =>
      rw [findInTree]
      exact (prompt_query rfl _).bind fun _ => prompt_pure _
  | group label number children =>
      rw [findInTree]
      exact (prompt_query rfl _).bind fun _ => findInForest_prompt name children

theorem findInForest_prompt (name : String) (forest : List CaseTree) :
    Prompt s (findInForest name forest : Action σ RemoteFault (Option TestCase)) := by
  cases forest with
  | nil =>
      rw [findInForest]
      exact prompt_pure none
  | cons tree rest =>
      rw [findInForest]
      refine (findInTree_prompt name tree).bind fun found => ?_
      cases found with
      | some testCase => exact prompt_pure _
      | none => exact findInForest_prompt name rest

end

theorem resolve_prompt (project : ProjectRef) (request : CaseRequest) :
    Prompt s (resolve project request : Action σ Failure (ConfigRef × TestCase)) := by
  have hconfig : Prompt s (mapFailure .remote (configurationNamed project request.executionConfig) :
      Action σ Failure (Option ConfigRef)) :=
    ((prompt_query rfl _).bind fun configs => firstNamed_prompt _ configs).mapFailure
  have hcase : Prompt s (mapFailure .remote (caseNamed project request.testCase) :
      Action σ Failure (Option TestCase)) :=
    ((prompt_query rfl _).bind fun forest => findInForest_prompt _ forest).mapFailure
  refine hconfig.bind fun config => ?_
  cases config with
  | none => exact prompt_throw _
  | some config =>
      refine hcase.bind fun testCase => ?_
      cases testCase with
      | none => exact prompt_throw _
      | some testCase => exact prompt_pure _

theorem capture_prompt (config : ConfigRef) :
    Prompt s (Scope.capture config : Action σ RemoteFault Scope) := by
  refine (prompt_query rfl _).bind fun dataDir => (prompt_query rfl _).bind fun reportDir => ?_
  refine (prompt_query rfl _).bind fun items => ?_
  refine (prompt_mapM (fun item => ?_) items).bind fun assignments => prompt_pure _
  exact (prompt_query rfl _).bind fun set => prompt_pure _

theorem uniqueTestSetName_prompt (project : ProjectRef) (base : String) :
    Prompt s (uniqueTestSetName project base : Action σ RemoteFault String) := by
  refine (prompt_query rfl _).bind fun sets => ?_
  exact (prompt_mapM (fun set => prompt_query rfl _) sets).bind fun names => prompt_pure _

/-! ### Changes -/

theorem createTempSet_prompt (project : ProjectRef) (request : CaseRequest) :
    Prompt s (createTempSet project request : Action σ Failure TestSetRef) := by
  have hname := uniqueTestSetName_prompt (σ := σ) (s := s) project request.tempTestSet
  refine (hname.bind fun name => (prompt_note _ _ _ _).bind fun _ => ?_).mapFailure
  exact prompt_createTestSet project name

theorem assignAll_prompt (set : TestSetRef) (items : List ItemRef) :
    Prompt s (assignAll set items : Action σ RemoteFault Unit) := by
  induction items with
  | nil => exact prompt_pure ()
  | cons item rest ih => exact (prompt_setTestSet item _).bind fun _ => ih

theorem orStop_ends {α : Type} {applied : Applied} {step : Action σ Failure α}
    {next : α → Action σ Failure Progress} (hstep : Ends s step) (hnext : ∀ a, Ends s (next a)) :
    Ends s (orStop applied step next) := by
  refine hstep.attempt.bind fun result => ?_
  cases result with
  | ok a => exact hnext a
  | error failure => exact ends_pure _

section
variable [FileStore σ]

theorem prepareDir_ends (dir : FilePath) (what : String) :
    FileAction.Ends (σ := σ) (prepareDir dir what) := by
  refine FileAction.Ends.bind (fun ws => ?_) fun path => ?_
  · rw [FileAction.run_tryAsk]
    rfl
  refine FileAction.Ends.bind (fun ws => rfl) fun _ => ?_
  refine FileAction.Ends.bind (fun ws => rfl) fun _ => ?_
  exact FileAction.Ends.bind (fun ws => rfl) fun _ ws => rfl

theorem isolateData_prompt (config : ConfigRef) (request : CaseRequest) :
    Prompt s (isolateData config request : Action σ Failure FilePath) := by
  refine (prompt_ofFiles (prepareDir_ends _ _)).bind fun dir => ?_
  refine (prompt_note _ _ _ _).bind fun _ => ?_
  exact (prompt_setDataDir config _).mapFailure.bind fun _ => prompt_pure dir

theorem isolateReport_prompt (config : ConfigRef) (request : CaseRequest) :
    Prompt s (isolateReport config request : Action σ Failure FilePath) := by
  refine (prompt_ofFiles (prepareDir_ends _ _)).bind fun dir => ?_
  refine (prompt_note _ _ _ _).bind fun _ => ?_
  exact (prompt_setReportDir config _).mapFailure.bind fun _ => prompt_pure dir

theorem startRun_prompt (config : ConfigRef) (testCase : TestCase) (scope : Scope)
    (set : TestSetRef) (request : CaseRequest) :
    Prompt s (startRun config testCase scope set request : Action σ Failure Nat) := by
  refine Prompt.mapFailure ((prompt_addTestCase set testCase).bind fun _ => ?_)
  refine (assignAll_prompt set _).bind fun _ => ?_
  exact (prompt_note _ _ _ _).bind fun _ => prompt_run config

end

/-! ### Waiting -/

theorem isBusy_ends (run : Nat) : Ends s (isBusy run : Action σ RemoteFault Bool) := by
  have hrunning : Ends s (isRunning run : Action σ RemoteFault Bool) :=
    ends_perform fun _ => ends_read_bind (ends_pure _)
  have hpending : Ends s (isPending run : Action σ RemoteFault Bool) :=
    ends_perform fun _ => ends_read_bind (ends_pure _)
  refine hrunning.bind fun running => ?_
  cases running with
  | true => exact ends_pure true
  | false => exact hpending

/-- A run is busy if the tool says that it is running or pending. To find that takes a call
and no time. -/
theorem isBusy_true {run : Nat} {w' : World σ}
    (h : (isBusy run).outcome s w = some (.ok true, w')) :
    w.calls.length < w'.calls.length ∧ w'.now = w.now ∧
      (s.running w.calls run = true ∨
        s.pending (⟨.isRunning run, .granted⟩ :: w.calls) run = true) := by
  unfold isBusy at h
  rcases bind_cases h with ⟨running, w₁, h₁, h⟩ | ⟨fault, -, hr⟩
  rotate_left
  · cases hr
  rcases perform_cases h₁ with h₁ | ⟨_, _, -, hr, -⟩
  rotate_left
  · cases hr
  simp only [outcome_bind, outcome_read, outcome_pure, Option.bind_some, Option.some.injEq,
    Prod.mk.injEq, Except.ok.injEq] at h₁
  obtain ⟨hrunning, rfl⟩ := h₁
  cases running with
  | true =>
      simp only [if_true, outcome_pure, Option.some.injEq, Prod.mk.injEq] at h
      rw [← h.2]
      exact ⟨Nat.lt_succ_self _, rfl, .inl hrunning⟩
  | false =>
      simp only [Bool.false_eq_true, if_false] at h
      rcases perform_cases h with h | ⟨_, _, -, hr, -⟩
      · simp only [outcome_bind, outcome_read, outcome_pure, Option.bind_some,
          Option.some.injEq, Prod.mk.injEq, Except.ok.injEq] at h
        rw [← h.2]
        exact ⟨Nat.lt_succ_of_lt (Nat.lt_succ_self _), rfl, .inr h.1⟩
      · cases hr

/-- Waiting goes on for another round only if the run is busy and no interruption comes
during the pause. -/
theorem awaitCompletion_ends_succ {run rounds : Nat} {interval : Millis}
    (h : ∀ w₁ w₂, (isBusy run).outcome s w = some (.ok true, w₁) →
      (pause interval "waiting for the execution to finish").outcome s w₁ = some (.ok (), w₂) →
      ((awaitCompletion run interval rounds).outcome s w₂).isSome) :
    ((awaitCompletion run interval (rounds + 1)).outcome s w).isSome := by
  obtain ⟨⟨answer, w₁⟩, hanswer⟩ := Option.isSome_iff_exists.mp (isBusy_ends run w)
  rw [awaitCompletion]
  show ((mapFailure Failure.remote (isBusy run) >>= _).outcome s w).isSome
  rw [outcome_bind, outcome_mapFailure, hanswer, Option.map_some, Option.bind_some]
  cases answer with
  | error fault => rfl
  | ok busy =>
      cases busy with
      | false => exact ends_note _ _ _ _ w₁
      | true =>
          obtain ⟨⟨result, w₂⟩, hpause⟩ := Option.isSome_iff_exists.mp
            (pause_ends interval "waiting for the execution to finish" w₁)
          show ((attempt (pause interval _) >>= _).outcome s w₁).isSome
          rw [outcome_bind, outcome_attempt, hpause, Option.map_some, Option.bind_some]
          cases result with
          | ok => exact h w₁ w₂ hanswer hpause
          | error failure =>
              -- Whether or not the tool cancels the run, the wait is over.
              refine (ends_note _ _ _ _).bind (fun _ => ?_) w₂
              refine (ends_command _ _).attempt.bind fun cancelled => ?_
              cases cancelled with
              | ok => exact (ends_pure ()).bind fun _ => ends_throw failure
              | error fault => exact (ends_note _ _ _ _).bind fun _ => ends_throw failure

/-- Waiting ends if the tool is done with the run after a number of calls. -/
theorem awaitCompletion_ends_of_done {run rounds n : Nat} {interval : Millis}
    (hdone : ∀ history, n ≤ history.length →
      s.running history run = false ∧ s.pending history run = false)
    (hn : n ≤ w.calls.length + rounds) :
    ((awaitCompletion run interval (rounds + 1)).outcome s w).isSome := by
  induction rounds generalizing w with
  | zero =>
      -- In the last round the tool is done, so the run cannot have been found busy.
      refine awaitCompletion_ends_succ fun w₁ w₂ hbusy _ => ?_
      obtain ⟨-, -, hrunning | hpending⟩ := isBusy_true hbusy
      · rw [(hdone _ hn).1] at hrunning
        cases hrunning
      · have hlonger : n ≤ (⟨.isRunning run, .granted⟩ :: w.calls : History).length :=
          Nat.le_succ_of_le hn
        rw [(hdone _ hlonger).2] at hpending
        cases hpending
  | succ rounds ih =>
      refine awaitCompletion_ends_succ fun w₁ w₂ hbusy hpause => ih ?_
      have hcalls : w₂.calls = w₁.calls := (pause_course hpause).calls
      have hlonger := (isBusy_true hbusy).1
      rw [hcalls]
      omega

/-- Waiting ends if the user interrupts at a moment that so many rounds lead up to. -/
theorem awaitCompletion_ends_of_interrupt {run rounds : Nat} {moment interval : Millis}
    (hinterrupt : s.interruptAt = some moment)
    (hmoment : moment ≤ w.now + rounds * min interval longPause) :
    ((awaitCompletion run interval (rounds + 1)).outcome s w).isSome := by
  induction rounds generalizing w with
  | zero =>
      -- In the last round the moment has come, so the pause cannot have lasted.
      refine awaitCompletion_ends_succ fun w₁ w₂ hbusy hpause => ?_
      obtain ⟨-, hnow, -⟩ := isBusy_true hbusy
      have hbefore := (pause_ok hinterrupt hpause).1
      rw [hnow] at hbefore
      exact absurd hbefore (Nat.not_lt_of_le (by simpa using hmoment))
  | succ rounds ih =>
      refine awaitCompletion_ends_succ fun w₁ w₂ hbusy hpause => ih ?_
      obtain ⟨-, hnow, -⟩ := isBusy_true hbusy
      have hpassed := (pause_ok hinterrupt hpause).2
      calc moment
        _ ≤ w.now + (rounds + 1) * min interval longPause := hmoment
        _ = w₁.now + min interval longPause + rounds * min interval longPause := by
          rw [hnow, Nat.succ_mul, Nat.add_comm (rounds * _), Nat.add_assoc]
        _ ≤ w₂.now + rounds * min interval longPause := Nat.add_le_add_right hpassed _

/-- What puts an end to every wait: the tool is done with all runs after a number of calls
that is less than the bound on rounds, or the user interrupts before that bound is reached. -/
def Bounded (s : Surroundings) (interval : Millis) : Prop :=
  (∃ n < s.patience, ∀ history run, n ≤ history.length →
    s.running history run = false ∧ s.pending history run = false) ∨
  ∃ moment rounds, s.interruptAt = some moment ∧ s.patience = rounds + 1 ∧
    moment ≤ rounds * min interval longPause

/-- Waiting ends if something puts an end to it. -/
theorem Bounded.awaitCompletion_ends {interval : Millis} (h : Bounded s interval) (run : Nat) :
    Ends s (awaitCompletion run interval s.patience : Action σ Failure Unit) := by
  intro w
  rcases h with ⟨n, hn, hdone⟩ | ⟨moment, rounds, hinterrupt, hpatience, hmoment⟩
  · obtain ⟨rounds, hpatience⟩ := Nat.exists_eq_succ_of_ne_zero (Nat.ne_zero_of_lt hn)
    rw [hpatience]
    exact awaitCompletion_ends_of_done (hdone · run) (by omega)
  · rw [hpatience]
    exact awaitCompletion_ends_of_interrupt hinterrupt (Nat.le_add_left_of_le hmoment)

/-- Making the changes ends if waiting does. -/
theorem changeAndRun_ends [FileStore σ] {project : ProjectRef} {config : ConfigRef}
    {testCase : TestCase} {scope : Scope} {request : CaseRequest}
    (hwait : Bounded s request.statusInterval) :
    Ends s (changeAndRun project config testCase scope request : Action σ Failure Progress) := by
  refine orStop_ends (isolateData_prompt config request).ends fun dataDir => ?_
  refine orStop_ends (isolateReport_prompt config request).ends fun reportDir => ?_
  refine orStop_ends (createTempSet_prompt project request).ends fun set => ?_
  refine orStop_ends (startRun_prompt config testCase scope set request).ends fun number => ?_
  exact ends_read_bind (orStop_ends (hwait.awaitCompletion_ends number) fun _ => ends_pure _)

/-! ### Putting things back -/

theorem restoreItems_prompt (assignments : List Assignment) (index : Nat) :
    Prompt s (Scope.restoreItems index assignments : Action σ Failure Bool) := by
  induction assignments generalizing index with
  | nil => exact prompt_pure true
  | cons a rest ih =>
      have hitem : Prompt s (Scope.restoreItem index a : Action σ Failure Bool) := by
        refine (prompt_setTestSet _ _).attempt.bind fun result => ?_
        cases result with
        | ok => exact prompt_pure true
        | error fault => exact (prompt_note _ _ _ _).bind fun _ => prompt_pure false
      exact hitem.bind fun restored => (ih (index + 1)).bind fun others => prompt_pure _

theorem restoreDirectory_prompt (what : String) {restore : Action σ RemoteFault Unit}
    (h : Prompt s restore) : Prompt s (Scope.restoreDirectory what restore) := by
  refine h.attempt.bind fun result => ?_
  cases result with
  | ok => exact prompt_pure true
  | error fault => exact (prompt_note _ _ _ _).bind fun _ => prompt_pure false

theorem deleteTempSet_prompt (project : ProjectRef) (set : TestSetRef) :
    Prompt s (deleteTempSet project set : Action σ Failure Unit) := by
  refine (prompt_query rfl _).attempt.bind fun name => (prompt_note _ _ _ _).bind fun _ => ?_
  refine (prompt_deleteTestSet project set).attempt.bind fun result => ?_
  cases result with
  | ok => exact prompt_pure ()
  | error fault => exact prompt_note _ _ _ _

/-- Putting everything back ends at once if the copy ends. -/
theorem compensate_prompt {copyBack : CopyBack σ} (hcopy : ∀ dirs, (copyBack dirs).Ends)
    (project : ProjectRef) (config : ConfigRef) (scope : Scope) (applied : Applied) :
    Prompt s (compensate copyBack project config scope applied) := by
  have hkeep (dirs : List FilePath) : Prompt s (keepArtifacts copyBack dirs) := by
    refine (prompt_modify fun _ => ?_).bind fun _ => ?_
    · exact ⟨rfl, rfl⟩
    refine (prompt_ofFiles (hcopy dirs)).attempt.bind fun result => ?_
    cases result with
    | ok => exact prompt_pure ()
    | error failure => exact prompt_note _ _ _ _
  have hdirs : Prompt s (scope.restoreDirectories config : Action σ Failure Bool) := by
    refine (prompt_note _ _ _ _).bind fun _ => ?_
    refine (restoreDirectory_prompt _ (prompt_setDataDir config _)).bind fun _ => ?_
    exact (restoreDirectory_prompt _ (prompt_setReportDir config _)).bind fun _ => prompt_pure _
  -- The artifacts are copied only if the run was started, and the rest is done in both cases.
  refine (restoreItems_prompt _ _).bind fun restored => ?_
  cases applied.runStarted with
  | true =>
      refine (hkeep _).bind fun _ => hdirs.bind fun _ => ?_
      cases applied.tempTestSet with
      | none => exact prompt_pure _
      | some set => exact (deleteTempSet_prompt project set).bind fun _ => prompt_pure _
  | false =>
      refine hdirs.bind fun _ => ?_
      cases applied.tempTestSet with
      | none => exact prompt_pure _
      | some set => exact (deleteTempSet_prompt project set).bind fun _ => prompt_pure _

/-- A case run ends, whatever becomes of its calls, if something puts an end to waiting and
the copy of the artifacts ends. -/
theorem runCase_ends [FileStore σ] {copyBack : CopyBack σ} {project : ProjectRef}
    {request : CaseRequest} (hcopy : ∀ dirs, (copyBack dirs).Ends)
    (hwait : Bounded s request.statusInterval) :
    Ends s (runCase copyBack project request) := by
  refine (resolve_prompt project request).ends.attempt.bind fun resolved => ?_
  cases resolved with
  | error failure => exact (ends_note _ _ _ _).bind fun _ => ends_pure false
  | ok found =>
      obtain ⟨config, testCase⟩ := found
      refine (capture_prompt config).ends.attempt.bind fun captured => ?_
      cases captured with
      | error fault => exact (ends_note _ _ _ _).bind fun _ => ends_pure false
      | ok scope =>
          refine (changeAndRun_ends hwait).bind fun progress => ?_
          have hrest (ok : Bool) : Ends s (show Action σ Failure Bool from do
              let restored ← compensate copyBack project config scope progress.applied
              return ok && restored) :=
            (compensate_prompt hcopy project config scope _).ends.bind fun _ => ends_pure _
          cases progress.result with
          | ok => exact hrest true
          | error failure => exact (ends_note _ _ _ _).bind fun _ => hrest false

end CaseRunner.Isolation

import CaseRunner.Proofs.Isolation.Detached
import CaseRunner.Proofs.Remote.Listing

/-!
# `CaseRunner.Proofs.Isolation.Forward`: making the changes, up to where they end

The changes for a run are made in five stages: the data directory, the report directory, the
temporary test set, the start of the run, and its end. Each stage is told here by the calls
it makes and by how it ends (`isolate_cases`, `createTempSet_cases`, `startRun_cases`,
`waits_cases`). The relation `Forward` lists where the changes can end, one case for each
stage, and `changeAndRun_cases` says that there are no others.
-/

set_option autoImplicit false

namespace CaseRunner.Isolation

open CaseRunner.Config (CaseRequest)
open CaseRunner.Files (FileStore)
open CaseRunner.Remote
open CaseRunner.Remote.Action

variable {σ : Type} {s : Surroundings} {w w' : World σ}

/-! ### Empty directories -/

section
variable [FileStore σ]

/-- An empty directory is made at the absolute path of `dir`, and `files'` are the files
after that. -/
structure Prepared (files : σ) (dir path : FilePath) (files' : σ) : Prop where
  absolute : FileStore.absolute files dir = .ok path
  emptied : ∃ created, (FileStore.createDir path).run.run files = (.ok (), created) ∧
    (FileStore.clearDir path).run.run created = (.ok (), files')

/-- There is one way at most to prepare a directory. -/
theorem Prepared.unique {files files₁ files₂ : σ} {dir path₁ path₂ : FilePath}
    (h₁ : Prepared files dir path₁ files₁) (h₂ : Prepared files dir path₂ files₂) :
    path₁ = path₂ ∧ files₁ = files₂ := by
  obtain ⟨habs₁, created₁, hcreate₁, hclear₁⟩ := h₁
  obtain ⟨habs₂, created₂, hcreate₂, hclear₂⟩ := h₂
  rw [habs₁] at habs₂
  cases habs₂
  rw [hcreate₁] at hcreate₂
  cases hcreate₂
  rw [hclear₁] at hclear₂
  cases hclear₂
  exact ⟨rfl, rfl⟩

/-- Preparing a directory makes no calls. It fails if there is a fault in the files. -/
theorem prepareDir_cases {dir : FilePath} {what : String} {r : Except Failure FilePath}
    (h : (ofFiles (prepareDir dir what)).outcome s w = some (r, w')) :
    Course w [] w' ∧
      ((∃ path, r = .ok path ∧ Prepared w.files dir path w'.files) ∨
        ((∃ failure, r = .error failure) ∧ ¬∃ path files', Prepared w.files dir path files')) := by
  rw [outcome_ofFiles, Option.map_eq_some_iff] at h
  obtain ⟨⟨result, workspace⟩, ho, heq⟩ := h
  simp only [Prod.mk.injEq] at heq
  obtain ⟨rfl, rfl⟩ := heq
  refine ⟨.of_eq rfl ⟨rfl, rfl, rfl⟩ rfl, ?_⟩
  simp only [prepareDir, FileAction.run_bind, FileAction.run_tryAsk, FileAction.run_note,
    FileAction.run_change, FileAction.run_pure, Option.bind_some, Workspace.note] at ho
  -- Three steps can fail: the absolute path, the directory, and clearing it. The files after
  -- each of them are determined, so a failure rules out that the directory can be prepared.
  cases habs : FileStore.absolute w.files dir with
  | error fault =>
      simp only [habs, mapError_error, Option.some.injEq, Prod.mk.injEq] at ho
      refine .inr ⟨⟨_, ho.1.symm⟩, ?_⟩
      rintro ⟨path, files', hp⟩
      rw [hp.absolute] at habs
      cases habs
  | ok path =>
      rcases hcreate : (FileStore.createDir path).run.run w.files with ⟨fault | _, created⟩
      · simp only [habs, hcreate, mapError_ok, mapError_error, Option.some.injEq,
          Prod.mk.injEq] at ho
        refine .inr ⟨⟨_, ho.1.symm⟩, ?_⟩
        rintro ⟨path', files', hp⟩
        obtain ⟨hpath, _, hp, -⟩ := hp
        rw [habs] at hpath
        cases hpath
        rw [hcreate] at hp
        cases hp
      · rcases hclear : (FileStore.clearDir path).run.run created with ⟨fault | _, files'⟩
        · simp only [habs, hcreate, hclear, mapError_ok, mapError_error, Option.some.injEq,
            Prod.mk.injEq] at ho
          refine .inr ⟨⟨_, ho.1.symm⟩, ?_⟩
          rintro ⟨path', files', hp⟩
          obtain ⟨hpath, _, hp, hp'⟩ := hp
          rw [habs] at hpath
          cases hpath
          rw [hcreate] at hp
          cases hp
          rw [hclear] at hp'
          cases hp'
        · simp only [habs, hcreate, hclear, mapError_ok, Option.some.injEq, Prod.mk.injEq] at ho
          exact .inl ⟨path, ho.1.symm, habs, created, hcreate, by rw [hclear, ← ho.2]⟩

/-- How a directory of a configuration can be set to an empty one: the calls, and if it was
done the path and the files after that. -/
inductive Isolates (files : σ) (dir : FilePath) (call : FilePath → Call) :
    History → Option (FilePath × σ) → Prop
  /-- The directory is empty and is set. -/
  | done {path : FilePath} {files' : σ} (h : Prepared files dir path files') :
    Isolates files dir call [⟨call path, .granted⟩] (some (path, files'))
  /-- There is a fault in the files. -/
  | unprepared (h : ¬∃ path files', Prepared files dir path files') :
    Isolates files dir call [] none
  /-- The call that sets the directory is not granted. -/
  | refused {path : FilePath} {v : Verdict} (h : FileStore.absolute files dir = .ok path)
    (hv : v ≠ .granted) : Isolates files dir call [⟨call path, v⟩] none

/-- Setting an empty directory, by whatever command that is done. -/
theorem isolate_cases {dir : FilePath} {what message : String} {call : FilePath → Call}
    {change : FilePath → World σ → World σ} {r : Except Failure FilePath}
    (hchange : ∀ path w, change path w = w.obey (call path))
    (h : (show Action σ Failure FilePath from do
      let path ← ofFiles (prepareDir dir what)
      note .info .transaction message [("path", path.text)]
      mapFailure .remote (command (call path) (change path))
      return path).outcome s w = some (r, w')) :
    ∃ made, Course w made w' ∧
      Isolates w.files dir call made (r.toOption.map fun path => (path, w'.files)) := by
  rcases bind_cases h with ⟨path, w₁, h₁, h⟩ | ⟨failure, h₁, rfl⟩
  · obtain ⟨hcourse₁, ⟨_, hr, hprepared⟩ | ⟨⟨_, hr⟩, -⟩⟩ := prepareDir_cases h₁
    · cases hr
      -- The directory is empty. Whether it is set is up to the one call.
      rcases bind_cases (note_bind_cases h) with ⟨_, w₂, h₂, h⟩ | ⟨failure, h₂, rfl⟩
      · obtain ⟨result, ho, hr⟩ := mapFailure_cases h₂
        obtain ⟨v, hcourse₂, hfiles, ⟨rfl, rfl⟩ | ⟨⟨_, rfl⟩, -⟩⟩ := command_course (hchange path) ho
        · simp only [outcome_pure, Option.some.injEq, Prod.mk.injEq] at h
          obtain ⟨rfl, rfl⟩ := h
          refine ⟨_, (hcourse₁.noted _).trans hcourse₂, .done ?_⟩
          rw [hfiles]
          exact hprepared
        · cases hr
      · obtain ⟨result, ho, hr⟩ := mapFailure_cases h₂
        obtain ⟨v, hcourse₂, -, ⟨rfl, -⟩ | ⟨-, hv⟩⟩ := command_course (hchange path) ho
        · cases hr
        · exact ⟨_, (hcourse₁.noted _).trans hcourse₂, .refused hprepared.absolute hv⟩
    · cases hr
  · obtain ⟨hcourse, ⟨_, hr, -⟩ | ⟨-, hprepared⟩⟩ := prepareDir_cases h₁
    · cases hr
    · exact ⟨[], hcourse, .unprepared hprepared⟩

end

/-! ### Calls in a row that are not all granted -/

/-- The changes were to be `calls`, of which `last` is the last one, and a call failed before
that was done. -/
structure Halts (made : History) (calls : List Call) (last : Call) : Prop where
  attempted : made.changes <+: calls
  undone : ⟨last, .granted⟩ ∉ made
  fault : ¬made.Granted

/-- Calls in a row halt at one that is not granted. -/
theorem Halts.of_sequence {made : History} {before : List Call} {last : Call}
    (hchanges : ∀ call ∈ before ++ [last], call.mutates = true) (hlast : last ∉ before)
    (hseq : made.sequence <+: before ++ [last]) (htail : History.Granted made.tail)
    (hfault : ¬made.Granted) : Halts made (before ++ [last]) last where
  attempted := by
    rw [History.changes_of_all fun call hcall => hchanges call (hseq.subset hcall)]
    exact hseq
  undone := by
    intro hmem
    cases made with
    | nil => exact hfault History.granted_nil
    | cons record rest =>
        -- The newest call is the one that failed, so the last one would be among the rest.
        have hrecord : record.verdict ≠ .granted := fun hg =>
          hfault (History.granted_cons.mpr ⟨hg, htail⟩)
        rcases List.mem_cons.mp hmem with heq | hrest
        · exact hrecord (by rw [← heq])
        · have hbegun : History.sequence rest <+: before := by
            rw [← List.singleton_append, History.sequence_append] at hseq
            refine List.prefix_of_prefix_length_le ((List.prefix_append _ _).trans hseq)
              (List.prefix_append _ _) ?_
            have hlen := hseq.length_le
            simpa [History.sequence] using hlen
          refine hlast (hbegun.subset ?_)
          exact List.mem_map_of_mem (f := (·.call)) (List.mem_reverse.mpr hrest)
  fault := hfault

/-! ### The temporary test set -/

/-- The temporary test set of a request, as it will be if it is created. -/
def tempSetOf (w : World σ) (project : ProjectRef) (request : CaseRequest) : TestSetRef :=
  ⟨w.contents.length, freeName (w.takenNames project) request.tempTestSet⟩

/-- What is asked has no part in the temporary test set. -/
theorem tempSetOf_of_asks {project : ProjectRef} {request : CaseRequest} {made : History}
    (h : Asks w made w') : tempSetOf w' project request = tempSetOf w project request := by
  simp only [tempSetOf, h.contents, World.takenNames, h.sameTool.project]

/-- The call that creates a test set, after questions that were all answered. -/
def Creates (made : History) (call : Call) : Prop :=
  ∃ asked, made = ⟨call, .granted⟩ :: asked ∧ History.Quiet asked ∧ History.Granted asked

/-- Creating the temporary test set asks for the names that are taken, and then for the new
test set. -/
theorem createTempSet_cases {project : ProjectRef} {request : CaseRequest}
    {r : Except Failure TestSetRef}
    (h : (createTempSet project request).outcome s w = some (r, w')) :
    let set := tempSetOf w project request
    let call := Call.createTestSet project set.name
    ∃ made, Course w made w' ∧
      ((r = .ok set ∧ Creates made call) ∨
        ((∃ failure, r = .error failure) ∧ Halts made [call] call)) := by
  intro set call
  obtain ⟨result, ho, rfl⟩ := mapFailure_cases h
  have hanswers := uniqueTestSetName_answers w project request.tempTestSet
  rcases bind_cases ho with ⟨name, w₁, h₁, ho⟩ | ⟨fault, h₁, rfl⟩
  · obtain ⟨asked, hasks, ⟨hr, hg⟩ | ⟨⟨_, hr⟩, -⟩⟩ := hanswers.cases (.refl w) h₁
    · cases hr
      obtain ⟨v, hcourse, -, hend⟩ := createTestSet_course (note_bind_cases ho)
      have hall : Course w (⟨call, v⟩ :: asked) w' := (hasks.course.noted _).trans hcourse
      -- The new test set is numbered when it is created, but no question changes how many there
      -- are.
      have hnumber : w₁.contents.length = w.contents.length := by rw [hasks.contents]
      rcases hend with ⟨rfl, rfl⟩ | ⟨⟨fault, rfl⟩, hv⟩
      · refine ⟨_, hall, .inl ⟨?_, asked, rfl, hasks.quiet, hg⟩⟩
        simp only [set, tempSetOf, mapError_ok, hnumber]
      · refine ⟨_, hall, .inr ⟨⟨_, rfl⟩, ?_, ?_, ?_⟩⟩
        · have hone : History.changes (⟨call, v⟩ :: asked) = [call] :=
            History.changes_cons_of_quiet hasks.quiet rfl
          exact hone ▸ List.prefix_rfl
        · intro hmem
          rcases List.mem_cons.mp hmem with heq | hmem
          · exact hv (by cases heq; rfl)
          · exact hasks.quiet.not_mem rfl hmem
        · exact fun hg => hv (History.granted_cons.mp hg).1
    · cases hr
  · obtain ⟨asked, hasks, ⟨hr, -⟩ | ⟨_, hg⟩⟩ := hanswers.cases (.refl w) h₁
    · cases hr
    · refine ⟨asked, hasks.course, .inr ⟨⟨_, rfl⟩, ?_, ?_, hg⟩⟩
      · rw [History.changes_of_quiet hasks.quiet]
        exact List.nil_prefix
      · exact hasks.quiet.not_mem rfl

/-! ### The start of the run -/

/-- The calls that lead from the empty temporary test set to the run. -/
def preparing (testCase : TestCase) (scope : Scope) (set : TestSetRef) : List Call :=
  .addTestCase set testCase :: scope.items.map fun item => .setTestSet item (some set)

/-- Preparing a run and starting it are changes. -/
theorem mutates_of_mem_preparing {config : ConfigRef} {testCase : TestCase} {scope : Scope}
    {set : TestSetRef} {call : Call}
    (h : call ∈ preparing testCase scope set ++ [.run config]) : call.mutates = true := by
  simp only [preparing, List.cons_append, List.mem_cons, List.mem_append, List.mem_map,
    List.not_mem_nil, or_false] at h
  rcases h with rfl | ⟨item, -, rfl⟩ | rfl <;> rfl

/-- Giving items a test set is one call for each. -/
theorem assignAll_tries (set : TestSetRef) (items : List ItemRef) :
    Tries (assignAll set items : Action σ RemoteFault Unit)
      (items.map fun item => .setTestSet item (some set)) fun _ => () := by
  induction items with
  | nil => exact .pure ()
  | cons item rest ih => exact Tries.bind (.command fun _ => rfl) ih fun _ _ _ _ _ => rfl

/-- Calls that prepare a run start none. -/
theorem runs_of_preparing {made : History} (testCase : TestCase) (scope : Scope)
    (set : TestSetRef) (hcourse : Course w made w')
    (hseq : ∀ call ∈ made.sequence, call ∈ preparing testCase scope set) : w'.runs = w.runs := by
  rw [hcourse.tool.runs]
  refine w.runs_replay fun record hr config heq => ?_
  have hmem := hseq record.call (List.mem_map_of_mem (List.mem_reverse.mpr hr))
  rw [heq] at hmem
  simp [preparing] at hmem

/-- Starting the run fills the temporary test set, gives it to all items and then starts. -/
theorem startRun_cases [FileStore σ] {config : ConfigRef} {testCase : TestCase} {scope : Scope}
    {set : TestSetRef} {request : CaseRequest} {r : Except Failure Nat}
    (h : (startRun config testCase scope set request).outcome s w = some (r, w')) :
    ∃ made, Course w made w' ∧ History.Granted made.tail ∧
      ((r = .ok w.runs.length ∧ made.sequence = preparing testCase scope set ++ [.run config] ∧
          made.Granted) ∨
        ((∃ failure, r = .error failure) ∧
          Halts made (preparing testCase scope set ++ [.run config]) (.run config))) := by
  -- The stage is composed from its end: the run, the items before it, the test case first.
  -- The number of the run stays that of the world at the beginning all the way.
  have hrun : Tries (run config : Action σ RemoteFault Nat) [.run config] (·.runs.length) :=
    .one fun _ _ _ _ h => (run_course h).imp fun _ hv => ⟨hv.1, hv.2.1⟩
  have hnoted := hrun.noting .info .transaction "starting execution"
    [("config", request.executionConfig)] fun _ _ => rfl
  have hassigned := (assignAll_tries set scope.items).bind hnoted fun w made w₁ hcourse hseq => by
    rw [runs_of_preparing testCase scope set hcourse]
    simp [hseq, preparing]
  have hadd : Tries (addTestCase set testCase : Action σ RemoteFault Unit)
      [.addTestCase set testCase] fun _ => () := .command fun _ => rfl
  have hall := hadd.bind hassigned fun w made w₁ hcourse hseq => by
    rw [runs_of_preparing testCase scope set hcourse]
    simp [hseq, preparing]
  obtain ⟨result, ho, rfl⟩ := mapFailure_cases h
  obtain ⟨made, hcourse, htail, ⟨rfl, hseq, hg⟩ | ⟨⟨fault, rfl⟩, hseq, hg⟩⟩ := hall _ _ _ _ ho
  · exact ⟨made, hcourse, htail, .inl ⟨rfl, hseq, hg⟩⟩
  · refine ⟨made, hcourse, htail, .inr ⟨⟨_, rfl⟩, .of_sequence ?_ ?_ hseq htail hg⟩⟩
    · exact fun _ => mutates_of_mem_preparing
    · simp [preparing]

/-- Starting the run changes no file but those that the run writes. -/
theorem startRun_writes [FileStore σ] {config : ConfigRef} {testCase : TestCase} {scope : Scope}
    {set : TestSetRef} {request : CaseRequest} {number : Nat}
    (h : (startRun config testCase scope set request).outcome s w = some (.ok number, w')) :
    ∃ record, w'.runs = w.runs ++ [record] ∧
      w'.files = deposited record s.products w.files := by
  have hview := detached_filesAndRuns (σ := σ)
  obtain ⟨result, ho, hr⟩ := mapFailure_cases h
  rcases bind_cases ho with ⟨_, w₁, h₁, ho⟩ | ⟨fault, h₁, rfl⟩
  · rcases bind_cases ho with ⟨_, w₂, h₂, ho⟩ | ⟨fault, h₂, rfl⟩
    · have hsame : filesAndRuns w₂ = filesAndRuns w :=
        (keeps_assignAll hview set scope.items h₂).trans (keeps_addTestCase hview set testCase h₁)
      obtain ⟨hfiles, hruns⟩ := Prod.mk.inj hsame
      obtain ⟨v, -, ⟨-, rfl⟩ | ⟨⟨fault, rfl⟩, -⟩, hwrites⟩ := run_course (note_bind_cases ho)
      · obtain ⟨hrun, hwritten⟩ := hwrites rfl
        exact ⟨_, hrun.trans (congrArg (· ++ _) hruns),
          hwritten.trans (congrArg (deposited _ _) hfiles)⟩
      · cases hr
    · cases hr
  · cases hr

/-! ### Where the changes can end -/

section
variable [FileStore σ]

/-- The two directories of a request are empty, one after the other, at their paths. -/
def DirsPrepared (files : σ) (request : CaseRequest) (dataDir reportDir : FilePath) : Prop :=
  ∃ files₁ files₂, Prepared files request.dataDir dataDir files₁ ∧
    Prepared files₁ request.reportDir reportDir files₂

/-- In `w'` a run has been started since `w`. The files are those of `w` with the two directories
prepared, one after the other, and then with what that run has written. -/
def LeftByRun (s : Surroundings) (w : World σ) (request : CaseRequest)
    (dataDir reportDir : FilePath) (w' : World σ) : Prop :=
  ∃ files₁ files₂ record, Prepared w.files request.dataDir dataDir files₁ ∧
    Prepared files₁ request.reportDir reportDir files₂ ∧ w'.runs = w.runs ++ [record] ∧
    w'.files = deposited record s.products files₂

/-- The calls that set the directories, all granted. -/
def isolating (config : ConfigRef) (dataDir reportDir : FilePath) : History :=
  [⟨.setReportDir config reportDir.text, .granted⟩, ⟨.setDataDir config dataDir.text, .granted⟩]

/-- Waiting for a run ends well, with a call that is not granted, or with the run cancelled. -/
inductive Waits (number : Nat) : History → Bool → Prop
  /-- The run came to its end. -/
  | done {polls : History} (hq : polls.Quiet) (hg : polls.Granted) : Waits number polls true
  /-- A question failed. -/
  | failed {polls : History} (hq : polls.Quiet) (hg : ¬polls.Granted) : Waits number polls false
  /-- The user interrupted. -/
  | interrupted {polls : History} (hq : polls.Quiet) (v : Verdict) :
    Waits number (⟨.cancel number, v⟩ :: polls) false

/-- What a run has left is told by the files and the runs alone. -/
theorem LeftByRun.congr {request : CaseRequest} {dataDir reportDir : FilePath} {v v' : World σ}
    (h : LeftByRun s w request dataDir reportDir v) (hfiles : w.files = w'.files)
    (hruns : w.runs = w'.runs) (hfiles' : v'.files = v.files) (hruns' : v'.runs = v.runs) :
    LeftByRun s w' request dataDir reportDir v' := by
  obtain ⟨files₁, files₂, record, hdata, hreport, hrecord, hwritten⟩ := h
  exact ⟨files₁, files₂, record, hfiles ▸ hdata, hreport, by rw [hruns', hrecord, hruns],
    hfiles'.trans hwritten⟩

variable (project : ProjectRef) (config : ConfigRef) (testCase : TestCase) (scope : Scope)
  (request : CaseRequest) (files : σ) (set : TestSetRef) (number : Nat)

/-- How the changes for a run can end: the calls that were made, the changes that are
recorded as done, and whether all went well. -/
inductive Forward : History → Applied → Bool → Prop
  /-- The data directory could not be set. -/
  | data {made : History}
    (h : Isolates files request.dataDir (.setDataDir config ·.text) made none) :
    Forward made .nothing false
  /-- The report directory could not be set. -/
  | report {made : History} {dataDir : FilePath} {files₁ : σ}
    (hdata : Prepared files request.dataDir dataDir files₁)
    (h : Isolates files₁ request.reportDir (.setReportDir config ·.text) made none) :
    Forward (made ++ [⟨.setDataDir config dataDir.text, .granted⟩])
      ⟨some dataDir, none, none, false⟩ false
  /-- The temporary test set could not be created. -/
  | create {made : History} {dataDir reportDir : FilePath}
    (hdirs : DirsPrepared files request dataDir reportDir)
    (h : Halts made [.createTestSet project set.name] (.createTestSet project set.name)) :
    Forward (made ++ isolating config dataDir reportDir)
      ⟨some dataDir, some reportDir, none, false⟩ false
  /-- The run could not be started. -/
  | start {made created : History} {dataDir reportDir : FilePath}
    (hdirs : DirsPrepared files request dataDir reportDir)
    (hcreate : Creates created (.createTestSet project set.name))
    (h : Halts made (preparing testCase scope set ++ [.run config]) (.run config))
    (htail : History.Granted made.tail) :
    Forward (made ++ (created ++ isolating config dataDir reportDir))
      ⟨some dataDir, some reportDir, some set, false⟩ false
  /-- The run was started and waited for. -/
  | wait {polls started created : History} {dataDir reportDir : FilePath} {ok : Bool}
    (hdirs : DirsPrepared files request dataDir reportDir)
    (hcreate : Creates created (.createTestSet project set.name))
    (hseq : started.sequence = preparing testCase scope set ++ [.run config])
    (hg : started.Granted) (h : Waits number polls ok) :
    Forward (polls ++ (started ++ (created ++ isolating config dataDir reportDir)))
      ⟨some dataDir, some reportDir, some set, true⟩ ok

end

/-! ### The changes as they are made -/

/-- A stage ends the changes with those made before, or goes on to the next one. -/
theorem orStop_cases {α : Type} {applied : Applied} {step : Action σ Failure α}
    {next : α → Action σ Failure Progress} {r : Except Failure Progress}
    (h : (orStop applied step next).outcome s w = some (r, w')) :
    (∃ failure, step.outcome s w = some (.error failure, w') ∧
        r = .ok ⟨applied, .error failure⟩) ∨
      ∃ a w₁, step.outcome s w = some (.ok a, w₁) ∧ (next a).outcome s w₁ = some (r, w') := by
  obtain ⟨result, w₁, h₁, h⟩ := attempt_bind_cases h
  cases result with
  | ok a => exact .inr ⟨a, w₁, h₁, h⟩
  | error failure =>
      -- The failure of a stage is part of the progress, it is not a failure of the changes.
      simp only [outcome_pure, Option.some.injEq, Prod.mk.injEq] at h
      obtain ⟨rfl, rfl⟩ := h
      exact .inl ⟨failure, h₁, rfl⟩

/-- The temporary test set is the same after the directories have been set. -/
theorem tempSetOf_of_isolating {project : ProjectRef} {request : CaseRequest} {config : ConfigRef}
    {dataDir reportDir : FilePath} (h : Course w (isolating config dataDir reportDir) w') :
    tempSetOf w' project request = tempSetOf w project request := by
  have htaken : w'.takenNames project = w.takenNames project := by
    rw [World.takenNames, h.tool.project]
    simp only [isolating, World.replay, if_true, World.obey,
      World.testSets_updateConfiguration]
    rfl
  rw [tempSetOf, tempSetOf, htaken, h.tool.contents]
  rfl

/-- No run is started while the temporary test set is created. -/
theorem runs_of_creates {made : History} {project : ProjectRef} {config : ConfigRef}
    {name : String} {dataDir reportDir : FilePath}
    (hcreate : Creates made (.createTestSet project name))
    (h : Course w (made ++ isolating config dataDir reportDir) w') : w'.runs = w.runs := by
  obtain ⟨asked, rfl, hquiet, -⟩ := hcreate
  rw [h.tool.runs]
  refine w.runs_replay fun record hr c heq => ?_
  simp only [isolating, List.cons_append, List.mem_cons, List.mem_append, List.not_mem_nil,
    or_false] at hr
  rcases hr with rfl | hr | rfl | rfl
  · cases heq
  · exact hquiet.not_mem (by rw [heq]; rfl) hr
  · cases heq
  · cases heq

/-- Waiting for a run, told by how it ends. -/
theorem waits_cases {number rounds : Nat} {interval : Config.Millis} {r : Except Failure Unit}
    (h : (awaitCompletion number interval rounds).outcome s w = some (r, w')) :
    ∃ polls, Course w polls w' ∧ Waits number polls r.isOk ∧
      (r.isOk = true → SawEnd s number w'.calls) ∧ WaitedFor s number w'.calls := by
  obtain ⟨polls, hcourse, ⟨rfl, hq, hg, hend⟩ | ⟨⟨_, rfl⟩, hq, hg, hlast⟩ |
    ⟨⟨_, rfl⟩, v, polls, rfl, hq⟩⟩ := awaitCompletion_cases h
  · exact ⟨polls, hcourse, .done hq hg, fun _ => hend, .ended hend⟩
  · exact ⟨polls, hcourse, .failed hq hg, nofun, .unanswered hlast⟩
  · exact ⟨_, hcourse, .interrupted hq v, nofun, .cancelled ⟨v, _, hcourse.calls⟩⟩

/-- Making the changes does not fail itself. It ends in one of the ways that `Forward` lists,
and if all went well the run was seen to end. If it was started, it was waited for, and the
files are as it has left them. -/
theorem changeAndRun_cases [FileStore σ] {project : ProjectRef} {config : ConfigRef}
    {testCase : TestCase} {scope : Scope} {request : CaseRequest} {r : Except Failure Progress}
    (h : (changeAndRun project config testCase scope request).outcome s w = some (r, w')) :
    ∃ made progress, r = .ok progress ∧ Course w made w' ∧
      Forward project config testCase scope request w.files (tempSetOf w project request)
        w.runs.length made progress.applied progress.result.isOk ∧
      (progress.result.isOk = true → SawEnd s w.runs.length w'.calls) ∧
      (progress.applied.runStarted = true → WaitedFor s w.runs.length w'.calls ∧
        ∃ dataDir reportDir, progress.applied.dirs = [dataDir, reportDir] ∧
          LeftByRun s w request dataDir reportDir w') := by
  rw [changeAndRun] at h
  -- The data directory.
  rcases orStop_cases h with ⟨failure, h₁, rfl⟩ | ⟨dataDir, w₁, h₁, h⟩
  · obtain ⟨made, hcourse, hend⟩ := isolate_cases (fun _ _ => rfl) h₁
    exact ⟨made, _, rfl, hcourse, .data hend, nofun, nofun⟩
  obtain ⟨made₁, hcourse₁, hdata⟩ := isolate_cases (fun _ _ => rfl) h₁
  obtain ⟨hdata⟩ := hdata
  -- The report directory, with the files as they are after the data directory.
  rcases orStop_cases h with ⟨failure, h₂, rfl⟩ | ⟨reportDir, w₂, h₂, h⟩
  · obtain ⟨made, hcourse, hend⟩ := isolate_cases (fun _ _ => rfl) h₂
    exact ⟨_, _, rfl, hcourse₁.trans hcourse, .report hdata hend, nofun, nofun⟩
  obtain ⟨made₂, hcourse₂, hreport⟩ := isolate_cases (fun _ _ => rfl) h₂
  obtain ⟨hreport⟩ := hreport
  have hdirs : DirsPrepared w.files request dataDir reportDir := ⟨_, _, hdata, hreport⟩
  have hisolating : Course w (isolating config dataDir reportDir) w₂ := hcourse₁.trans hcourse₂
  -- The temporary test set. It is the one that the names and numbers of `w` give.
  rcases orStop_cases h with ⟨failure, h₃, rfl⟩ | ⟨set, w₃, h₃, h⟩
  · obtain ⟨made, hcourse, ⟨hr, -⟩ | ⟨-, hend⟩⟩ := createTempSet_cases h₃
    · cases hr
    · rw [tempSetOf_of_isolating hisolating] at hend
      exact ⟨_, _, rfl, hisolating.trans hcourse, .create hdirs hend, nofun, nofun⟩
  obtain ⟨made₃, hcourse₃, ⟨hr, hcreate⟩ | ⟨⟨_, hr⟩, -⟩⟩ := createTempSet_cases h₃
  rotate_left
  · cases hr
  cases hr
  rw [tempSetOf_of_isolating hisolating] at hcreate h
  have hcreated := hisolating.trans hcourse₃
  -- The start.
  rcases orStop_cases h with ⟨failure, h₄, rfl⟩ | ⟨number, w₄, h₄, h⟩
  · obtain ⟨made, hcourse, htail, ⟨hr, -⟩ | ⟨-, hend⟩⟩ := startRun_cases h₄
    · cases hr
    · exact ⟨_, _, rfl, hcreated.trans hcourse, .start hdirs hcreate hend htail, nofun,
        nofun⟩
  obtain ⟨made₄, hcourse₄, -, ⟨hr, hseq, hg⟩ | ⟨⟨_, hr⟩, -⟩⟩ := startRun_cases h₄
  rotate_left
  · cases hr
  cases hr
  -- The run that is waited for is the first one that is started in `w`.
  have hruns : w₃.runs = w.runs := runs_of_creates hcreate hcreated
  rw [hruns] at h
  have hstarted := hcreated.trans hcourse₄
  -- After the directories were prepared, only that run has written files.
  have hview := detached_filesAndRuns (σ := σ)
  obtain ⟨record, hrecord, hwritten⟩ := startRun_writes h₄
  have hcreatedFiles : w₃.files = w₂.files :=
    congrArg Prod.fst (keeps_createTempSet hview project request h₃)
  have hleft {v : World σ} (hwait : filesAndRuns v = filesAndRuns w₄) :
      LeftByRun s w request dataDir reportDir v := by
    obtain ⟨hfiles, hlist⟩ := Prod.mk.inj hwait
    exact ⟨w₁.files, w₂.files, record, hdata, hreport, by rw [hlist, hrecord, hruns],
      by rw [hfiles, hwritten, hcreatedFiles]⟩
  simp only [outcome_bind, outcome_read, Option.bind_some] at h
  rcases orStop_cases h with ⟨failure, h₅, rfl⟩ | ⟨_, w₅, h₅, h⟩
  · obtain ⟨polls, hcourse, hend, -, hwaited⟩ := waits_cases h₅
    have hwait := keeps_awaitCompletion hview _ _ _ h₅
    exact ⟨_, _, rfl, hstarted.trans hcourse, .wait hdirs hcreate hseq hg hend, nofun,
      fun _ => ⟨hwaited, dataDir, reportDir, rfl, hleft hwait⟩⟩
  · obtain ⟨polls, hcourse, hend, hsaw, hwaited⟩ := waits_cases h₅
    have hwait := keeps_awaitCompletion hview _ _ _ h₅
    simp only [outcome_pure, Option.some.injEq, Prod.mk.injEq] at h
    obtain ⟨rfl, rfl⟩ := h
    exact ⟨_, _, rfl, hstarted.trans hcourse, .wait hdirs hcreate hseq hg hend,
      fun _ => hsaw rfl, fun _ => ⟨hwaited, dataDir, reportDir, rfl, hleft hwait⟩⟩

end CaseRunner.Isolation

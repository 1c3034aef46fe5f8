import CaseRunner.Proofs.Config.Accepted
import CaseRunner.Proofs.Files.Tree
import CaseRunner.Proofs.Isolation.Success

/-!
# `CaseRunner.Proofs.Isolation.Directories`: the directories of a run

A case run prepares the data directory, then the report directory, and starts the run later.
`untilRun` is the part of it before the run is asked for. When a run is asked for, this part
has come to its end, and the world is the one it has left (`runCase_untilRun`).

In that world the configuration has the two directories. The report directory was prepared
last, so it is there and holds no file. The data directory was prepared before it, and what
clearing the report directory does to it depends on how they lie: a data directory below the
report directory is gone, and if both are the same path, there is only one. The check of the
configuration compares the two as they are spelled and not as they lie, so it rules out
neither. `runCase_directories` says exactly when the two are separate.
-/

set_option autoImplicit false

namespace CaseRunner

/-! ### Empty directories of a tree -/

namespace Files.Tree

variable {t t₁ t₂ : Tree} {dir other path dataDir reportDir : FilePath}

/-- There is a directory, and no file at its path or below. -/
structure Bare (t : Tree) (path : FilePath) : Prop where
  dir : t.find? path = some .dir
  noFile : ∀ q : FilePath, q.isAtOrBelow path = true → ∀ contents, t.find? q ≠ some (.file contents)

/-- Two directories at different paths, both without files. -/
structure Separate (t : Tree) (dataDir reportDir : FilePath) : Prop where
  differ : dataDir.same reportDir = false
  data : t.Bare dataDir
  report : t.Bare reportDir

/-- A change that went well. -/
theorem of_run_change {step : Tree → Except FileFault Tree}
    (h : (change step).run.run t = (.ok (), t₁)) : step t = .ok t₁ := by
  cases hstep : step t with
  | error fault =>
      rw [run_change_error hstep] at h
      cases h
  | ok next =>
      rw [run_change_ok hstep] at h
      cases h
      rfl

theorem absolute_of_rooted (h : path.rooted = true) : absolute path = path := if_pos h

end Files.Tree

/-- The directories of a configuration that was accepted are spelled differently. -/
theorem Config.Source.differ_of_check {env : Config.Environment} {source : Config.Source}
    {settings : Config.Settings} (h : source.check env = .ok settings) :
    settings.execution.dataDir.same settings.execution.reportDir = false :=
  (execution_of_check h).2.differ

namespace Isolation

open CaseRunner.Config (CaseRequest)
open CaseRunner.Files (FileStore CopyBack Tree)
open CaseRunner.Remote
open CaseRunner.Remote.Action

section
variable {t t₁ t₂ : Tree} {dir other dataDir reportDir : FilePath}

/-- What there is at each path after a directory has been prepared: nothing below it, and
elsewhere what was there, with directories above it where there was nothing. -/
theorem Prepared.find? (h : Prepared t dir dataDir t₁) : dataDir = Tree.absolute dir ∧
    t₁.find? dataDir = some .dir ∧ ∀ q : FilePath, t₁.find? q =
      if q.isAtOrBelow dataDir && !q.same dataDir then none
      else (t.find? q).or (if (Tree.lineage dataDir).any (·.same q) then some .dir else none) := by
  obtain ⟨habsolute, created, hcreate, hclear⟩ := h
  have hdir : dataDir = Tree.absolute dir := by
    cases habsolute
    rfl
  have hcreated := Tree.find?_createDir (Tree.of_run_change hcreate)
  obtain ⟨hthere, hcleared⟩ := Tree.find?_clearDir (Tree.of_run_change hclear)
  refine ⟨hdir, ?_, fun q => ?_⟩
  · rw [hcleared, FilePath.same_iff.mpr rfl, Bool.not_true, Bool.and_false]
    exact hthere
  · rw [hcleared, hcreated]

/-- A directory that has been prepared holds no file. -/
theorem Prepared.bare (h : Prepared t dir dataDir t₁) : t₁.Bare dataDir := by
  obtain ⟨-, hthere, hfind⟩ := h.find?
  refine ⟨hthere, fun q hq contents hfile => ?_⟩
  by_cases hsame : q.same dataDir = true
  · rw [Tree.find?_congr hsame, hthere] at hfile
    cases hfile
  · rw [hfind, hq, if_pos (by simp [hsame])] at hfile
    cases hfile

/-- Preparing a directory puts no file anywhere. -/
theorem Prepared.noFile (h : Prepared t dir dataDir t₁) {q : FilePath}
    (hq : ∀ contents, t.find? q ≠ some (.file contents)) (contents : Bytes) :
    t₁.find? q ≠ some (.file contents) := by
  obtain ⟨-, -, hfind⟩ := h.find?
  intro hfile
  rw [hfind] at hfile
  split at hfile
  · cases hfile
  · rcases Option.or_eq_some_iff.mp hfile with hfile | ⟨-, hfile⟩
    · exact hq contents hfile
    · split at hfile <;> cases hfile

/-- A directory that is there stays, unless one above it is prepared. -/
theorem Prepared.keeps_dir (h : Prepared t dir reportDir t₁) (hdir : t.find? dataDir = some .dir) :
    t₁.find? dataDir = some .dir ↔
      ¬ (dataDir.isAtOrBelow reportDir = true ∧ dataDir.same reportDir = false) := by
  obtain ⟨-, -, hfind⟩ := h.find?
  rw [hfind, hdir]
  cases dataDir.isAtOrBelow reportDir <;> cases dataDir.same reportDir <;> simp

/-- Two directories that were prepared one after the other are separate, unless the first is at
or below the second. -/
theorem separate_iff (hdata : Prepared t dir dataDir t₁)
    (hreport : Prepared t₁ other reportDir t₂) :
    t₂.Separate dataDir reportDir ↔ dataDir.isAtOrBelow reportDir = false := by
  have hkeeps := hreport.keeps_dir hdata.bare.dir
  constructor
  · rintro ⟨hdiffer, hbare, -⟩
    simpa [hdiffer] using hkeeps.mp hbare.dir
  · intro hapart
    refine ⟨?_, ⟨hkeeps.mpr (by simp [hapart]), fun q hq => ?_⟩, hreport.bare⟩
    · rw [← Bool.not_eq_true, FilePath.same_iff]
      intro hsame
      rw [← Bool.not_eq_true, FilePath.isAtOrBelow_iff, hsame] at hapart
      exact hapart List.prefix_rfl
    · exact hreport.noFile (hdata.bare.noFile q hq)

end

/-! ### The part before the run -/

section
variable {σ : Type} [FileStore σ]

/-- Fills the temporary test set and gives it to all items. -/
def fillTempSet (testCase : TestCase) (scope : Scope) (set : TestSetRef) (request : CaseRequest) :
    Action σ RemoteFault Unit := do
  addTestCase set testCase
  assignAll set scope.items
  note .info .transaction "starting execution" [("config", request.executionConfig)]

/-- The changes before the run. -/
def setUp (project : ProjectRef) (config : ConfigRef) (testCase : TestCase) (scope : Scope)
    (request : CaseRequest) : Action σ Failure Unit := do
  let _ ← isolateData config request
  let _ ← isolateReport config request
  let set ← createTempSet project request
  mapFailure .remote (fillTempSet testCase scope set request)

/-- A case run up to the moment when the run is asked for. -/
def untilRun (project : ProjectRef) (request : CaseRequest) : Action σ Failure ConfigRef := do
  let (config, testCase) ← resolve project request
  let scope ← mapFailure .remote (Scope.capture config)
  setUp project config testCase scope request
  return config

end

/-! ### Where a run can be asked for -/

section
variable {σ : Type} {s : Surroundings} {w w₁ w₂ w' : World σ} {made : History}

/-- None of the calls asks for a run. -/
def Runless (made : History) : Prop := ∀ record ∈ made, ¬StartsRun record.call

theorem runless_nil : Runless [] := fun _ hrecord => absurd hrecord List.not_mem_nil

theorem Runless.append {later earlier : History} (hlater : Runless later)
    (hearlier : Runless earlier) : Runless (later ++ earlier) := fun record hr =>
  (List.mem_append.mp hr).elim (hlater record) (hearlier record)

theorem runless_of_sequence (h : ∀ call ∈ made.sequence, ¬StartsRun call) : Runless made := by
  intro record hr
  exact h record.call (History.mem_sequence.mpr ⟨record.verdict, hr⟩)

/-- A run is a change, so no question asks for one. -/
theorem runless_of_changes (h : ∀ call ∈ made.changes, ¬StartsRun call) : Runless made := by
  intro record hr hstarts
  obtain ⟨c, hcall⟩ := hstarts
  exact h record.call (History.mem_changes hr (by rw [hcall]; rfl)) ⟨c, hcall⟩

theorem runless_of_quiet (h : made.Quiet) : Runless made :=
  runless_of_changes (by rw [History.changes_of_quiet h]; nofun)

/-- The calls on the way from one world to another ask for no run. -/
def Idles (w w' : World σ) : Prop :=
  ∃ made, w'.calls = made ++ w.calls ∧ w'.SameTool (w.replay made) ∧ Runless made

theorem Idles.trans (h₁ : Idles w w₁) (h₂ : Idles w₁ w₂) : Idles w w₂ := by
  obtain ⟨made₁, hcalls₁, htool₁, hrunless₁⟩ := h₁
  obtain ⟨made₂, hcalls₂, htool₂, hrunless₂⟩ := h₂
  refine ⟨made₂ ++ made₁, by rw [hcalls₂, hcalls₁, List.append_assoc], ?_,
    hrunless₂.append hrunless₁⟩
  rw [World.replay_append]
  exact htool₂.trans (htool₁.replay made₂)

theorem Idles.of_course (h : Course w made w') (hmade : Runless made) : Idles w w' :=
  ⟨made, h.calls, h.tool, hmade⟩

theorem Idles.noted (h : Idles w w₁) (entry : Journal.Entry) :
    Idles w { w₁ with toWorkspace := w₁.note entry } :=
  h.trans (.of_course ((Course.refl w₁).noted entry) runless_nil)

/-- Setting a directory asks for no run. -/
theorem Isolates.runless [FileStore σ] {files : σ} {dir : FilePath} {call : FilePath → Call}
    {prepared : Option (FilePath × σ)} (h : Isolates files dir call made prepared)
    (hcall : ∀ path, ¬StartsRun (call path)) : Runless made := by
  intro record hr
  cases h with
  | unprepared => cases hr
  | done | refused => exact List.mem_singleton.mp hr ▸ hcall _

/-- Creating the temporary test set asks for no run, and leaves the files alone. -/
theorem createTempSet_idle {project : ProjectRef} {request : CaseRequest}
    {r : Except Failure TestSetRef}
    (h : (createTempSet project request).outcome s w = some (r, w')) :
    Idles w w' ∧ w'.files = w.files := by
  constructor
  · obtain ⟨made, hcourse, ⟨-, hcreate⟩ | ⟨-, hhalts⟩⟩ := createTempSet_cases h
    · refine .of_course hcourse (runless_of_changes fun call hcall => ?_)
      rw [hcreate.changes, List.mem_singleton] at hcall
      rintro ⟨c, rfl⟩
      cases hcall
    · refine .of_course hcourse (runless_of_changes fun call hcall => ?_)
      rintro ⟨c, rfl⟩
      cases List.mem_singleton.mp (hhalts.attempted.subset hcall)
  · exact congrArg Prod.fst (keeps_createTempSet detached_filesAndRuns project request h)

/-- Filling the temporary test set asks for no run, and leaves the files alone. -/
theorem fillTempSet_idle {testCase : TestCase} {scope : Scope} {set : TestSetRef}
    {request : CaseRequest} {r : Except RemoteFault Unit}
    (h : (fillTempSet testCase scope set request).outcome s w = some (r, w')) :
    Idles w w' ∧ w'.files = w.files := by
  have hadded {w₁ : World σ} {r : Except RemoteFault Unit}
      (h₁ : (addTestCase set testCase).outcome s w = some (r, w₁)) : Idles w w₁ := by
    obtain ⟨v, hcourse, -⟩ := command_course (fun _ => rfl) h₁
    refine .of_course hcourse fun record hr => ?_
    rw [List.mem_singleton.mp hr]
    rintro ⟨c, hc⟩
    cases hc
  have hassigned {w₁ w₂ : World σ} {r : Except RemoteFault Unit}
      (h₂ : (assignAll set scope.items).outcome s w₁ = some (r, w₂)) : Idles w₁ w₂ := by
    obtain ⟨made, hcourse, -, hcases⟩ := assignAll_tries set scope.items s w₁ r w₂ h₂
    refine .of_course hcourse (runless_of_sequence fun call hcall => ?_)
    have hmem : call ∈ scope.items.map fun item => .setTestSet item (some set) := by
      rcases hcases with ⟨-, hseq, -⟩ | ⟨-, hseq, -⟩
      · rwa [← hseq]
      · exact hseq.subset hcall
    obtain ⟨item, -, rfl⟩ := List.mem_map.mp hmem
    rintro ⟨c, hc⟩
    cases hc
  constructor
  · rcases bind_cases h with ⟨_, w₁, h₁, h⟩ | ⟨fault, h₁, rfl⟩
    · rcases bind_cases h with ⟨_, w₂, h₂, h⟩ | ⟨fault, h₂, rfl⟩
      · simp only [outcome_note, Option.some.injEq, Prod.mk.injEq] at h
        obtain ⟨rfl, rfl⟩ := h
        exact ((hadded h₁).trans (hassigned h₂)).noted _
      · exact (hadded h₁).trans (hassigned h₂)
    · exact hadded h₁
  · have hview := detached_filesAndRuns (σ := σ)
    have hkeeps : Keeps filesAndRuns (fillTempSet testCase scope set request) :=
      (keeps_addTestCase hview set testCase).bind fun _ =>
        (keeps_assignAll hview set _).bind fun _ => keeps_note hview.timeless _ _ _ _
    exact congrArg Prod.fst (hkeeps h)

/-! ### The world in which a run is asked for -/

/-- The call for a run comes right after the changes before it, or it does not come. -/
def AskedIn (config : ConfigRef) (before w' : World σ) : Prop :=
  ∃ later v, w'.calls = later ++ ⟨.run config, v⟩ :: before.calls ∧ Runless later

theorem AskedIn.trans {config : ConfigRef} {before : World σ} (h : AskedIn config before w₁)
    (hidle : Idles w₁ w') : AskedIn config before w' := by
  obtain ⟨later, v, hcalls, hlater⟩ := h
  obtain ⟨made, hcalls', -, hmade⟩ := hidle
  exact ⟨made ++ later, v, by rw [hcalls', hcalls, List.append_assoc], hmade.append hlater⟩

variable {project : ProjectRef} {config : ConfigRef} {testCase : TestCase} {scope : Scope}
  {request : CaseRequest}

/-- Waiting for a run asks for none. -/
theorem Waits.runless {number : Nat} {polls : History} {ok : Bool} (h : Waits number polls ok) :
    Runless polls := by
  refine runless_of_changes fun call hcall => ?_
  rintro ⟨c, rfl⟩
  rcases h.changes with hnone | ⟨hcancel, -⟩
  · rw [hnone] at hcall
    cases hcall
  · rw [hcancel] at hcall
    cases List.mem_singleton.mp hcall

/-- Putting everything back asks for no run. -/
theorem Undone.idle {copyBack : CopyBack σ} {applied : Applied} {before after : World σ}
    {items dirs cleanup : History}
    (h : Undone copyBack project config scope applied w items before after dirs cleanup w') :
    Idles w w' := by
  refine ⟨cleanup ++ dirs ++ items, by simp [h.calls], h.tool, ?_⟩
  refine .append (.append ?_ ?_) ?_ <;> refine runless_of_sequence fun call hcall => ?_ <;>
    rintro ⟨c, rfl⟩
  · rw [h.cleanupCalls, Applied.cleaningUp] at hcall
    split at hcall <;> simp at hcall
  · simp [h.dirCalls, Scope.restoringDirs] at hcall
  · simp [h.itemCalls, Assignment.restoring] at hcall

variable [FileStore σ]

/-- Preparing the directories and the temporary test set asks for no run. What is done to the
files is that both directories are prepared. -/
theorem setUp_cases {r : Except Failure Unit}
    (h : (setUp project config testCase scope request).outcome s w = some (r, w')) :
    Idles w w' ∧ (r = .ok () → ∃ dataDir reportDir files₁,
      Prepared w.files request.dataDir dataDir files₁ ∧
        Prepared files₁ request.reportDir reportDir w'.files) := by
  rcases bind_cases h with ⟨dataDir, w₁, h₁, h⟩ | ⟨failure, h₁, rfl⟩
  rotate_left
  · obtain ⟨made, hcourse, hdata⟩ := isolate_cases (fun _ _ => rfl) h₁
    exact ⟨.of_course hcourse (hdata.runless fun path ⟨c, hc⟩ => by cases hc), nofun⟩
  obtain ⟨made, hcourse, hdata⟩ := isolate_cases (fun _ _ => rfl) h₁
  have hidle : Idles w w₁ := .of_course hcourse (hdata.runless fun path ⟨c, hc⟩ => by cases hc)
  obtain ⟨hdata⟩ := hdata
  rcases bind_cases h with ⟨reportDir, w₂, h₂, h⟩ | ⟨failure, h₂, rfl⟩
  rotate_left
  · obtain ⟨made, hcourse, hreport⟩ := isolate_cases (fun _ _ => rfl) h₂
    refine ⟨hidle.trans (.of_course hcourse ?_), nofun⟩
    exact hreport.runless fun path ⟨c, hc⟩ => by cases hc
  obtain ⟨made₂, hcourse₂, hreport⟩ := isolate_cases (fun _ _ => rfl) h₂
  have hidle₂ : Idles w w₂ := hidle.trans
    (.of_course hcourse₂ (hreport.runless fun path ⟨c, hc⟩ => by cases hc))
  obtain ⟨hreport⟩ := hreport
  rcases bind_cases h with ⟨set, w₃, h₃, h⟩ | ⟨failure, h₃, rfl⟩
  rotate_left
  · exact ⟨hidle₂.trans (createTempSet_idle h₃).1, nofun⟩
  obtain ⟨hidle₃, hfiles₃⟩ := createTempSet_idle h₃
  obtain ⟨result, ho, hr⟩ := mapFailure_cases h
  obtain ⟨hidle₄, hfiles₄⟩ := fillTempSet_idle ho
  refine ⟨(hidle₂.trans hidle₃).trans hidle₄, fun _ => ⟨dataDir, reportDir, w₁.files, hdata, ?_⟩⟩
  rw [hfiles₄, hfiles₃]
  exact hreport

/-- The last stage asks for the run after the temporary test set has been filled. -/
theorem startRun_before {set : TestSetRef} {r : Except Failure Nat}
    (h : (startRun config testCase scope set request).outcome s w = some (r, w')) :
    let filling := mapFailure Failure.remote (fillTempSet testCase scope set request)
    (∃ failure, filling.outcome s w = some (.error failure, w') ∧ r = .error failure) ∨
      ∃ before, filling.outcome s w = some (.ok (), before) ∧ AskedIn config before w' := by
  intro filling
  have hsplit : (startRun config testCase scope set request : Action σ Failure Nat) =
      mapFailure .remote (fillTempSet testCase scope set request >>= fun _ => run config) := by
    simp only [startRun, fillTempSet, bind_assoc]
  rw [hsplit] at h
  obtain ⟨result, ho, rfl⟩ := mapFailure_cases h
  rcases bind_cases ho with ⟨_, before, h₁, ho⟩ | ⟨fault, h₁, rfl⟩
  · obtain ⟨v, hcourse, -⟩ := run_course ho
    exact .inr ⟨before, by rw [outcome_mapFailure, h₁]; rfl, [], v, hcourse.calls, runless_nil⟩
  · exact .inl ⟨_, by rw [outcome_mapFailure, h₁]; rfl, rfl⟩

/-- If a run is asked for while the changes are made, they have been made up to that call. -/
theorem changeAndRun_before {r : Except Failure Progress}
    (h : (changeAndRun project config testCase scope request).outcome s w = some (r, w')) :
    Idles w w' ∨ ∃ before,
      (setUp project config testCase scope request).outcome s w = some (.ok (), before) ∧
        AskedIn config before w' := by
  -- A stage that fails is where the changes before the run end.
  have hfails (failure : Failure)
      (h : (setUp project config testCase scope request).outcome s w = some (.error failure, w')) :
      Idles w w' := (setUp_cases h).1
  rw [changeAndRun] at h
  rcases orStop_cases h with ⟨failure, h₁, -⟩ | ⟨dataDir, w₁, h₁, h⟩
  · exact .inl (hfails failure (by rw [setUp, outcome_bind, h₁]; rfl))
  rcases orStop_cases h with ⟨failure, h₂, -⟩ | ⟨reportDir, w₂, h₂, h⟩
  · exact .inl (hfails failure (by simp [setUp, outcome_bind, h₁, h₂]))
  rcases orStop_cases h with ⟨failure, h₃, -⟩ | ⟨set, w₃, h₃, h⟩
  · exact .inl (hfails failure (by simp [setUp, outcome_bind, h₁, h₂, h₃]))
  have hsetUp : (setUp project config testCase scope request).outcome s w =
      (mapFailure Failure.remote (fillTempSet testCase scope set request)).outcome s w₃ := by
    simp [setUp, outcome_bind, h₁, h₂, h₃]
  -- The last stage may have asked for the run before it failed.
  rcases orStop_cases h with ⟨failure, h₄, -⟩ | ⟨number, w₄, h₄, h⟩
  · rcases startRun_before h₄ with ⟨failure, hfill, -⟩ | ⟨before, hfill, hasked⟩
    · exact .inl (hfails failure (hsetUp.trans hfill))
    · exact .inr ⟨before, hsetUp.trans hfill, hasked⟩
  · rcases startRun_before h₄ with ⟨failure, -, hr⟩ | ⟨before, hfill, hasked⟩
    · cases hr
    · refine .inr ⟨before, hsetUp.trans hfill, hasked.trans ?_⟩
      simp only [outcome_bind, outcome_read, Option.bind_some] at h
      rcases orStop_cases h with ⟨failure, h₅, -⟩ | ⟨_, w₅, h₅, h⟩
      · obtain ⟨polls, hcourse, hwaits, -⟩ := waits_cases h₅
        exact .of_course hcourse hwaits.runless
      · obtain ⟨polls, hcourse, hwaits, -⟩ := waits_cases h₅
        simp only [outcome_pure, Option.some.injEq, Prod.mk.injEq] at h
        rw [← h.2]
        exact .of_course hcourse hwaits.runless

/-- If a run is asked for in a case run, then after all that comes before it. -/
theorem runCase_before {copyBack : CopyBack σ} {r : Except Failure Bool}
    (h : (runCase copyBack project request).outcome s w = some (r, w')) :
    Idles w w' ∨ ∃ config before,
      (untilRun project request).outcome s w = some (.ok config, before) ∧
        Idles w before ∧ AskedIn config before w' := by
  rcases runCase_stages h with ⟨asked, -, hasks, -⟩ |
    ⟨config, testCase, asked, progress, restored, w₁, w₂, w₃, w₄, -, hstages⟩
  · exact .inl (.of_course hasks.course (runless_of_quiet hasks.quiet))
  have hasked : Idles w w₂ := .of_course hstages.asks.course (runless_of_quiet hstages.asks.quiet)
  obtain ⟨_, _, _, _, _, _, hundone, -⟩ := compensate_cases hstages.undone
  have hrest : Idles w₃ w' := .trans (.of_course hstages.noted runless_nil) hundone.idle
  rcases changeAndRun_before hstages.changed with hidle | ⟨before, hsetUp, hrun⟩
  · exact .inl ((hasked.trans hidle).trans hrest)
  · refine .inr ⟨config, before, ?_, hasked.trans (setUp_cases hsetUp).1, hrun.trans hrest⟩
    have hcapture : (mapFailure Failure.remote (Scope.capture config)).outcome s w₁ =
        some (.ok (scopeOf w config), w₂) := by
      rw [outcome_mapFailure, hstages.captured]
      rfl
    simp [untilRun, outcome_bind, outcome_map, hstages.resolved, hcapture, hsetUp, Except.map]

/-- When a run is asked for, the part before it has come to its end, and its calls are those
that were made. -/
theorem runCase_untilRun {copyBack : CopyBack σ} {r : Except Failure Bool}
    (h : (runCase copyBack project request).outcome s w = some (r, w'))
    {later earlier : History} {c : ConfigRef} {v : Verdict}
    (hcalls : w'.calls = later ++ ⟨.run c, v⟩ :: (earlier ++ w.calls)) :
    ∃ before, (untilRun project request).outcome s w = some (.ok c, before) ∧
      before.calls = earlier ++ w.calls ∧ before.SameTool (w.replay earlier) := by
  rcases runCase_before h with ⟨made, hmade, -, hrunless⟩ |
    ⟨config, before, huntil, ⟨made, hbefore, htool, hrunless⟩, later', v', hcalls', hlater⟩
  · -- Without a run among the calls there is no place for one.
    have heq : made = later ++ ⟨.run c, v⟩ :: earlier := by
      rw [hmade] at hcalls
      exact List.append_cancel_right (hcalls.trans (by simp))
    exact absurd ⟨c, rfl⟩ (hrunless ⟨.run c, v⟩ (by rw [heq]; simp))
  · have heq : later ++ ⟨.run c, v⟩ :: earlier = later' ++ ⟨.run config, v'⟩ :: made := by
      have hall : (later ++ ⟨.run c, v⟩ :: earlier) ++ w.calls =
          (later' ++ ⟨.run config, v'⟩ :: made) ++ w.calls := by
        rw [List.append_assoc, List.append_assoc, List.cons_append, List.cons_append, ← hcalls,
          hcalls', hbefore]
      exact List.append_cancel_right hall
    have hbegin : later ++ ⟨.run c, v⟩ :: earlier <+: later' ++ ⟨.run config, v'⟩ :: made :=
      heq ▸ List.prefix_rfl
    obtain ⟨rfl, hrecord, -⟩ :=
      split_unique (p := fun record : CallRecord => StartsRun record.call) hbegin ⟨c, rfl⟩
        hlater hrunless
    cases hrecord
    have hsame : earlier = made := by simpa using heq
    exact ⟨before, huntil, by rw [hbefore, hsame], by rwa [hsame]⟩

/-- What the part before the run does to the files: it prepares both directories. -/
theorem untilRun_prepares {c : ConfigRef} {before : World σ}
    (h : (untilRun project request).outcome s w = some (.ok c, before)) :
    ∃ dataDir reportDir files₁, Prepared w.files request.dataDir dataDir files₁ ∧
      Prepared files₁ request.reportDir reportDir before.files := by
  rcases bind_cases h with ⟨⟨config, testCase⟩, w₁, h₁, h⟩ | ⟨_, _, hr⟩
  rotate_left
  · cases hr
  obtain ⟨asked₁, hasks₁, -⟩ := resolve_cases h₁
  rcases bind_cases h with ⟨scope, w₂, h₂, h⟩ | ⟨_, _, hr⟩
  rotate_left
  · cases hr
  obtain ⟨asked₂, hasks₂, -⟩ := (capture_answers w config).mapFailure_cases hasks₁ h₂
  rcases bind_cases h with ⟨_, w₃, h₃, h⟩ | ⟨_, _, hr⟩
  rotate_left
  · cases hr
  simp only [outcome_pure, Option.some.injEq, Prod.mk.injEq] at h
  obtain ⟨-, rfl⟩ := h
  rw [← hasks₁.files, ← hasks₂.files]
  exact (setUp_cases h₃).2 rfl

end

/-! ### When the directories are separate -/

/-- The configuration has these directories. -/
def HasDirs {σ : Type} (w : World σ) (c : ConfigRef) (dataDir reportDir : FilePath) : Prop :=
  ∃ configuration, w.configuration? c = some configuration ∧
    configuration.dataDir = dataDir.text ∧ configuration.reportDir = reportDir.text

section
variable {s : Surroundings} {w w' : World Tree} {project : ProjectRef} {request : CaseRequest}
  {copyBack : CopyBack Tree} {r : Except Failure Bool} {later earlier : History} {c : ConfigRef}
  {v : Verdict}

/-- The world in which a run is asked for: the configuration has the directories, and they have
been prepared one after the other. -/
theorem runCase_at_run (h : (runCase copyBack project request).outcome s w = some (r, w'))
    (hcalls : w'.calls = later ++ ⟨.run c, v⟩ :: (earlier ++ w.calls)) :
    ∃ before, (untilRun project request).outcome s w = some (.ok c, before) ∧
      before.calls = earlier ++ w.calls ∧
      HasDirs before c (Tree.absolute request.dataDir) (Tree.absolute request.reportDir) ∧
      ∃ files₁, Prepared w.files request.dataDir (Tree.absolute request.dataDir) files₁ ∧
        Prepared files₁ request.reportDir (Tree.absolute request.reportDir) before.files := by
  obtain ⟨before, huntil, hbefore, htool⟩ := runCase_untilRun h hcalls
  obtain ⟨dataDir, reportDir, files₁, hdata, hreport⟩ := untilRun_prepares huntil
  obtain rfl := hdata.find?.1
  obtain rfl := hreport.find?.1
  refine ⟨before, huntil, hbefore, ?_, files₁, hdata, hreport⟩
  -- What the tool holds when the run is asked for is known from the calls before.
  rcases runCase_cases h with ⟨asked, -, hasks, -⟩ | ⟨config, testCase, p, answer, -, -, hrun, -⟩
  · have hmem : (⟨.run c, v⟩ : CallRecord) ∈ asked := by
      have hlist : asked = later ++ ⟨.run c, v⟩ :: earlier := by
        refine List.append_cancel_right (hasks.course.calls.symm.trans ?_)
        rw [hcalls, List.append_assoc, List.cons_append]
      simp [hlist]
    exact absurd hmem (hasks.quiet.not_mem rfl)
  · have hmade : p.made = later ++ ⟨.run c, v⟩ :: earlier := by
      refine List.append_cancel_right (hrun.calls.symm.trans ?_)
      rw [hcalls, List.append_assoc, List.cons_append]
    obtain ⟨rfl, -, dataDir, reportDir, hisolated⟩ := hrun.isolated hmade
    obtain ⟨_, _, hdata', hreport'⟩ := hisolated.dirs
    obtain ⟨hdataDir, rfl⟩ := hdata.unique hdata'
    obtain ⟨hreportDir, -⟩ := hreport.unique hreport'
    have hconfiguration := hisolated.configuration
    rw [World.configuration?, ← htool.projects] at hconfiguration
    exact ⟨_, hconfiguration, congrArg FilePath.text hdataDir.symm,
      congrArg FilePath.text hreportDir.symm⟩

/-- Whenever a run is asked for, the configuration has the absolute paths of the two
directories. Neither holds a file, and the report directory is there. The two are different
and both there if and only if the data directory is not at or below the report directory. A
configuration that was accepted rules out that two absolute paths are the same, and no more. -/
theorem runCase_directories {env : Config.Environment} {source : Config.Source}
    {settings : Config.Settings} (hcheck : source.check env = .ok settings)
    (h : (runCase copyBack project settings.caseRequest).outcome s w = some (r, w'))
    (hcalls : w'.calls = later ++ ⟨.run c, v⟩ :: (earlier ++ w.calls)) :
    let dataDir := Tree.absolute settings.execution.dataDir
    let reportDir := Tree.absolute settings.execution.reportDir
    ∃ before, (untilRun project settings.caseRequest).outcome s w = some (.ok c, before) ∧
      before.calls = earlier ++ w.calls ∧ HasDirs before c dataDir reportDir ∧
      before.files.Bare reportDir ∧
      (∀ q : FilePath, q.isAtOrBelow dataDir = true →
        ∀ contents, before.files.find? q ≠ some (.file contents)) ∧
      (before.files.Separate dataDir reportDir ↔ dataDir.isAtOrBelow reportDir = false) ∧
      (settings.execution.dataDir.rooted = true → settings.execution.reportDir.rooted = true →
        dataDir.same reportDir = false) := by
  intro dataDir reportDir
  obtain ⟨before, huntil, hbefore, hdirs, files₁, hdata, hreport⟩ := runCase_at_run h hcalls
  refine ⟨before, huntil, hbefore, hdirs, hreport.bare, fun q hq => ?_,
    separate_iff hdata hreport, fun hdataRooted hreportRooted => ?_⟩
  · exact hreport.noFile (hdata.bare.noFile q hq)
  · have hdiffer := source.differ_of_check hcheck
    rwa [← Tree.absolute_of_rooted hdataRooted, ← Tree.absolute_of_rooted hreportRooted] at hdiffer

end

/-- A configuration with the given directories, to run the one test case of the small
project. -/
def sourceWith (dataDir reportDir : FilePath) : Config.Source where
  tool :=
    { executables := ["/tpt"], host := some "localhost", port := 1099, bindingName := "TptApi"
      arguments := [], startupTimeout := "60s", readinessTimeout := "10m" }
  execution :=
    { project := "/p", executionConfig := "EC", testCase := "Brake", dataDir := dataDir
      reportDir := reportDir, tempTestSet := "Temp", artifactDir := none, closeProject := false }

/-- The settings of this configuration. -/
def settingsWith (dataDir reportDir : FilePath) : Config.Settings where
  tool :=
    { executables := ["/tpt"], host := "localhost", port := 1099, bindingName := "TptApi"
      arguments := [], startupTimeout := 60000, readinessTimeout := 600000 }
  execution := (sourceWith dataDir reportDir).execution

/-- The case run with this configuration and a tool that grants all calls. -/
def outcomeWith (dataDir reportDir : FilePath) : Option (Except Failure Bool × World Tree) :=
  (runCase CopyBack.silent ⟨0, none⟩ (settingsWith dataDir reportDir).caseRequest).outcome
    (promptTool fun _ _ => .granted) smallWorld

/-- A run of the small project's configuration is asked for with these directories, which the
check of the configuration accepts; `before` is the world in which that is done. -/
def RunsOn (dataDir reportDir : FilePath) (before : World Tree) : Prop :=
  (sourceWith dataDir reportDir).check [] = .ok (settingsWith dataDir reportDir) ∧
    (untilRun ⟨0, none⟩ (settingsWith dataDir reportDir).caseRequest).outcome
      (promptTool fun _ _ => .granted) smallWorld = some (.ok smallConfig, before) ∧
    HasDirs before smallConfig (Tree.absolute dataDir) (Tree.absolute reportDir) ∧
    ∃ w' later, outcomeWith dataDir reportDir = some (.ok true, w') ∧
      w'.calls = later ++ ⟨.run smallConfig, .granted⟩ :: before.calls

/-- A case run that goes well and whose run is granted, with the place of that call. -/
theorem exists_run {dataDir reportDir : FilePath}
    (h : (outcomeWith dataDir reportDir).map (fun p =>
      (p.1.toOption, decide (⟨.run smallConfig, .granted⟩ ∈ p.2.calls))) = some (some true, true)) :
    ∃ w' later earlier, outcomeWith dataDir reportDir = some (.ok true, w') ∧
      w'.calls = later ++ ⟨.run smallConfig, .granted⟩ :: (earlier ++ smallWorld.calls) := by
  obtain ⟨⟨r, w'⟩, hends, hr⟩ := Option.map_eq_some_iff.mp h
  simp only [Prod.mk.injEq, decide_eq_true_eq] at hr
  obtain ⟨later, earlier, hcalls⟩ := List.append_of_mem hr.2
  refine ⟨w', later, earlier, ?_, by rw [hcalls, smallWorld, World.initial, List.append_nil]⟩
  cases r with
  | error failure => cases hr.1
  | ok answer =>
      cases hr.1
      exact hends

theorem runCase_directories_small : ∃ before, RunsOn "/d" "/r" before ∧
    before.files.Separate (Tree.absolute "/d") (Tree.absolute "/r") := by
  obtain ⟨w', later, earlier, hends, hcalls⟩ := @exists_run "/d" "/r" (by decide +kernel)
  have hcheck : (sourceWith "/d" "/r").check [] = .ok (settingsWith "/d" "/r") := rfl
  obtain ⟨before, huntil, hbefore, hdirs, -, -, hiff, -⟩ := runCase_directories hcheck hends hcalls
  exact ⟨before, ⟨hcheck, huntil, hdirs, w', later, hends, by rw [hbefore]; exact hcalls⟩,
    hiff.mpr (by decide +kernel)⟩

/-- Accepted configurations with which a run is asked for on directories that are not separate:
the data directory is below the report directory, or both are one directory in two
spellings. -/
theorem run_on_shared_directories :
    (∃ before, RunsOn "/r/d" "/r" before ∧
      ¬ before.files.Separate (Tree.absolute "/r/d") (Tree.absolute "/r")) ∧
    ∃ before, RunsOn "/work/out" "out" before ∧
      ¬ before.files.Separate (Tree.absolute "/work/out") (Tree.absolute "out") := by
  have hshared {dataDir reportDir : FilePath}
      (hcheck : (sourceWith dataDir reportDir).check [] = .ok (settingsWith dataDir reportDir))
      (hrun : (outcomeWith dataDir reportDir).map (fun p =>
        (p.1.toOption, decide (⟨.run smallConfig, .granted⟩ ∈ p.2.calls))) = some (some true, true))
      (hbelow : (Tree.absolute dataDir).isAtOrBelow (Tree.absolute reportDir) = true) :
      ∃ before, RunsOn dataDir reportDir before ∧
        ¬ before.files.Separate (Tree.absolute dataDir) (Tree.absolute reportDir) := by
    obtain ⟨w', later, earlier, hends, hcalls⟩ := exists_run hrun
    obtain ⟨before, huntil, hbefore, hdirs, files₁, hdata, hreport⟩ := runCase_at_run hends hcalls
    refine ⟨before, ⟨hcheck, huntil, hdirs, w', later, hends, by rw [hbefore]; exact hcalls⟩, ?_⟩
    intro hseparate
    exact absurd (hbelow.symm.trans ((separate_iff hdata hreport).mp hseparate)) nofun
  exact ⟨hshared rfl (by decide +kernel) (by decide +kernel),
    hshared rfl (by decide +kernel) (by decide +kernel)⟩

end Isolation

end CaseRunner

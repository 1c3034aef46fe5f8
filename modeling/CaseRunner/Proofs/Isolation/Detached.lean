import CaseRunner.Proofs.Isolation.Finding
import CaseRunner.Proofs.Isolation.Polling
import CaseRunner.Proofs.Remote.Keeping

/-!
# `CaseRunner.Proofs.Isolation.Detached`: the parts of a case run that deal with the tool alone

Most of a case run asks the tool and changes settings and test sets. A view that shows nothing
of that is `Detached`, and it is the same after each of these parts, whatever becomes of the
calls. The files and the runs are such a view (`detached_filesAndRuns`). So the files change only
where a directory is prepared, where a run writes and where artifacts are copied.
-/

set_option autoImplicit false

namespace CaseRunner.Isolation

open CaseRunner.Config (CaseRequest Millis)
open CaseRunner.Remote
open CaseRunner.Remote.Action

variable {σ γ : Type} {view : World σ → γ}

/-- The view shows nothing of the settings and the test sets either. -/
structure Detached (view : World σ → γ) : Prop where
  timeless : Timeless view
  updateProject : ∀ (w : World σ) (number : Nat) (change : Project → Project),
    (∀ p, (change p).file = p.file ∧ (change p).closed = p.closed) →
      view (w.updateProject number change) = view w
  contents : ∀ (w : World σ) (contents : List (List TestCase)),
    view { w with contents := contents } = view w

/-- The files and the runs. -/
def filesAndRuns (w : World σ) : σ × List RunRecord := (w.files, w.runs)

theorem detached_filesAndRuns : Detached (filesAndRuns (σ := σ)) :=
  ⟨fun _ _ _ _ _ _ => rfl, fun _ _ _ _ => rfl, fun _ _ => rfl⟩

theorem Detached.updateConfiguration (hview : Detached view) (w : World σ) (c : ConfigRef)
    (change : Configuration → Configuration) :
    view (w.updateConfiguration c change) = view w :=
  hview.updateProject w c.project.number _ fun _ => ⟨rfl, rfl⟩

section
variable (hview : Detached view)
include hview

theorem keeps_resolve (project : ProjectRef) (request : CaseRequest) :
    Keeps view (resolve project request : Action σ Failure (ConfigRef × TestCase)) := by
  refine keeps_of_asks hview.timeless fun s w r w' h => ?_
  obtain ⟨made, hasks, -⟩ := resolve_cases h
  exact ⟨made, hasks⟩

theorem keeps_capture (config : ConfigRef) :
    Keeps view (Scope.capture config : Action σ RemoteFault Scope) := by
  refine keeps_of_asks hview.timeless fun s w r w' h => ?_
  obtain ⟨made, hasks, -⟩ := (capture_answers w config).cases (.refl w) h
  exact ⟨made, hasks⟩

theorem keeps_createTempSet (project : ProjectRef) (request : CaseRequest) :
    Keeps view (createTempSet project request : Action σ Failure TestSetRef) := by
  have hname : Keeps view (uniqueTestSetName project request.tempTestSet :
      Action σ RemoteFault String) := by
    refine keeps_of_asks hview.timeless fun s w r w' h => ?_
    obtain ⟨made, hasks, -⟩ := (uniqueTestSetName_answers w project _).cases (.refl w) h
    exact ⟨made, hasks⟩
  refine (hname.bind fun name => (keeps_note hview.timeless _ _ _ _).bind fun _ => ?_).mapFailure
  refine keeps_perform hview.timeless fun _ => keeps_get.bind fun w => ?_
  refine (keeps_modify fun v => ?_).bind fun _ => keeps_pure _
  let set : TestSetRef := ⟨w.contents.length, name⟩
  exact (hview.contents _ _).trans (hview.updateProject v project.number
    (fun p => { p with testSets := p.testSets ++ [set], created := p.created ++ [set] })
    fun _ => ⟨rfl, rfl⟩)

theorem keeps_setDataDir (config : ConfigRef) (path : String) :
    Keeps view (setDataDir config path : Action σ RemoteFault Unit) :=
  keeps_command hview.timeless fun w => hview.updateConfiguration w config _

theorem keeps_setReportDir (config : ConfigRef) (path : String) :
    Keeps view (setReportDir config path : Action σ RemoteFault Unit) :=
  keeps_command hview.timeless fun w => hview.updateConfiguration w config _

theorem keeps_setTestSet (item : ItemRef) (set : Option TestSetRef) :
    Keeps view (setTestSet item set : Action σ RemoteFault Unit) :=
  keeps_command hview.timeless fun w => hview.updateConfiguration w item.config _

theorem keeps_addTestCase (set : TestSetRef) (testCase : TestCase) :
    Keeps view (addTestCase set testCase : Action σ RemoteFault Unit) :=
  keeps_command hview.timeless fun w => hview.contents w _

theorem keeps_assignAll (set : TestSetRef) (items : List ItemRef) :
    Keeps view (assignAll set items : Action σ RemoteFault Unit) := by
  induction items with
  | nil => exact keeps_pure ()
  | cons item rest ih => exact (keeps_setTestSet hview item _).bind fun _ => ih

theorem keeps_awaitCompletion (run : Nat) (interval : Millis) (rounds : Nat) :
    Keeps view (awaitCompletion run interval rounds : Action σ Failure Unit) := by
  have hbusy : Keeps view (isBusy run : Action σ RemoteFault Bool) := by
    refine keeps_of_asks hview.timeless fun s w r w' h => ?_
    obtain ⟨made, hasks, -⟩ := isBusy_cases h
    exact ⟨made, hasks⟩
  induction rounds with
  | zero => exact keeps_unfinished
  | succ rounds ih =>
      refine hbusy.mapFailure.bind fun busy => ?_
      cases busy with
      | false => exact keeps_note hview.timeless _ _ _ _
      | true =>
          refine (keeps_pause hview.timeless _ _).attempt.bind fun paused => ?_
          cases paused with
          | ok => exact ih
          | error failure =>
              refine (keeps_note hview.timeless _ _ _ _).bind fun _ => ?_
              refine (keeps_command hview.timeless fun w => rfl).attempt.bind fun cancelled => ?_
              cases cancelled with
              | ok => exact (keeps_pure ()).bind fun _ => keeps_throw failure
              | error fault =>
                  exact (keeps_note hview.timeless _ _ _ _).bind fun _ => keeps_throw failure

theorem keeps_restoreItems (assignments : List Assignment) (index : Nat) :
    Keeps view (Scope.restoreItems index assignments : Action σ Failure Bool) := by
  induction assignments generalizing index with
  | nil => exact keeps_pure true
  | cons a rest ih =>
      have hitem : Keeps view (Scope.restoreItem index a : Action σ Failure Bool) := by
        refine (keeps_setTestSet hview _ _).attempt.bind fun result => ?_
        cases result with
        | ok => exact keeps_pure true
        | error fault =>
            exact (keeps_note hview.timeless _ _ _ _).bind fun _ => keeps_pure false
      exact hitem.bind fun restored => (ih (index + 1)).bind fun others => keeps_pure _

theorem keeps_restoreDirectories (scope : Scope) (config : ConfigRef) :
    Keeps view (scope.restoreDirectories config : Action σ Failure Bool) := by
  have hrestore (what : String) {restore : Action σ RemoteFault Unit}
      (h : Keeps view restore) :
      Keeps view (Scope.restoreDirectory what restore) := by
    refine h.attempt.bind fun result => ?_
    cases result with
    | ok => exact keeps_pure true
    | error fault => exact (keeps_note hview.timeless _ _ _ _).bind fun _ => keeps_pure false
  refine (keeps_note hview.timeless _ _ _ _).bind fun _ => ?_
  refine (hrestore _ (keeps_setDataDir hview config _)).bind fun _ => ?_
  exact (hrestore _ (keeps_setReportDir hview config _)).bind fun _ => keeps_pure _

theorem keeps_deleteTempSet (project : ProjectRef) (set : TestSetRef) :
    Keeps view (deleteTempSet project set : Action σ Failure Unit) := by
  have hdelete : Keeps view (deleteTestSet project set : Action σ RemoteFault Unit) :=
    keeps_command hview.timeless fun w =>
      hview.updateProject w project.number _ fun _ => ⟨rfl, rfl⟩
  refine (keeps_query hview.timeless _ _).attempt.bind fun name => ?_
  refine (keeps_note hview.timeless _ _ _ _).bind fun _ => ?_
  refine hdelete.attempt.bind fun result => ?_
  cases result with
  | ok => exact keeps_pure ()
  | error fault => exact keeps_note hview.timeless _ _ _ _

end

end CaseRunner.Isolation

import CaseRunner.Proofs.Connection.Acquire
import CaseRunner.Proofs.Remote.Keeping

/-!
# `CaseRunner.Proofs.Connection.Keeping`: what a call for the tool leaves alone

A call for the tool looks it up, may start a process, and asks whether the tool is ready.
Whatever comes of that, the files and all that the tool holds stay as they are
(`acquire_keeps`), and one process is started at most (`acquire_launches`).
-/

set_option autoImplicit false

namespace CaseRunner.Remote

/-- What the files and the tool hold, and what has been run and copied. -/
structure Holdings (σ : Type) where
  /-- The files. -/
  files : σ
  /-- The projects the tool has loaded, by number. -/
  projects : List Project
  /-- The projects that were opened, by number, in order. -/
  opened : List Nat
  /-- The test cases of each test set, by number. -/
  contents : List (List TestCase)
  /-- The runs that were started, in order. -/
  runs : List RunRecord
  /-- The requests to copy artifacts, in order. -/
  copies : List CopyRecord

variable {σ : Type}

/-- The part of the world that lasts and that processes have no part in. -/
def World.holdings (w : World σ) : Holdings σ where
  files := w.files
  projects := w.projects
  opened := w.opened
  contents := w.contents
  runs := w.runs
  copies := w.copies

theorem timeless_holdings : Timeless (World.holdings (σ := σ)) := fun _ _ _ _ _ _ => rfl

end CaseRunner.Remote

namespace CaseRunner.Connection

open CaseRunner.Config (AcquireOptions Millis)
open CaseRunner.Files (FileStore)
open CaseRunner.Remote
open CaseRunner.Remote.Action

variable {σ α : Type} {s : Surroundings} {w w' : World σ} {options : AcquireOptions}

/-! ### The parts of the call -/

theorem keeps_lookupTool :
    Keeps World.holdings (lookupTool options : Action σ Failure _) := by
  refine keeps_of_asks timeless_holdings fun s w r w' h => ?_
  rw [lookupTool_outcome] at h
  cases h
  exact ⟨_, lookup_asks s options w⟩

theorem keeps_probe (tool : ToolRef) :
    Keeps World.holdings (probe tool : Action σ Failure Bool) := by
  refine keeps_of_asks timeless_holdings fun s w r w' h => ?_
  obtain ⟨w₁, hprobe, hasks⟩ := probe_outcome (s := s) (w := w) tool
  cases hprobe.symm.trans h
  exact ⟨_, hasks⟩

theorem keeps_noteVersion (tool : ToolRef) :
    Keeps World.holdings (noteVersion tool : Action σ Failure Unit) := by
  refine keeps_of_asks timeless_holdings fun s w r w' h => ?_
  obtain ⟨w₁, hversion, hasks⟩ := noteVersion_outcome (s := s) (w := w) tool
  cases hversion.symm.trans h
  exact ⟨_, hasks⟩

theorem keeps_isOver (deadline : Option Millis) :
    Keeps World.holdings (isOver deadline : Action σ Failure Bool) :=
  keeps_get.bind fun _ => keeps_pure _

/-- Starting a process changes the processes and the output. -/
theorem keeps_launch (command : Command) :
    Keeps World.holdings (launch command : Action σ Failure Unit) := by
  have hnote (severity : Journal.Severity) (message : String) (fields : List (String × String)) :
      Keeps World.holdings
        (note severity .acquire message fields : Action σ Failure Unit) :=
    keeps_note timeless_holdings _ _ _ _
  unfold launch
  refine (keeps_modify ?_).bind fun _ => keeps_read.bind fun surroundings => ?_
  · exact fun w => rfl
  cases surroundings.launch command with
  | error failure => exact (hnote _ _ _).bind fun _ => keeps_throw failure
  | ok plan =>
      have hstart : Keeps World.holdings
          (modify fun w => { w with process := some (plan.start w.now) } :
            Action σ Failure Unit) := keeps_modify fun w => rfl
      dsimp only
      split
      · refine (hnote _ _ _).bind fun _ => ?_
        split
        · exact (hnote _ _ _).bind fun _ => hstart
        · exact hstart
      · split
        · exact (hnote _ _ _).bind fun _ => hstart
        · exact hstart

theorem keeps_withOutput {x : Action σ Failure α} (hx : Keeps World.holdings x) :
    Keeps World.holdings (withOutput x) := by
  have hdetach : Keeps World.holdings (detachOutput : Action σ Failure Unit) := by
    refine keeps_modify fun w => ?_
    have hentries (entries : List Journal.Entry) (workspace : Workspace σ) :
        (entries.foldl Workspace.note workspace).files = workspace.files := by
      induction entries generalizing workspace with
      | nil => rfl
      | cons entry entries ih => exact ih _
    split
    · rfl
    · simp only [World.holdings, hentries]
  refine hx.attempt.bind fun result => hdetach.bind fun _ => ?_
  cases result with
  | ok a => exact keeps_pure a
  | error failure => exact keeps_throw failure

theorem keeps_awaitRegistration (deadline : Option Millis) (rounds : Nat) :
    Keeps World.holdings
      (awaitRegistration options deadline rounds : Action σ Failure ToolRef) := by
  induction rounds with
  | zero => exact keeps_unfinished
  | succ rounds ih =>
      refine keeps_lookupTool.bind fun found => ?_
      cases found with
      | ok tool => exact (keeps_note timeless_holdings _ _ _ _).bind fun _ => keeps_pure tool
      | error fault =>
          refine (keeps_isOver deadline).bind fun late => ?_
          cases late with
          | true =>
              exact (keeps_note timeless_holdings _ _ _ _).bind fun _ => keeps_throw _
          | false => exact (keeps_pause timeless_holdings _ _).bind fun _ => ih

theorem keeps_awaitReady {tool : ToolRef} {options : Config.ReadinessOptions}
    (deadline : Option Millis) (rounds : Nat) :
    Keeps World.holdings (awaitReady tool options deadline rounds : Action σ Failure Unit) := by
  induction rounds with
  | zero => exact keeps_unfinished
  | succ rounds ih =>
      refine (keeps_isOver deadline).bind fun late => ?_
      cases late with
      | true => exact (keeps_note timeless_holdings _ _ _ _).bind fun _ => keeps_throw _
      | false =>
          refine (keeps_pause timeless_holdings _ _).bind fun _ => ?_
          refine (keeps_probe tool).bind fun ready => ?_
          cases ready with
          | true => exact keeps_pure ()
          | false => exact ih

theorem keeps_readyTool (tool : ToolRef) :
    Keeps World.holdings (readyTool options tool : Action σ Failure ToolRef) := by
  have hwait : Keeps World.holdings
      (waitUntilReady options.readiness tool : Action σ Failure Unit) := by
    refine (keeps_probe tool).bind fun ready => ?_
    cases ready with
    | true => exact keeps_pure ()
    | false =>
        refine (keeps_note timeless_holdings _ _ _ _).bind fun _ => keeps_get.bind fun w => ?_
        exact keeps_read.bind fun surroundings => keeps_awaitReady _ _
  exact hwait.bind fun _ => (keeps_noteVersion tool).bind fun _ => keeps_pure tool

/-! ### The whole call -/

section
variable [FileStore σ]

theorem keeps_startTool : Keeps World.holdings (startTool options : Action σ Failure ToolRef) := by
  have hselect : Keeps World.holdings
      (ofFiles (selectExecutable options.executables) : Action σ Failure FilePath) := by
    refine keeps_of_asks timeless_holdings fun s w r w' h => ?_
    obtain ⟨w₁, hselect, hasks⟩ :=
      selectExecutable_outcome (s := s) (w := w) options.executables
    cases hselect.symm.trans h
    exact ⟨_, hasks⟩
  refine hselect.bind fun executable => ?_
  refine (keeps_note timeless_holdings _ _ _ _).bind fun _ => ?_
  refine (keeps_note timeless_holdings _ _ _ _).bind fun _ => ?_
  refine (keeps_launch _).bind fun _ => keeps_withOutput (keeps_get.bind fun w => ?_)
  exact keeps_read.bind fun surroundings => keeps_awaitRegistration _ _

/-- Whatever comes of a call for the tool, the files are as they were, and so is all that the
tool holds. -/
theorem acquire_keeps : Keeps World.holdings (acquire options : Action σ Failure ToolRef) := by
  refine Keeps.bind ?_ fun tool => keeps_readyTool tool
  refine (keeps_note timeless_holdings _ _ _ _).bind fun _ => ?_
  refine (keeps_note timeless_holdings _ _ _ _).bind fun _ => keeps_lookupTool.bind fun found => ?_
  cases found with
  | ok tool => exact (keeps_note timeless_holdings _ _ _ _).bind fun _ => keeps_pure tool
  | error fault => exact (keeps_note timeless_holdings _ _ _ _).bind fun _ => keeps_startTool

/-- A search starts one process at most. -/
theorem Search.launches_le {found : Except Failure ToolRef} (h : Search s options w found w') :
    w'.launches = w.launches ∨ ∃ command, w'.launches = w.launches ++ [command] := by
  cases h with
  | running _ hasks => exact .inl hasks.passes.launches
  | noExecutable _ _ hpasses => exact .inl hpasses.launches
  | notStarted _ _ _ _ hlaunches => exact .inr ⟨_, hlaunches⟩
  | started _ _ _ _ _ _ hlaunches => exact .inr ⟨_, hlaunches⟩

/-- A call for the tool starts one process at most. -/
theorem acquire_launches {r : Except Failure ToolRef}
    (h : (acquire options).outcome s w = some (r, w')) :
    w'.launches = w.launches ∨ ∃ command, w'.launches = w.launches ++ [command] := by
  obtain ⟨found, w₁, later, hfind, hpasses, -⟩ := acquire_cases h
  rw [hpasses.launches]
  exact (findTool_cases hfind).launches_le

end

end CaseRunner.Connection

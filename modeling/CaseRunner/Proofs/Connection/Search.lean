import CaseRunner.Proofs.Connection.Rounds
import CaseRunner.Remote.Rehearsal

/-!
# `CaseRunner.Proofs.Connection.Search`: finding the tool, or starting it

The search for the tool ends at one of four places, which the relation `Search` lists: the
tool is found at once, there is no executable, the executable cannot be started, or it was
started and has been waited for. `findTool_cases` says that there are no others.

Each part is told by an equation (`lookupTool_outcome`, `selectExecutable_outcome`,
`withOutput_outcome`) or by what it leaves in the world (`launch_cases`). The output of a process
that was started is no longer forwarded at the end of the search, whether it ends well or not.
-/

set_option autoImplicit false

namespace CaseRunner.Connection

open CaseRunner.Config (Millis AcquireOptions)
open CaseRunner.Files (FileStore)
open CaseRunner.Remote
open CaseRunner.Remote.Action

variable {σ : Type} {s : Surroundings} {w w' : World σ} {options : AcquireOptions}

/-! ### Starting it -/

/-- Waiting for the tool to register makes lookups and nothing else. If it gives a tool, the
last lookup did. -/
theorem awaitRegistration_cases {deadline : Option Millis} {rounds : Nat}
    {r : Except Failure ToolRef}
    (h : (awaitRegistration options deadline rounds).outcome s w = some (r, w')) :
    ∃ made, Passes w made w' ∧ (∀ record ∈ made, record.call = lookupCall options) ∧
      ∀ tool, r = .ok tool → made.LastAnswer w.calls Script.isLookup (lookupCall options)
        (lookupAnswer s options · = .ok tool) := by
  obtain ⟨ended, hends, rfl⟩ := awaitRegistration_rounds h
  obtain ⟨made, hpasses, hmade, hlast⟩ := hends.passes Script.isLookup
  refine ⟨made, hpasses, hmade, fun tool hr => ?_⟩
  exact (hlast tool (Rounds.result_eq_ok.mp hr)).imp fun _ => registrationRounds_answer.mp

/-- Starting a process is recorded, and takes no time. If it starts, its output is forwarded. -/
theorem launch_cases {command : Command} {r : Except Failure Unit}
    (h : (launch command).outcome s w = some (r, w')) :
    w'.now = w.now ∧ w'.calls = w.calls ∧ w'.launches = w.launches ++ [command] ∧
      ((∃ plan, s.launch command = .ok plan ∧ r = .ok () ∧
          w'.outputs = some (plan.streams.map fun stream => (stream, true))) ∨
        ∃ failure, s.launch command = .error failure ∧ r = .error failure) := by
  unfold launch at h
  simp only [outcome_bind, outcome_modify, outcome_read, Option.bind_some] at h
  cases hlaunch : s.launch command with
  | error failure =>
      simp only [hlaunch, outcome_bind, outcome_note, outcome_throw, Option.bind_some,
        Option.some.injEq, Prod.mk.injEq] at h
      obtain ⟨rfl, rfl⟩ := h
      exact ⟨rfl, rfl, rfl, .inr ⟨failure, rfl, rfl⟩⟩
  | ok plan =>
      have hmarks (now : Millis) : (plan.start now).drains.marks =
          plan.streams.map fun stream => (stream, true) := by
        simp [OutputPlan.start, Drains.marks, Drain.mark, Drain.ofStream, Function.comp_def]
      rw [hlaunch] at h
      -- Each stream that is missing adds a note, which makes no difference here.
      cases hstdout : plan.hasStdout <;> cases hstderr : plan.hasStderr <;>
      · simp only [hstdout, hstderr, Bool.not_true, Bool.not_false, Bool.false_eq_true, if_true,
          if_false, outcome_bind, outcome_note, outcome_modify, Option.bind_some, Option.some.injEq,
          Prod.mk.injEq] at h
        obtain ⟨rfl, rfl⟩ := h
        exact ⟨rfl, rfl, rfl, .inl ⟨plan, rfl, rfl, congrArg some (hmarks _)⟩⟩

theorem launch_ends (command : Command) : Ends s (launch command : Action σ Failure Unit) := by
  refine (ends_modify _).bind fun _ => ends_read_bind ?_
  cases s.launch command with
  | error failure => exact (ends_note _ _ _ _).bind fun _ => ends_throw _
  | ok plan =>
      dsimp only
      split <;> split <;> exact fun _ => rfl

/-- The world once the output of the process is no longer forwarded. -/
def detached (w : World σ) : World σ :=
  match w.process with
  | none => w
  | some process =>
    let entries := process.drains.detachEntries
    let workspace := entries.foldl Workspace.note w.toWorkspace
    { w with process := some process.detach, toWorkspace := workspace }

theorem detached_outputs (w : World σ) :
    (detached w).outputs = w.outputs.map fun marks => marks.map fun mark => (mark.1, false) := by
  unfold detached
  cases hprocess : w.process with
  | none => simp [World.outputs, hprocess]
  | some process =>
      simp only [World.outputs, hprocess, Option.map_some, Process.detach, Drains.marks_detachAll]

theorem detached_calls (w : World σ) : (detached w).calls = w.calls := by
  unfold detached
  split <;> rfl

theorem detached_launches (w : World σ) : (detached w).launches = w.launches := by
  unfold detached
  split <;> rfl

/-- An activity with output has the outcome that it would have without, and then the output is
no longer forwarded. -/
theorem withOutput_outcome {α : Type} (x : Action σ Failure α) :
    (withOutput x).outcome s w = (x.outcome s w).map fun p => (p.1, detached p.2) := by
  have hdetach (w : World σ) :
      (detachOutput : Action σ Failure Unit).outcome s w = some (.ok (), detached w) := rfl
  rw [withOutput, outcome_bind, outcome_attempt]
  cases x.outcome s w with
  | none => rfl
  | some p =>
      obtain ⟨result, w₁⟩ := p
      simp only [Option.map_some, Option.bind_some, outcome_bind, hdetach]
      cases result <;> rfl

theorem withOutput_cases {α : Type} {x : Action σ Failure α} {r : Except Failure α}
    (h : (withOutput x).outcome s w = some (r, w')) :
    ∃ w₁, x.outcome s w = some (r, w₁) ∧ w' = detached w₁ := by
  rw [withOutput_outcome, Option.map_eq_some_iff] at h
  obtain ⟨⟨result, w₁⟩, hx, heq⟩ := h
  obtain ⟨rfl, rfl⟩ := Prod.mk.inj heq
  exact ⟨w₁, hx, rfl⟩

section
variable [FileStore σ]

/-- The executable is the first candidate that is a file. -/
theorem firstFile_run (candidates : List FilePath) (ws : Workspace σ) :
    ∃ journal, (firstFile candidates).run.run ws =
      some (.ok (candidates.find? (FileStore.isFile ws.files)),
        { ws with journal := journal }) := by
  induction candidates generalizing ws with
  | nil => exact ⟨ws.journal, rfl⟩
  | cons candidate rest ih =>
      have hask (question : σ → Bool) (ws : Workspace σ) :
          (FileAction.ask question).run.run ws = some (.ok (question ws.files), ws) := rfl
      rw [firstFile, FileAction.run_bind, FileAction.run_note, Option.bind_some]
      dsimp only
      rw [FileAction.run_bind, hask, Option.bind_some]
      cases hfile : FileStore.isFile ws.files candidate with
      | true =>
          rw [List.find?_cons_of_pos hfile]
          simp only [Workspace.note, hfile]
          exact ⟨_, rfl⟩
      | false =>
          rw [List.find?_cons_of_neg (by rw [hfile]; decide)]
          simp only [Workspace.note, hfile]
          obtain ⟨journal, hrest⟩ := ih (ws.note ⟨.info, .command, "trying TPT executable",
            [("path", candidate.text)]⟩)
          exact ⟨journal, hrest⟩

/-- Selecting the executable leaves nothing but notes. -/
theorem selectExecutable_outcome (candidates : List FilePath) :
    ∃ w₁, (ofFiles (selectExecutable candidates)).outcome s w =
        some (match candidates.find? (FileStore.isFile w.files) with
          | some path => .ok path
          | none => .error (.executableNotFound candidates), w₁) ∧ Asks w [] w₁ := by
  obtain ⟨journal, hrun⟩ := firstFile_run candidates w.toWorkspace
  rw [outcome_ofFiles, selectExecutable, FileAction.run_bind, hrun, Option.bind_some]
  cases candidates.find? (FileStore.isFile w.files) with
  | some path => exact ⟨_, rfl, rfl, History.quiet_nil⟩
  | none => exact ⟨_, rfl, rfl, History.quiet_nil⟩

/-! ### The search -/

/-- The command that starts an executable. -/
def launchCommand (options : AcquireOptions) (executable : FilePath) : Command :=
  .ofTool executable options.port options.binding options.arguments options.platform

/-- Where the search for the tool ends, with what it gives and the world then. -/
inductive Search (s : Surroundings) (options : AcquireOptions) (w : World σ) :
    Except Failure ToolRef → World σ → Prop
  /-- The first lookup gives the tool. -/
  | running {tool w'} (found : lookupAnswer s options w.calls = .ok tool)
      (asks : Asks w [lookupRecord s options w.calls] w') : Search s options w (.ok tool) w'
  /-- No candidate is a file. -/
  | noExecutable {fault w'} (missing : lookupAnswer s options w.calls = .error fault)
      (none : options.executables.find? (FileStore.isFile w.files) = none)
      (passes : Passes w [lookupRecord s options w.calls] w') :
      Search s options w (.error (.executableNotFound options.executables)) w'
  /-- The executable cannot be started. -/
  | notStarted {fault executable failure w'}
      (missing : lookupAnswer s options w.calls = .error fault)
      (first : options.executables.find? (FileStore.isFile w.files) = some executable)
      (launch : s.launch (launchCommand options executable) = .error failure)
      (calls : w'.calls = [lookupRecord s options w.calls] ++ w.calls)
      (launches : w'.launches = w.launches ++ [launchCommand options executable]) :
      Search s options w (.error failure) w'
  /-- The executable was started, and then the tool was looked up until the end. -/
  | started {fault executable plan r w'} {polls : History}
      (missing : lookupAnswer s options w.calls = .error fault)
      (first : options.executables.find? (FileStore.isFile w.files) = some executable)
      (launch : s.launch (launchCommand options executable) = .ok plan)
      (calls : w'.calls = polls ++ [lookupRecord s options w.calls] ++ w.calls)
      (lookups : ∀ record ∈ polls, record.call = lookupCall options)
      (last : ∀ tool, r = .ok tool →
        polls.LastAnswer ([lookupRecord s options w.calls] ++ w.calls) Script.isLookup
          (lookupCall options) (lookupAnswer s options · = .ok tool))
      (launches : w'.launches = w.launches ++ [launchCommand options executable])
      (outputs : w'.outputs = some (plan.streams.map fun stream => (stream, false))) :
      Search s options w r w'

/-- After a first lookup that failed the tool is started, if it can be. -/
theorem startTool_cases {r : Except Failure ToolRef} {w₁ : World σ} {fault : LookupFault}
    (missing : lookupAnswer s options w.calls = .error fault)
    (hasks : Asks w [lookupRecord s options w.calls] w₁)
    (h : (startTool options).outcome s w₁ = some (r, w')) : Search s options w r w' := by
  have hfiles : w₁.files = w.files := hasks.files
  obtain ⟨w₂, hselect, hselected⟩ :=
    selectExecutable_outcome (s := s) (w := w₁) options.executables
  have hpasses := (hasks.trans hselected).passes
  rw [startTool, outcome_bind, hselect, Option.bind_some, hfiles] at h
  cases hfirst : options.executables.find? (FileStore.isFile w.files) with
  | none =>
      simp only [hfirst, Option.some.injEq, Prod.mk.injEq] at h
      obtain ⟨rfl, rfl⟩ := h
      exact .noExecutable missing hfirst hpasses
  | some executable =>
      rw [hfirst] at h
      have h := note_bind_cases h
      have h := note_bind_cases h
      rcases bind_cases h with ⟨⟨⟩, w₃, hlaunch, h⟩ | ⟨failure, hlaunch, rfl⟩
      · obtain ⟨-, hcalls, hlaunches, ⟨plan, hplan, -, houtputs⟩ | ⟨_, -, hr⟩⟩ :=
          launch_cases hlaunch
        · obtain ⟨w₄, hawait, rfl⟩ := withOutput_cases h
          simp only [outcome_bind, outcome_get, outcome_read, Option.bind_some] at hawait
          obtain ⟨polls, hpassed, hlookups, hlast⟩ := awaitRegistration_cases hawait
          have hbefore : w₃.calls = [lookupRecord s options w.calls] ++ w.calls :=
            hcalls.trans hpasses.calls
          rw [hbefore] at hlast
          refine .started missing hfirst hplan ?_ hlookups hlast ?_ ?_
          · rw [detached_calls, hpassed.calls, hbefore, List.append_assoc]
          · rw [detached_launches, hpassed.launches, hlaunches, hpasses.launches]
            rfl
          · rw [detached_outputs, hpassed.outputs, houtputs]
            simp [Function.comp_def]
        · cases hr
      · obtain ⟨-, hcalls, hlaunches, ⟨_, -, hr, -⟩ | ⟨_, hfailed, hr⟩⟩ := launch_cases hlaunch
        · cases hr
        · cases hr
          refine .notStarted missing hfirst hfailed (hcalls.trans hpasses.calls) ?_
          rw [hlaunches, hpasses.launches]
          rfl

theorem findTool_cases {r : Except Failure ToolRef}
    (h : (findTool options).outcome s w = some (r, w')) : Search s options w r w' := by
  have h := note_bind_cases h
  have h := note_bind_cases h
  rw [outcome_bind, lookupTool_outcome, Option.bind_some] at h
  cases hanswer : lookupAnswer s options w.calls with
  | ok tool =>
      rw [hanswer] at h
      have h := note_bind_cases h
      simp only [outcome_pure, Option.some.injEq, Prod.mk.injEq] at h
      obtain ⟨rfl, rfl⟩ := h
      exact .running hanswer ⟨rfl, (lookup_asks s options w).quiet⟩
  | error fault =>
      rw [hanswer] at h
      have h := note_bind_cases h
      exact startTool_cases hanswer ⟨rfl, (lookup_asks s options w).quiet⟩ h

namespace Search

variable {found : Except Failure ToolRef}

/-- The calls of a search are lookups. The first one stays the only one unless the executable
was started, and if the search gives a tool, the last one did. -/
theorem calls_eq (h : Search s options w found w') :
    ∃ polls, w'.calls = (polls ++ [lookupRecord s options w.calls]) ++ w.calls ∧
      (∀ record ∈ polls ++ [lookupRecord s options w.calls], record.call = lookupCall options) ∧
      (((∃ tool, lookupAnswer s options w.calls = .ok tool) ∨
        options.executables.find? (FileStore.isFile w.files) = none ∨
        ∃ executable failure,
          options.executables.find? (FileStore.isFile w.files) = some executable ∧
          s.launch (launchCommand options executable) = .error failure) → polls = []) ∧
      ∀ tool, found = .ok tool →
        History.LastAnswer (polls ++ [lookupRecord s options w.calls]) w.calls Script.isLookup
          (lookupCall options) (lookupAnswer s options · = .ok tool) := by
  have hone : ∀ record ∈ [] ++ [lookupRecord s options w.calls],
      record.call = lookupCall options := by simp [lookupRecord]
  cases h with
  | running hfound hasks =>
      refine ⟨[], hasks.passes.calls, hone, fun _ => rfl, fun tool htool => ?_⟩
      cases htool
      exact .one hfound
  | noExecutable _ _ hpasses =>
      exact ⟨[], hpasses.calls, hone, fun _ => rfl, fun tool htool => by cases htool⟩
  | notStarted _ _ _ hcalls _ =>
      exact ⟨[], hcalls, hone, fun _ => rfl, fun tool htool => by cases htool⟩
  | started hmissing hfirst hlaunch hcalls hlookups hlast =>
      refine ⟨_, hcalls, ?_, ?_, fun tool htool => (hlast tool htool).of_append⟩
      · intro record hmem
        rcases List.mem_append.mp hmem with hmem | hmem
        · exact hlookups record hmem
        · exact hone record hmem
      · rintro (⟨tool, hfound⟩ | hnone | ⟨other, failure, hother, hfailed⟩)
        · cases hmissing.symm.trans hfound
        · cases hfirst.symm.trans hnone
        · cases hfirst.symm.trans hother
          cases hlaunch.symm.trans hfailed

/-- If the first lookup gives a tool, that is all. -/
theorem asks_of_found {tool : ToolRef} (h : Search s options w found w')
    (hfound : lookupAnswer s options w.calls = .ok tool) :
    found = .ok tool ∧ Asks w [lookupRecord s options w.calls] w' := by
  cases h with
  | running hother hasks =>
      cases hfound.symm.trans hother
      exact ⟨rfl, hasks⟩
  | noExecutable hmissing => cases hfound.symm.trans hmissing
  | notStarted hmissing => cases hfound.symm.trans hmissing
  | started hmissing => cases hfound.symm.trans hmissing

/-- A process is started if the first lookup fails and there is an executable. -/
theorem launches_eq {fault : LookupFault} {executable : FilePath}
    (h : Search s options w found w') (hmissing : lookupAnswer s options w.calls = .error fault)
    (hfirst : options.executables.find? (FileStore.isFile w.files) = some executable) :
    w'.launches = w.launches ++ [launchCommand options executable] := by
  cases h with
  | running hfound _ => cases hmissing.symm.trans hfound
  | noExecutable _ hnone _ => cases hfirst.symm.trans hnone
  | notStarted _ hother _ _ hlaunches =>
      cases hfirst.symm.trans hother
      exact hlaunches
  | started _ hother _ _ _ _ hlaunches =>
      cases hfirst.symm.trans hother
      exact hlaunches

/-- No process is started otherwise. -/
theorem launches_same (h : Search s options w found w')
    (hnot : (∃ tool, lookupAnswer s options w.calls = .ok tool) ∨
      options.executables.find? (FileStore.isFile w.files) = none) :
    w'.launches = w.launches := by
  have habsurd {fault : LookupFault} {executable : FilePath}
      (hmissing : lookupAnswer s options w.calls = .error fault)
      (hfirst : options.executables.find? (FileStore.isFile w.files) = some executable) :
      False := by
    rcases hnot with ⟨tool, hfound⟩ | hnone
    · cases hmissing.symm.trans hfound
    · cases hfirst.symm.trans hnone
  cases h with
  | running _ hasks => exact hasks.passes.launches
  | noExecutable _ _ hpasses => exact hpasses.launches
  | notStarted hmissing hfirst => exact (habsurd hmissing hfirst).elim
  | started hmissing hfirst => exact (habsurd hmissing hfirst).elim

/-- After a search that started a process none of its output is forwarded. -/
theorem outputs_eq {fault : LookupFault} {executable : FilePath} {plan : OutputPlan}
    (h : Search s options w found w') (hmissing : lookupAnswer s options w.calls = .error fault)
    (hfirst : options.executables.find? (FileStore.isFile w.files) = some executable)
    (hlaunch : s.launch (launchCommand options executable) = .ok plan) :
    w'.outputs = some (plan.streams.map fun stream => (stream, false)) := by
  cases h with
  | running hfound _ => cases hmissing.symm.trans hfound
  | noExecutable _ hnone _ => cases hfirst.symm.trans hnone
  | notStarted _ hother hfailed _ _ =>
      cases hfirst.symm.trans hother
      cases hlaunch.symm.trans hfailed
  | started _ hother hstarted _ _ _ _ houtputs =>
      cases hfirst.symm.trans hother
      cases hlaunch.symm.trans hstarted
      exact houtputs

end Search

/-! ### The search ends -/

theorem startTool_ends
    (h : EnoughPatience s w.now options.startupTimeout options.lookupInterval) :
    ((startTool options).outcome s w).isSome := by
  obtain ⟨w₁, hselect, hselected⟩ :=
    selectExecutable_outcome (s := s) (w := w) options.executables
  rw [startTool, outcome_bind, hselect, Option.bind_some]
  cases options.executables.find? (FileStore.isFile w.files) with
  | none => rfl
  | some executable =>
      simp only [outcome_bind, outcome_note, Option.bind_some]
      obtain ⟨⟨r, w₂⟩, hlaunch⟩ := Option.isSome_iff_exists.mp
        (launch_ends (s := s) (launchCommand options executable) _)
      rw [← launchCommand, hlaunch, Option.bind_some]
      cases r with
      | error failure => rfl
      | ok =>
          -- Neither the choice nor the start takes time.
          have hnow : w₂.now = w.now := by
            rw [(launch_cases hlaunch).1]
            show w₁.now = w.now
            rw [hselected.same]
          rw [← hnow] at h
          obtain ⟨rounds, hpatience, hover⟩ := h.overWithin
          dsimp only
          rw [withOutput_outcome, Option.isSome_map]
          simp only [outcome_bind, outcome_get, outcome_read, Option.bind_some, hpatience]
          exact awaitRegistration_ends hover

/-- The search ends if the tool is found at once, or the bound on rounds is enough for waiting
until it has registered. -/
theorem findTool_ends
    (h : (∃ tool, lookupAnswer s options w.calls = .ok tool) ∨
      EnoughPatience s w.now options.startupTimeout options.lookupInterval) :
    ((findTool options).outcome s w).isSome := by
  rw [findTool]
  simp only [outcome_bind, outcome_note, lookupTool_outcome, Option.bind_some]
  cases hanswer : lookupAnswer s options w.calls with
  | ok tool => rfl
  | error fault =>
      rcases h with ⟨tool, hfound⟩ | hpatience
      · rw [hanswer] at hfound
        cases hfound
      · simp only [outcome_bind, outcome_note, Option.bind_some]
        exact startTool_ends hpatience

end

end CaseRunner.Connection

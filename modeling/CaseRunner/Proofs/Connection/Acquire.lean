import CaseRunner.Files.Tree
import CaseRunner.Proofs.Connection.Search

/-!
# `CaseRunner.Proofs.Connection.Acquire`: attach to the tool, or launch it

Getting hold of the tool is a search (`Search`) and then waiting until the tool that was
found is ready (`readyTool_cases`). `AttachOrLaunch` lists what holds of the whole, and
`acquire_attaches_or_launches` proves it for every way the registry, the tool, the files, the
launcher and the user can behave. Two of its parts are about the order of things:

* There is one lookup at first, and it decides whether a process is started. If none can be
  started, it stays the only one.
* The output of a process that was started is no longer forwarded in the world where the
  search ends, and in that world the tool has not been asked whether it is ready. From there
  on no line of output is added.

A wait that is not bounded by its deadline or by the user need not end, so that it does end
is a part of its own. It asks for `EnoughPatience`, the bound on rounds.
-/

set_option autoImplicit false

namespace CaseRunner.Connection

open CaseRunner.Config (AcquireOptions ReadinessOptions)
open CaseRunner.Files (FileStore)
open CaseRunner.Remote
open CaseRunner.Remote.Action

variable {σ : Type} {s : Surroundings} {w w' : World σ} {options : AcquireOptions}

/-! ### The tool that was found -/

/-- A tool that was found is waited for in rounds, and asked for its version if it gets ready. -/
theorem readyTool_cases {tool : ToolRef} {r : Except Failure ToolRef}
    (h : (readyTool options tool).outcome s w = some (r, w')) :
    ∃ ended w₁,
      (readinessRounds s options.readiness tool
        (momentAfter w.now options.readiness.timeout)).Ends s w ended w₁ ∧
      ((ended = some (.ok ()) ∧ r = .ok tool ∧
          Asks w₁ [⟨.version tool, s.verdict w₁.calls (.version tool)⟩] w') ∨
        ∃ failure, (readinessRounds s options.readiness tool
            (momentAfter w.now options.readiness.timeout)).result ended = .error failure ∧
          r = .error failure ∧ w' = w₁) := by
  rcases bind_cases h with ⟨⟨⟩, w₁, hwait, h⟩ | ⟨failure, hwait, rfl⟩
  · obtain ⟨ended, hends, hr⟩ := waitUntilReady_rounds hwait
    obtain ⟨w₂, hversion, hasks⟩ := noteVersion_outcome (s := s) (w := w₁) tool
    rw [outcome_bind, hversion, Option.bind_some] at h
    simp only [outcome_pure, Option.some.injEq, Prod.mk.injEq] at h
    obtain ⟨rfl, rfl⟩ := h
    exact ⟨ended, w₁, hends, .inl ⟨Rounds.result_eq_ok.mp hr.symm, rfl, hasks⟩⟩
  · obtain ⟨ended, hends, hr⟩ := waitUntilReady_rounds hwait
    exact ⟨ended, w', hends, .inr ⟨failure, hr.symm, rfl, rfl⟩⟩

/-- The tool is asked whether it is ready, and for its version. If it is given, the last question
found it ready. -/
theorem readyTool_passes {tool : ToolRef} {r : Except Failure ToolRef}
    (h : (readyTool options tool).outcome s w = some (r, w')) :
    ∃ made, Passes w made w' ∧ (∀ record ∈ made, Script.isLookup record.call = false) ∧
      ∀ given, r = .ok given → given = tool ∧
        made.LastAnswer w.calls Call.isProbe (.isReady tool) (foundReady s tool · = true) := by
  obtain ⟨ended, w₁, hends, hend⟩ := readyTool_cases h
  obtain ⟨made, hpasses, hprobes, hlast⟩ := hends.passes Call.isProbe
  have hnone : ∀ record ∈ made, Script.isLookup record.call = false := by
    intro record hmem
    rw [hprobes record hmem]
    rfl
  rcases hend with ⟨hready, rfl, hasks⟩ | ⟨failure, -, rfl, rfl⟩
  · refine ⟨_, hpasses.trans hasks.passes, by simpa [Script.isLookup] using hnone,
      fun given hgiven => ?_⟩
    have hanswer := (hlast () hready).imp fun _ => readinessRounds_answer.mp
    exact ⟨(Except.ok.inj hgiven).symm, hanswer.append (by simp [Call.isProbe])⟩
  · exact ⟨made, hpasses, hnone, fun given hgiven => by cases hgiven⟩

theorem readyTool_ends {tool : ToolRef}
    (h : EnoughPatience s w.now options.readiness.timeout options.readiness.interval) :
    ((readyTool options tool).outcome s w).isSome := by
  obtain ⟨⟨r, w₁⟩, hwait⟩ := Option.isSome_iff_exists.mp (waitUntilReady_ends h tool)
  rw [readyTool, outcome_bind, hwait, Option.bind_some]
  cases r with
  | error failure => rfl
  | ok =>
      obtain ⟨w₂, hversion, -⟩ := noteVersion_outcome (s := s) (w := w₁) tool
      dsimp only
      rw [outcome_bind, hversion]
      rfl

/-- What comes of a wait that begins at a time, for a tool that never gets ready: the user
interrupts it, or else the time is up. -/
def WaitedInVain (s : Surroundings) (options : ReadinessOptions) (start : Config.Millis)
    (r : Except Failure ToolRef) : Prop :=
  (∀ moment, s.interruptAt = some moment →
      DuringWait (momentAfter start options.timeout) options.interval start moment →
      r = .error (.interrupted "waiting for TPT to become ready")) ∧
    ((∀ moment, s.interruptAt = some moment →
        ¬DuringWait (momentAfter start options.timeout) options.interval start moment) →
      r = .error (.readinessTimeout options.timeout))

/-- A tool that never gets ready is waited for until the time is up, unless the user interrupts
the wait. -/
theorem readyTool_unready {tool : ToolRef} {r : Except Failure ToolRef}
    (hnever : ∀ later, foundReady s tool (later ++ w.calls) = false)
    (h : (readyTool options tool).outcome s w = some (r, w')) :
    WaitedInVain s options.readiness w.now r := by
  obtain ⟨ended, w₁, hends, hend⟩ := readyTool_cases h
  obtain ⟨hcut, huncut⟩ := hends.missed fun later =>
    if_neg (ne_true_of_eq_false (hnever later))
  rcases hend with ⟨rfl, -⟩ | ⟨failure, hfailed, rfl, -⟩
  · refine ⟨fun moment hmoment hduring => ?_, fun hnot => ?_⟩
    · cases hcut moment hmoment hduring
    · cases huncut hnot
  · refine ⟨fun moment hmoment hduring => ?_, fun hnot => ?_⟩
    · rw [hcut moment hmoment hduring] at hfailed
      exact congrArg Except.error (Except.error.inj hfailed).symm
    · rw [huncut hnot] at hfailed
      exact congrArg Except.error (Except.error.inj hfailed).symm

/-! ### The whole -/

section
variable [FileStore σ]

/-- What getting hold of the tool comes to, with the calls `made`, the last one first:

- `first`: the first call is a lookup;
- `lookups`: every lookup is for the host, the port and the name of the options;
- `launched`, `unlaunched`: a process is started once if the first lookup fails and a candidate
  is a file, and that is the first such candidate; no process is started otherwise;
- `lookedUpOnce`: there is no other lookup if the first one gives the tool, no candidate is a
  file, or the executable cannot be started;
- `ready`: a tool that is given is the one of the last lookup, and the last question found it
  ready;
- `unready`: if the first lookup gives a tool that does not get ready, the time to wait is used
  up, unless the user cuts a pause short that begins before the deadline. Then it is the
  interruption that is reported;
- `detached`: if a process was started, the search ends in a world where none of its streams is
  forwarded, before the tool is asked whether it is ready. Then the search has failed, and all
  is over, or the tool is waited for, and no line of output is added. -/
structure AttachOrLaunch (s : Surroundings) (options : AcquireOptions) (w : World σ)
    (made : History) (r : Except Failure ToolRef) (w' : World σ) : Prop where
  calls : w'.calls = made ++ w.calls
  first : made.getLast? = some (lookupRecord s options w.calls)
  lookups : ∀ host port binding v, ⟨.lookup host port binding, v⟩ ∈ made →
    host = options.host ∧ port = options.port ∧ binding = options.binding
  launched : ∀ fault executable, lookupAnswer s options w.calls = .error fault →
    options.executables.find? (FileStore.isFile w.files) = some executable →
    ∃ command, command.program = executable ∧ w'.launches = w.launches ++ [command]
  unlaunched : (∃ tool, lookupAnswer s options w.calls = .ok tool) ∨
    options.executables.find? (FileStore.isFile w.files) = none → w'.launches = w.launches
  lookedUpOnce : ((∃ tool, lookupAnswer s options w.calls = .ok tool) ∨
      options.executables.find? (FileStore.isFile w.files) = none ∨
      ∃ executable failure,
        options.executables.find? (FileStore.isFile w.files) = some executable ∧
        s.launch (launchCommand options executable) = .error failure) →
    made.countP (Script.isLookup ·.call) = 1
  ready : ∀ tool, r = .ok tool →
    made.LastAnswer w.calls Script.isLookup (lookupCall options)
        (lookupAnswer s options · = .ok tool) ∧
      made.LastAnswer w.calls Call.isProbe (.isReady tool) (foundReady s tool · = true)
  unready : ∀ tool, lookupAnswer s options w.calls = .ok tool →
    (∀ later, foundReady s tool (later ++ w.calls) = false) →
    WaitedInVain s options.readiness w.now r
  detached : ∀ fault executable plan, lookupAnswer s options w.calls = .error fault →
    options.executables.find? (FileStore.isFile w.files) = some executable →
    s.launch (launchCommand options executable) = .ok plan →
    ∃ found searched w₁, (findTool options).outcome s w = some (found, w₁) ∧
      w₁.calls = searched ++ w.calls ∧ searched.all (!·.call.isProbe) ∧
      w₁.outputs = some (plan.streams.map fun stream => (stream, false)) ∧
      w'.outputs = w₁.outputs ∧ w'.lines = w₁.lines ∧
      ((∃ failure, found = .error failure ∧ r = .error failure ∧ w' = w₁) ∨
        ∃ tool, found = .ok tool ∧ (readyTool options tool).outcome s w₁ = some (r, w'))

/-- Getting hold of the tool ends with the search if that fails, and else with the waiting. -/
theorem acquire_cases {r : Except Failure ToolRef}
    (h : (acquire options).outcome s w = some (r, w')) :
    ∃ found w₁ later, (findTool options).outcome s w = some (found, w₁) ∧ Passes w₁ later w' ∧
      (∀ record ∈ later, Script.isLookup record.call = false) ∧
      ((∃ failure, found = .error failure ∧ r = .error failure ∧ w' = w₁) ∨
        ∃ tool, found = .ok tool ∧ (readyTool options tool).outcome s w₁ = some (r, w') ∧
          ∀ given, r = .ok given → given = tool ∧
            later.LastAnswer w₁.calls Call.isProbe (.isReady tool)
              (foundReady s tool · = true)) := by
  rcases bind_cases h with ⟨tool, w₁, hfind, h⟩ | ⟨failure, hfind, rfl⟩
  · obtain ⟨later, hpasses, hlater, hready⟩ := readyTool_passes h
    exact ⟨_, w₁, later, hfind, hpasses, hlater, .inr ⟨tool, rfl, h, hready⟩⟩
  · exact ⟨_, w', [], hfind, .refl w', List.forall_mem_nil _, .inl ⟨failure, rfl, rfl, rfl⟩⟩

/-- Lookups do not ask whether a tool is ready. -/
theorem no_probe_of_lookups {calls : History}
    (h : ∀ record ∈ calls, record.call = lookupCall options) :
    calls.all fun record => !record.call.isProbe := by
  rw [List.all_eq_true]
  intro record hmem
  rw [h record hmem]
  rfl

theorem attachOrLaunch_of_outcome {r : Except Failure ToolRef}
    (h : (acquire options).outcome s w = some (r, w')) :
    ∃ made, AttachOrLaunch s options w made r w' := by
  obtain ⟨found, w₁, later, hfind, hpasses, hlater, hend⟩ := acquire_cases h
  have hsearch := findTool_cases hfind
  obtain ⟨polls, hcalls, hlookups, honce, hlast⟩ := hsearch.calls_eq
  have hmuted {plan : OutputPlan}
      (houtputs : w₁.outputs = some (plan.streams.map fun stream => (stream, false))) :
      w₁.Muted := by
    intro marks hmarks
    rw [houtputs, Option.some.injEq] at hmarks
    simp [← hmarks]
  refine ⟨later ++ (polls ++ [lookupRecord s options w.calls]), ?_⟩
  exact {
    calls := by simp [hpasses.calls, hcalls]
    first := by simp
    lookups := by
      intro host port binding v hmem
      rcases List.mem_append.mp hmem with hmem | hmem
      · cases hlater _ hmem
      · have hcall := hlookups _ hmem
        simpa [lookupCall] using hcall
    launched := by
      intro fault executable hmissing hfirst
      refine ⟨launchCommand options executable, rfl, ?_⟩
      rw [hpasses.launches, hsearch.launches_eq hmissing hfirst]
    unlaunched := by
      intro hnot
      rw [hpasses.launches, hsearch.launches_same hnot]
    lookedUpOnce := by
      intro hnot
      have hnone : later.countP (Script.isLookup ·.call) = 0 := by
        rw [List.countP_eq_zero]
        intro record hmem
        simp [hlater record hmem]
      rw [List.countP_append, hnone, honce hnot]
      rfl
    ready := by
      intro tool hr
      rcases hend with ⟨failure, -, hfailed, -⟩ | ⟨other, hfound, -, hready⟩
      · cases hfailed.symm.trans hr
      · obtain ⟨rfl, hprobe⟩ := hready tool hr
        rw [hcalls] at hprobe
        exact ⟨(hlast tool hfound).append hlater, hprobe.of_append⟩
    unready := by
      intro tool hgiven hnever
      obtain ⟨hfound, hasks⟩ := hsearch.asks_of_found hgiven
      rcases hend with ⟨failure, hfailed, -⟩ | ⟨other, hother, hready, -⟩
      · cases hfound.symm.trans hfailed
      · cases hfound.symm.trans hother
        have hnow : w₁.now = w.now := by rw [hasks.same]
        rw [← hnow]
        refine readyTool_unready (fun later => ?_) hready
        rw [hasks.passes.calls, ← List.append_assoc]
        exact hnever _
    detached := by
      intro fault executable plan hmissing hfirst hlaunch
      have houtputs := hsearch.outputs_eq hmissing hfirst hlaunch
      refine ⟨found, _, w₁, hfind, hcalls, no_probe_of_lookups hlookups, houtputs,
        hpasses.outputs, hpasses.lines (hmuted houtputs), ?_⟩
      rcases hend with ⟨failure, hfailed, hr, hw⟩ | ⟨tool, hfound, hready, -⟩
      · exact .inl ⟨failure, hfailed, hr, hw⟩
      · exact .inr ⟨tool, hfound, hready⟩ }

/-- Getting hold of the tool comes to an end if the bound on rounds is enough for both loops. Where
the tool is found at once, there is but one. -/
theorem acquire_ends
    (hready : ∀ tool w₁, (findTool options).outcome s w = some (.ok tool, w₁) →
      EnoughPatience s w₁.now options.readiness.timeout options.readiness.interval)
    (hstart : (∃ tool, lookupAnswer s options w.calls = .ok tool) ∨
      EnoughPatience s w.now options.startupTimeout options.lookupInterval) :
    ((acquire options).outcome s w).isSome := by
  obtain ⟨⟨found, w₁⟩, hfind⟩ := Option.isSome_iff_exists.mp (findTool_ends hstart)
  rw [acquire, outcome_bind, hfind, Option.bind_some]
  cases found with
  | error failure => rfl
  | ok tool => exact readyTool_ends (hready tool w₁ hfind)

/-- Whatever the registry, the tool, the files, the launcher and the user do, getting hold of
the tool comes to what `AttachOrLaunch` says. It does come to an end if the bound on rounds is
enough for waiting until the tool is ready and, where the first lookup fails, for waiting
until it has registered. -/
theorem acquire_attaches_or_launches (s : Surroundings) (options : AcquireOptions) (w : World σ) :
    (∀ r w', (acquire options).outcome s w = some (r, w') →
        ∃ made, AttachOrLaunch s options w made r w') ∧
      ((∀ tool w₁, (findTool options).outcome s w = some (.ok tool, w₁) →
          EnoughPatience s w₁.now options.readiness.timeout options.readiness.interval) →
        (∃ tool, lookupAnswer s options w.calls = .ok tool) ∨
          EnoughPatience s w.now options.startupTimeout options.lookupInterval →
        ((acquire options).outcome s w).isSome) := by
  exact ⟨fun r w' h => attachOrLaunch_of_outcome h, acquire_ends⟩

end

/-! ### A small tool -/

/-- Options with one candidate, and with no time to wait. -/
def smallOptions : AcquireOptions where
  host := "localhost"
  port := 1099
  binding := "TptApi"
  executables := [⟨true, [['t']]⟩]
  arguments := []
  startupTimeout := 0
  lookupInterval := 100
  readiness := ⟨0, 100⟩
  platform := .linux

/-- A world in which the candidate is a file. -/
def smallWorld : World Files.Tree :=
  .initial (Files.Tree.empty.put ⟨true, [['t']]⟩ (.file [])) [] []

/-- A tool that follows a script, a process without output, and one round for each loop. -/
def smallSurroundings (script : Script) (interruptAt : Option Config.Millis) : Surroundings :=
  script.surroundings (fun _ => .ok .silent) false interruptAt 1

theorem acquire_attaches_or_launches_small :
    let s := smallSurroundings { Script.prompt with registry := .boundAfter 1 } none
    ∃ r w', (acquire smallOptions).outcome s smallWorld = some (r, w') ∧
      w'.launches.map (·.program) = [⟨true, [['t']]⟩] ∧
      w'.outputs = some [(.stdout, false), (.stderr, false)] := by
  intro s
  have hfound : ((findTool smallOptions).outcome s smallWorld).map (·.2.now) = some 0 := by
    decide +kernel
  have hready (tool : ToolRef) (w₁ : World Files.Tree)
      (hfind : (findTool smallOptions).outcome s smallWorld = some (.ok tool, w₁)) :
      EnoughPatience s w₁.now 0 100 := by
    rw [hfind, Option.map_some, Option.some.injEq] at hfound
    rw [hfound]
    exact ⟨0, rfl, .inl ⟨Nat.zero_le _, Nat.zero_le _⟩⟩
  have hmissing : lookupAnswer s smallOptions smallWorld.calls = .error (.notBound "TptApi") := rfl
  have hfirst : smallOptions.executables.find? (FileStore.isFile smallWorld.files) =
      some ⟨true, [['t']]⟩ := by decide
  obtain ⟨hcomes, hends⟩ := acquire_attaches_or_launches s smallOptions smallWorld
  obtain ⟨⟨r, w'⟩, h⟩ := Option.isSome_iff_exists.mp
    (hends hready (.inr ⟨0, rfl, .inl ⟨Nat.zero_le _, Nat.zero_le _⟩⟩))
  obtain ⟨made, hmade⟩ := hcomes r w' h
  obtain ⟨command, hprogram, hlaunches⟩ := hmade.launched _ _ hmissing hfirst
  obtain ⟨_, _, w₁, -, -, -, houtputs, hsame, -⟩ := hmade.detached _ _ .silent hmissing hfirst rfl
  refine ⟨r, w', h, ?_, ?_⟩
  · rw [hlaunches, List.map_append, List.map_cons, hprogram]
    rfl
  · rw [hsame, houtputs]
    rfl

/-- A tool that is there and never gets ready need not use up the time: the user may interrupt. -/
theorem acquire_interrupted_unready :
    let s := smallSurroundings { Script.prompt with readyAfter := none } (some 0)
    let options := { smallOptions with readiness := ⟨60000, 100⟩ }
    lookupAnswer s options smallWorld.calls = .ok ⟨0⟩ ∧
      (∀ history, foundReady s ⟨0⟩ history = false) ∧
      ∃ w', (acquire options).outcome s smallWorld =
        some (.error (.interrupted "waiting for TPT to become ready"), w') := by
  intro s options
  have hnever (history : History) : foundReady s ⟨0⟩ history = false := by
    unfold foundReady
    cases (s.verdict history (.isReady ⟨0⟩)).fault? with
    | none => rfl
    | some fault => rfl
  have hends : ((acquire options).outcome s smallWorld).map (fun p => match p.1 with
      | .ok _ => none
      | .error failure => some failure) =
      some (some (.interrupted "waiting for TPT to become ready")) := by decide +kernel
  obtain ⟨⟨r, w'⟩, h, hr⟩ := Option.map_eq_some_iff.mp hends
  cases r with
  | ok tool => cases hr
  | error failure =>
      cases hr
      exact ⟨rfl, hnever, w', h⟩

end CaseRunner.Connection

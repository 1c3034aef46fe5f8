import CaseRunner.Proofs.Connection.Acquire

/-!
# `CaseRunner.Proofs.Connection.Timeline`: the poll instants of a call for the tool

Between two pauses no time passes, so a call for the tool is a sequence of instants. At each one
the tool is looked up or asked whether it is ready, and at one of them both. An `Instant` tells
the time, the calls and the processes so far, and what is waited for then, if it is not all over.
`instantAt` lists the instants that there are if the user never interrupts. It is a function of
how the registry, the tool, the files and the launcher behave, and does not look at the user.

`acquire_timeline` places every outcome there, also that of a call that is interrupted: it goes
along the instants until it is all over, or until the user interrupts the pause after one of them.
-/

set_option autoImplicit false

namespace CaseRunner.Remote

open CaseRunner.Config (Millis)
open CaseRunner.Connection (Command)

variable {σ : Type} {s : Surroundings} {w w' : World σ}

/-- How far a call for the tool has got. -/
structure Progress where
  /-- The time. -/
  time : Millis
  /-- The calls so far, the last one first. -/
  calls : History
  /-- The commands that were used to start the tool, in order. -/
  launches : List Command

namespace Progress

/-- One more call has been made. -/
def asking (p : Progress) (record : CallRecord) : Progress := { p with calls := record :: p.calls }

/-- A process has been started, or was to be. -/
def launching (p : Progress) (command : Command) : Progress :=
  { p with launches := p.launches ++ [command] }

/-- Time has passed. -/
def waiting (p : Progress) (time : Millis) : Progress := { p with time := time }

end Progress

/-- How far a call for the tool has got in a world. -/
def World.progress (w : World σ) : Progress := ⟨w.now, w.calls, w.launches⟩

/-- One question takes no time. -/
theorem Asks.progress {record : CallRecord} (h : Asks w [record] w') :
    w'.progress = w.progress.asking record := by
  rw [World.progress, h.same]
  rfl

/-- Noting something is no progress. -/
theorem Asks.progress_nil (h : Asks w [] w') : w'.progress = w.progress := by
  rw [World.progress, h.same]
  rfl

theorem progress_advance (toJournal : Bool) (time : Millis) (w : World σ) :
    (w.advance toJournal time).progress = w.progress.waiting time := by
  have hpasses := advance_passes toJournal time w
  rw [World.progress, advance_now, hpasses.calls, hpasses.launches]
  rfl

/-- A pause that lasts to its end does so by the moment of the user. -/
theorem pause_progress {interval : Millis} {activity : String}
    (h : (pause interval activity).outcome s w = some (.ok (), w')) :
    w'.progress = w.progress.waiting (wakeAt w.now interval) ∧
      ∀ moment, s.interruptAt = some moment → wakeAt w.now interval ≤ moment := by
  rcases pause_cases h with ⟨-, rfl, hintime⟩ | ⟨_, _, -, hr, -⟩
  · exact ⟨progress_advance _ _ w, fun moment hmoment => (hintime moment hmoment).2⟩
  · cases hr

/-- A pause that is interrupted ends at once, or at the moment of the user. -/
theorem pause_interrupted {interval : Millis} {activity : String} {failure : Failure}
    (h : (pause interval activity).outcome s w = some (.error failure, w')) :
    ∃ moment, s.interruptAt = some moment ∧
      (moment ≤ w.now ∨ moment < wakeAt w.now interval) ∧
      w'.progress = w.progress.waiting (max moment w.now) := by
  rcases pause_cases h with ⟨hr, -⟩ |
    ⟨moment, w₁, hmoment, -, ⟨hbefore, rfl⟩ | ⟨⟨hafter, hduring⟩, rfl⟩, entry, rfl⟩
  · cases hr
  · refine ⟨moment, hmoment, .inl hbefore, ?_⟩
    rw [Nat.max_eq_right hbefore]
    rfl
  · refine ⟨moment, hmoment, .inr hduring, ?_⟩
    rw [Nat.max_eq_left (Nat.le_of_lt hafter)]
    exact progress_advance _ _ w

end CaseRunner.Remote

namespace CaseRunner.Connection

open CaseRunner.Config (Millis AcquireOptions)
open CaseRunner.Files (FileStore)
open CaseRunner.Remote
open CaseRunner.Remote.Action

variable {σ α : Type} {s : Surroundings} {w w' : World σ} {options : AcquireOptions}

/-! ### Instants -/

/-- What a call for the tool is at. -/
inductive Standing where
  /-- It is all over. -/
  | ended (result : Except Failure ToolRef)
  /-- The tool has not registered, and there is time until the deadline. -/
  | registering (deadline : Option Millis)
  /-- The tool is not ready, and there is time until the deadline. -/
  | preparing (tool : ToolRef) (deadline : Option Millis)

/-- The pause that comes next, and what it is for. -/
def Standing.pause? (options : AcquireOptions) : Standing → Option (Millis × String)
  | .ended _ => none
  | .registering _ => some (options.lookupInterval, "waiting for TPT to start")
  | .preparing .. => some (options.readiness.interval, "waiting for TPT to become ready")

/-- An instant between two pauses, after all that is done then. -/
structure Instant extends Progress where
  /-- What the call is at. -/
  standing : Standing

/-- One round of a loop. If it finds what is waited for, `found` says what follows in the same
instant; `standing` is for a round that does not while there is time. -/
def Rounds.instant (p : Rounds α) (s : Surroundings) (standing : Standing)
    (found : α → Progress → Instant) (progress : Progress) : Instant :=
  let asked := progress.asking ⟨p.call, s.verdict progress.calls p.call⟩
  match p.answer progress.calls with
  | some a => found a asked
  | none =>
    if p.deadline.any (· ≤ progress.time) then ⟨asked, .ended (.error p.late)⟩
    else ⟨asked, standing⟩

/-- The tool is asked whether it is ready, and for its version if it is. -/
def probeInstant (s : Surroundings) (options : AcquireOptions) (tool : ToolRef)
    (deadline : Option Millis) : Progress → Instant :=
  (readinessRounds s options.readiness tool deadline).instant s (.preparing tool deadline)
    fun _ progress =>
      ⟨progress.asking ⟨.version tool, s.verdict progress.calls (.version tool)⟩, .ended (.ok tool)⟩

/-- A tool that was found is asked whether it is ready. -/
def foundInstant (s : Surroundings) (options : AcquireOptions) (tool : ToolRef)
    (progress : Progress) : Instant :=
  probeInstant s options tool (momentAfter progress.time options.readiness.timeout) progress

/-- A tool that was started is looked up. -/
def lookupInstant (s : Surroundings) (options : AcquireOptions) (deadline : Option Millis) :
    Progress → Instant :=
  (registrationRounds s options deadline).instant s (.registering deadline)
    (foundInstant s options)

/-- The instant after the next pause. -/
def Instant.next? (s : Surroundings) (options : AcquireOptions) (i : Instant) : Option Instant :=
  match i.standing with
  | .ended _ => none
  | .registering deadline =>
    some (lookupInstant s options deadline
      (i.waiting (wakeAt i.time options.lookupInterval)))
  | .preparing tool deadline =>
    some (probeInstant s options tool deadline
      (i.waiting (wakeAt i.time options.readiness.interval)))

section
variable [FileStore σ]

/-- The instant at which a call for the tool begins. A process that is started is looked up in
the same instant. -/
def firstInstant (s : Surroundings) (options : AcquireOptions) (w : World σ) : Instant :=
  let asked := w.progress.asking (lookupRecord s options w.calls)
  match lookupAnswer s options w.calls with
  | .ok tool => foundInstant s options tool asked
  | .error _ =>
    match options.executables.find? (FileStore.isFile w.files) with
    | none => ⟨asked, .ended (.error (.executableNotFound options.executables))⟩
    | some executable =>
      let started := asked.launching (launchCommand options executable)
      match s.launch (launchCommand options executable) with
      | .error failure => ⟨started, .ended (.error failure)⟩
      | .ok _ => lookupInstant s options (momentAfter w.now options.startupTimeout) started

section
variable {fault : LookupFault} {executable : FilePath}

theorem firstInstant_found {tool : ToolRef} (h : lookupAnswer s options w.calls = .ok tool) :
    firstInstant s options w =
      foundInstant s options tool (w.progress.asking (lookupRecord s options w.calls)) := by
  simp only [firstInstant, h]

theorem firstInstant_noExecutable (h : lookupAnswer s options w.calls = .error fault)
    (hnone : options.executables.find? (FileStore.isFile w.files) = none) :
    firstInstant s options w = ⟨w.progress.asking (lookupRecord s options w.calls),
      .ended (.error (.executableNotFound options.executables))⟩ := by
  simp only [firstInstant, h, hnone]

theorem firstInstant_notStarted {failure : Failure}
    (h : lookupAnswer s options w.calls = .error fault)
    (hfirst : options.executables.find? (FileStore.isFile w.files) = some executable)
    (hlaunch : s.launch (launchCommand options executable) = .error failure) :
    firstInstant s options w =
      ⟨(w.progress.asking (lookupRecord s options w.calls)).launching
        (launchCommand options executable), .ended (.error failure)⟩ := by
  simp only [firstInstant, h, hfirst, hlaunch]

theorem firstInstant_started {plan : OutputPlan}
    (h : lookupAnswer s options w.calls = .error fault)
    (hfirst : options.executables.find? (FileStore.isFile w.files) = some executable)
    (hlaunch : s.launch (launchCommand options executable) = .ok plan) :
    firstInstant s options w =
      lookupInstant s options (momentAfter w.now options.startupTimeout)
        ((w.progress.asking (lookupRecord s options w.calls)).launching
          (launchCommand options executable)) := by
  simp only [firstInstant, h, hfirst, hlaunch]

end

/-- The instants of a call that nobody interrupts, as far as there are any. -/
def instantAt (s : Surroundings) (options : AcquireOptions) (w : World σ) : Nat → Option Instant
  | 0 => some (firstInstant s options w)
  | number + 1 => (instantAt s options w number).bind (·.next? s options)

end

/-! ### The time at an instant -/

section
variable {p : Rounds α} {standing : Standing} {found : α → Progress → Instant}

theorem Rounds.instant_found {a : α} (h : p.answer w.calls = some a) :
    p.instant s standing found w.progress =
      found a (w.progress.asking ⟨p.call, s.verdict w.calls p.call⟩) := by
  simp [instant, World.progress, h]

theorem Rounds.instant_late (h : p.answer w.calls = none)
    (hended : p.deadline.any (· ≤ w.now) = true) :
    p.instant s standing found w.progress =
      ⟨w.progress.asking ⟨p.call, s.verdict w.calls p.call⟩, .ended (.error p.late)⟩ := by
  simp only [instant, World.progress, h]
  exact if_pos hended

theorem Rounds.instant_standing (h : p.answer w.calls = none)
    (hnot : p.deadline.any (· ≤ w.now) = false) :
    p.instant s standing found w.progress =
      ⟨w.progress.asking ⟨p.call, s.verdict w.calls p.call⟩, standing⟩ := by
  simp only [instant, World.progress, h]
  exact if_neg (ne_true_of_eq_false hnot)

/-- A round takes no time if what follows it takes none. -/
theorem Rounds.instant_time (hfound : ∀ a progress, (found a progress).time = progress.time)
    (progress : Progress) : (p.instant s standing found progress).time = progress.time := by
  unfold Rounds.instant
  dsimp only
  split
  · rw [hfound]
    rfl
  · split <;> rfl

end

@[simp] theorem probeInstant_time (tool : ToolRef) (deadline : Option Millis)
    (progress : Progress) : (probeInstant s options tool deadline progress).time = progress.time :=
  Rounds.instant_time (fun _ _ => rfl) progress

@[simp] theorem lookupInstant_time (deadline : Option Millis) (progress : Progress) :
    (lookupInstant s options deadline progress).time = progress.time :=
  Rounds.instant_time (fun _ _ => probeInstant_time _ _ _) progress

/-- The next instant is at the end of the pause. -/
theorem Instant.next?_of_pause {i : Instant} {interval : Millis} {activity : String}
    (h : i.standing.pause? options = some (interval, activity)) :
    ∃ j, i.next? s options = some j ∧ j.time = wakeAt i.time interval := by
  unfold next?
  cases hstanding : i.standing with
  | ended result =>
      rw [hstanding] at h
      cases h
  | registering deadline =>
      rw [hstanding] at h
      cases h
      exact ⟨_, rfl, lookupInstant_time _ _⟩
  | preparing tool deadline =>
      rw [hstanding] at h
      cases h
      exact ⟨_, rfl, probeInstant_time _ _ _⟩

/-! ### Going along the instants -/

/-- From one instant a call gets to another, before the user interrupts. -/
inductive Reaches (s : Surroundings) (options : AcquireOptions) : Instant → Instant → Prop
  /-- It is there. -/
  | here (i : Instant) : Reaches s options i i
  /-- It gets to the next one first. -/
  | later {i j k : Instant} (next : i.next? s options = some j)
      (inTime : ∀ moment, s.interruptAt = some moment → j.time ≤ moment)
      (rest : Reaches s options j k) : Reaches s options i k

namespace Reaches

variable {i j k : Instant}

theorem trans (h₁ : Reaches s options i j) (h₂ : Reaches s options j k) :
    Reaches s options i k := by
  induction h₁ with
  | here => exact h₂
  | later next inTime rest ih => exact .later next inTime (ih h₂)

/-- From an instant at which it is all over there is no way on. -/
theorem eq_of_ended (h : Reaches s options i k) {result : Except Failure ToolRef}
    (hended : i.standing = .ended result) : k = i := by
  cases h with
  | here => rfl
  | later next inTime rest => simp [Instant.next?, hended] at next

/-- What is reached is an instant that there is. -/
theorem instantAt [FileStore σ] (h : Reaches s options i k) (number : Nat)
    (hi : instantAt s options w number = some i) :
    ∃ later, Connection.instantAt s options w later = some k := by
  induction h generalizing number with
  | here => exact ⟨number, hi⟩
  | later next inTime rest ih =>
      refine ih (number + 1) ?_
      rw [Connection.instantAt, hi, Option.bind_some, next]

end Reaches

namespace Instant

/-- The user interrupts the pause after an instant. -/
def Interrupted (s : Surroundings) (options : AcquireOptions) (i : Instant) (failure : Failure)
    (w' : World σ) : Prop :=
  ∃ moment interval activity, s.interruptAt = some moment ∧
    i.standing.pause? options = some (interval, activity) ∧
    (moment ≤ i.time ∨ moment < wakeAt i.time interval) ∧
    failure = .interrupted activity ∧ w'.progress = i.waiting (max moment i.time)

/-- A call ends at an instant, or in the pause after it. -/
def Ended (s : Surroundings) (options : AcquireOptions) (i : Instant) (r : Except Failure ToolRef)
    (w' : World σ) : Prop :=
  i.standing = .ended r ∧ w'.progress = i.toProgress ∨
    ∃ failure, r = .error failure ∧ i.Interrupted s options failure w'

end Instant

/-- Only how far the call has got matters. -/
theorem Instant.Ended.of_progress {i : Instant} {r : Except Failure ToolRef} {w₁ : World σ}
    (h : i.Ended s options r w₁) (heq : w'.progress = w₁.progress) : i.Ended s options r w' := by
  unfold Ended Interrupted at *
  rwa [heq]

/-- Waiting in rounds goes along the instants of its rounds. By induction on how it ends. -/
theorem Rounds.Ends.timeline {p : Rounds α} (options : AcquireOptions) (standing : Standing)
    (found : α → Progress → Instant) {ended : Option (Except Failure α)}
    (hpause : standing.pause? options = some (p.interval, p.activity))
    (hnext : ∀ i : Instant, i.standing = standing → i.next? s options =
      some (p.instant s standing found (i.waiting (wakeAt i.time p.interval))))
    (hfound : ∀ a progress, (found a progress).time = progress.time)
    (h : p.Ends s w ended w') :
    ∃ k, Reaches s options (p.instant s standing found w.progress) k ∧
      ((∃ a, ended = some (.ok a) ∧ k = found a w'.progress) ∨
        (ended = some (.error p.late) ∧ k = ⟨w'.progress, .ended (.error p.late)⟩) ∨
        ended = none ∧ k.Interrupted s options (.interrupted p.activity) w') := by
  induction h with
  | @found w w' a given asks =>
      refine ⟨_, .here _, .inl ⟨a, rfl, ?_⟩⟩
      rw [asks.progress, instant_found given]
  | @late w w' missed past asks =>
      refine ⟨_, .here _, .inr (.inl ⟨rfl, ?_⟩)⟩
      rw [asks.progress, instant_late missed past]
  | @interrupted w w₁ w' failure missed inTime asks pause =>
      have hinstant : p.instant s standing found w.progress = ⟨w₁.progress, standing⟩ := by
        rw [asks.progress, instant_standing missed inTime]
      obtain ⟨moment, hmoment, hwhen, hprogress⟩ := pause_interrupted pause
      rw [hinstant]
      exact ⟨_, .here _, .inr (.inr ⟨rfl, moment, p.interval, p.activity, hmoment, hpause, hwhen,
        rfl, hprogress⟩)⟩
  | @again w w₁ w₂ w' ended missed inTime asks pause rest ih =>
      have hinstant : p.instant s standing found w.progress = ⟨w₁.progress, standing⟩ := by
        rw [asks.progress, instant_standing missed inTime]
      obtain ⟨hprogress, hintime⟩ := pause_progress pause
      obtain ⟨k, hreaches, hend⟩ := ih
      rw [hinstant]
      rw [hprogress] at hreaches
      refine ⟨k, .later (hnext _ rfl) (fun moment hmoment => ?_) hreaches, hend⟩
      rw [Rounds.instant_time hfound]
      exact hintime moment hmoment

/-! ### Where a call ends -/

/-- Waiting until a tool that was found is ready goes along the instants. -/
theorem readyTool_timeline {tool : ToolRef} {r : Except Failure ToolRef}
    (h : (readyTool options tool).outcome s w = some (r, w')) :
    ∃ k, Reaches s options (foundInstant s options tool w.progress) k ∧
      k.Ended s options r w' := by
  have htimeline {ended : Option (Except Failure Unit)} {w₁ : World σ}
      (hends : (readinessRounds s options.readiness tool
        (momentAfter w.now options.readiness.timeout)).Ends s w ended w₁) :=
    hends.timeline options (.preparing tool (momentAfter w.now options.readiness.timeout))
      (fun _ progress => ⟨progress.asking ⟨.version tool, s.verdict progress.calls
        (.version tool)⟩, .ended (.ok tool)⟩)
      rfl (fun i hi => by rw [Instant.next?, hi]; rfl) (fun _ _ => rfl)
  obtain ⟨ended, w₁, hends, hend⟩ := readyTool_cases h
  obtain ⟨k, hreaches, ⟨a, rfl, rfl⟩ | ⟨rfl, rfl⟩ | ⟨rfl, hinterrupted⟩⟩ := htimeline hends
  · rcases hend with ⟨-, rfl, hasks⟩ | ⟨_, hfailed, -⟩
    · exact ⟨_, hreaches, .inl ⟨rfl, hasks.progress⟩⟩
    · cases hfailed
  · rcases hend with ⟨hready, -⟩ | ⟨_, hfailed, rfl, rfl⟩
    · cases hready
    · cases hfailed
      exact ⟨_, hreaches, .inl ⟨rfl, rfl⟩⟩
  · rcases hend with ⟨hready, -⟩ | ⟨_, hfailed, rfl, rfl⟩
    · cases hready
    · cases hfailed
      exact ⟨k, hreaches, .inr ⟨_, rfl, hinterrupted⟩⟩

@[simp] theorem detached_progress (w : World σ) : (detached w).progress = w.progress := by
  unfold detached
  split <;> rfl

theorem detached_muted (w : World σ) : (detached w).Muted := by
  intro marks hmarks
  rw [detached_outputs, Option.map_eq_some_iff] at hmarks
  obtain ⟨before, -, rfl⟩ := hmarks
  simp

/-- Starting a process takes no time. -/
theorem launch_progress {command : Command} {r : Except Failure Unit}
    (h : (launch command).outcome s w = some (r, w')) :
    w'.progress = w.progress.launching command ∧
      ((∃ plan, s.launch command = .ok plan ∧ r = .ok ()) ∨
        ∃ failure, s.launch command = .error failure ∧ r = .error failure) := by
  obtain ⟨hnow, hcalls, hlaunches, hplan⟩ := launch_cases h
  have hprogress : w'.progress = w.progress.launching command := by
    rw [World.progress, hnow, hcalls, hlaunches]
    rfl
  rcases hplan with ⟨plan, hplan, hr, -⟩ | hfailed
  · exact ⟨hprogress, .inl ⟨plan, hplan, hr⟩⟩
  · exact ⟨hprogress, .inr hfailed⟩

/-- Waiting for the tool to register goes along the instants. It ends at one of them, or goes on
with the tool that was found in the same instant. -/
theorem awaitRegistration_timeline {deadline : Option Millis} {rounds : Nat}
    {r : Except Failure ToolRef}
    (h : (awaitRegistration options deadline rounds).outcome s w = some (r, w')) :
    ∃ k, Reaches s options (lookupInstant s options deadline w.progress) k ∧
      ((∃ tool, r = .ok tool ∧ k = foundInstant s options tool w'.progress) ∨
        ∃ failure, r = .error failure ∧ k.Ended s options (.error failure) w') := by
  obtain ⟨ended, hends, rfl⟩ := awaitRegistration_rounds h
  obtain ⟨k, hreaches, ⟨tool, rfl, hfound⟩ | ⟨rfl, rfl⟩ | ⟨rfl, hinterrupted⟩⟩ :=
    hends.timeline options (.registering deadline) (foundInstant s options) rfl
      (fun i hi => by rw [Instant.next?, hi]; rfl) (fun _ _ => probeInstant_time _ _ _)
  · exact ⟨k, hreaches, .inl ⟨tool, rfl, hfound⟩⟩
  · exact ⟨_, hreaches, .inr ⟨_, rfl, .inl ⟨rfl, rfl⟩⟩⟩
  · exact ⟨k, hreaches, .inr ⟨_, rfl, .inr ⟨_, rfl, hinterrupted⟩⟩⟩

section
variable [FileStore σ]

/-- How the search for the tool ends: at an instant, or else it goes on with the tool that was
found in the same instant. If a process was started, none of its output is forwarded then. -/
def SearchEnded (s : Surroundings) (options : AcquireOptions) (w : World σ)
    (r : Except Failure ToolRef) (w' : World σ) : Prop :=
  (∃ k, Reaches s options (firstInstant s options w) k ∧
      ((∃ tool, r = .ok tool ∧ k = foundInstant s options tool w'.progress) ∨
        ∃ failure, r = .error failure ∧ k.Ended s options (.error failure) w')) ∧
    (w'.launches = w.launches ∨ w'.Muted ∨
      ∃ failure, r = .error failure ∧ (firstInstant s options w).standing = .ended r)

/-- After a first lookup that failed, starting the tool goes along the instants. -/
theorem startTool_timeline {r : Except Failure ToolRef} {w₁ : World σ} {fault : LookupFault}
    (missing : lookupAnswer s options w.calls = .error fault)
    (hasks : Asks w [lookupRecord s options w.calls] w₁)
    (h : (startTool options).outcome s w₁ = some (r, w')) : SearchEnded s options w r w' := by
  obtain ⟨w₂, hselect, hselected⟩ :=
    selectExecutable_outcome (s := s) (w := w₁) options.executables
  have hasked : w₂.progress = w.progress.asking (lookupRecord s options w.calls) :=
    hselected.progress_nil.trans hasks.progress
  rw [startTool, outcome_bind, hselect, Option.bind_some, hasks.files] at h
  cases hfirst : options.executables.find? (FileStore.isFile w.files) with
  | none =>
      simp only [hfirst, Option.some.injEq, Prod.mk.injEq] at h
      obtain ⟨rfl, rfl⟩ := h
      rw [SearchEnded, firstInstant_noExecutable missing hfirst]
      exact ⟨⟨_, .here _, .inr ⟨_, rfl, .inl ⟨rfl, hasked⟩⟩⟩, .inr (.inr ⟨_, rfl, rfl⟩)⟩
  | some executable =>
      rw [hfirst] at h
      have h := note_bind_cases h
      have h := note_bind_cases h
      rcases bind_cases h with ⟨⟨⟩, w₃, hlaunch, h⟩ | ⟨failure, hlaunch, rfl⟩
      · obtain ⟨hprogress, ⟨plan, hplan, -⟩ | ⟨_, -, hr⟩⟩ := launch_progress hlaunch
        · have hprogress := hprogress.trans (congrArg (Progress.launching · _) hasked)
          have hnow : w₃.now = w.now := congrArg Progress.time hprogress
          obtain ⟨w₄, hawait, rfl⟩ := withOutput_cases h
          simp only [outcome_bind, outcome_get, outcome_read, Option.bind_some] at hawait
          obtain ⟨k, hreaches, hend⟩ := awaitRegistration_timeline hawait
          rw [hprogress, hnow, ← launchCommand, ← firstInstant_started missing hfirst hplan]
            at hreaches
          refine ⟨⟨k, hreaches, ?_⟩, .inr (.inl (detached_muted w₄))⟩
          rw [detached_progress]
          rcases hend with hend | ⟨failure, hr, hend⟩
          · exact .inl hend
          · exact .inr ⟨failure, hr, hend.of_progress (detached_progress w₄)⟩
        · cases hr
      · obtain ⟨hprogress, ⟨_, -, hr⟩ | ⟨other, hplan, hr⟩⟩ := launch_progress hlaunch
        · cases hr
        · cases hr
          rw [SearchEnded, firstInstant_notStarted missing hfirst hplan]
          have hprogress := hprogress.trans (congrArg (Progress.launching · _) hasked)
          exact ⟨⟨_, .here _, .inr ⟨_, rfl, .inl ⟨rfl, hprogress⟩⟩⟩,
            .inr (.inr ⟨_, rfl, rfl⟩)⟩

theorem findTool_timeline {r : Except Failure ToolRef}
    (h : (findTool options).outcome s w = some (r, w')) : SearchEnded s options w r w' := by
  have h := note_bind_cases h
  have h := note_bind_cases h
  rw [outcome_bind, lookupTool_outcome, Option.bind_some] at h
  cases hanswer : lookupAnswer s options w.calls with
  | ok tool =>
      rw [hanswer] at h
      have h := note_bind_cases h
      simp only [outcome_pure, Option.some.injEq, Prod.mk.injEq] at h
      obtain ⟨rfl, rfl⟩ := h
      exact ⟨⟨_, .here _, .inl ⟨tool, rfl, firstInstant_found hanswer⟩⟩, .inl rfl⟩
  | error fault =>
      rw [hanswer] at h
      have h := note_bind_cases h
      exact startTool_timeline hanswer ⟨rfl, (lookup_asks s options w).quiet⟩ h

/-- A call for the tool goes along the instants and ends at one of them, or in the pause after
it. If a process was started, none of its output is forwarded at the end. -/
theorem acquire_timeline {r : Except Failure ToolRef}
    (h : (acquire options).outcome s w = some (r, w')) :
    (∃ k, Reaches s options (firstInstant s options w) k ∧ k.Ended s options r w') ∧
      (w'.launches = w.launches ∨ w'.Muted ∨
        ∃ failure, r = .error failure ∧ (firstInstant s options w).standing = .ended r) := by
  rcases bind_cases h with ⟨tool, w₁, hfind, h⟩ | ⟨failure, hfind, rfl⟩
  · obtain ⟨⟨k, hreaches, ⟨other, hother, rfl⟩ | ⟨failure, hfailed, -⟩⟩, hmuted⟩ :=
      findTool_timeline hfind
    · cases hother
      obtain ⟨last, hlast, hend⟩ := readyTool_timeline h
      obtain ⟨made, hpasses, -⟩ := readyTool_passes h
      refine ⟨⟨last, hreaches.trans hlast, hend⟩, ?_⟩
      rcases hmuted with hsame | hmuted | ⟨failure, hfailed, -⟩
      · exact .inl (hpasses.launches.trans hsame)
      · exact .inr (.inl (hpasses.muted hmuted))
      · cases hfailed
    · cases hfailed
  · obtain ⟨⟨k, hreaches, ⟨tool, hfound, -⟩ | ⟨other, hfailed, hend⟩⟩, hmuted⟩ :=
      findTool_timeline hfind
    · cases hfound
    · cases hfailed
      exact ⟨⟨k, hreaches, hend⟩, hmuted⟩

end

end CaseRunner.Connection

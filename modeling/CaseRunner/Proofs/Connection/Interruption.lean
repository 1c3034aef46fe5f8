import CaseRunner.Proofs.Connection.Punctual
import CaseRunner.Proofs.Connection.Timeline

/-!
# `CaseRunner.Proofs.Connection.Interruption`: a call for the tool that is interrupted

A call for the tool that the user interrupts at a moment is compared with the same call if the
user does not. `Interruptible` is the relation between the two: the outcome is the same, or the
user cuts the call short. It is proved for each part of the call, and composes along the monad.

Where the call is cut short is told by its instants (`Timeline`). So `acquire_interrupted` says
of an interrupted call at what time it fails, and that it has made the calls, and started the
processes, of the last instant by then.
-/

set_option autoImplicit false

namespace CaseRunner.Remote

open CaseRunner.Config (Millis)
open CaseRunner.Remote.Action

/-- The surroundings in which the user interrupts at a moment. -/
def Surroundings.interruptedAt (s : Surroundings) (moment : Millis) : Surroundings :=
  { s with interruptAt := some moment }

variable {σ ε ε' α β : Type} {s : Surroundings} {moment : Millis} {w w' : World σ}

/-! ### Activities that do not look at the user -/

/-- It makes no difference to the activity whether the user interrupts. -/
def Blind (s : Surroundings) (moment : Millis) (x : Action σ ε α) : Prop :=
  ∀ w, x.outcome (s.interruptedAt moment) w = x.outcome s w

namespace Blind

theorem bind {x : Action σ ε α} {f : α → Action σ ε β} (hx : Blind s moment x)
    (hf : ∀ a, Blind s moment (f a)) : Blind s moment (x >>= f) := by
  intro w
  rw [outcome_bind, outcome_bind, hx]
  rcases x.outcome s w with _ | ⟨_ | a, w₁⟩
  · rfl
  · rfl
  · exact hf a w₁

theorem attempt {x : Action σ ε α} (hx : Blind s moment x) :
    Blind s moment (Action.attempt x : Action σ ε' (Except ε α)) := by
  intro w
  rw [outcome_attempt, outcome_attempt, hx]

/-- Only the rest of the surroundings is read. -/
theorem read_bind {f : Surroundings → Action σ ε β} (hf : Blind s moment (f s))
    (hsame : f (s.interruptedAt moment) = f s) : Blind s moment (read >>= f) := by
  intro w
  rw [outcome_bind, outcome_bind, outcome_read, outcome_read, Option.bind_some, Option.bind_some]
  dsimp only
  rw [hsame, hf]

theorem perform {call : Call} {effect : History → Action σ RemoteFault α}
    (h : ∀ history, Blind s moment (effect history)) :
    Blind s moment (Remote.perform call effect) := by
  intro w
  have hsame : (s.interruptedAt moment).verdict = s.verdict := rfl
  rw [outcome_perform, outcome_perform, hsame]
  cases (s.verdict w.calls call).fault? with
  | none => exact h _ _
  | some fault => rfl

end Blind

/-! ### Activities that the user may interrupt -/

/-- How an activity, which goes on without end or interruption in the surroundings `s`, and the
same activity with an interruption at a moment compare.

- `onward`: time does not go back;
- `either`: the interruption makes no difference, and then the activity took no time or was over
  by that moment. Or else the activity fails at that moment, or at once if it began later, and
  it would not have been over by then. -/
structure Interruptible (s : Surroundings) (moment : Millis) (x : Action σ Failure α) : Prop where
  onward : ∀ {w r w'}, x.outcome s w = some (r, w') → w.now ≤ w'.now
  either : ∀ {w r w'}, x.outcome (s.interruptedAt moment) w = some (r, w') →
    (x.outcome s w = some (r, w') ∧ (w'.now = w.now ∨ w'.now ≤ moment)) ∨
      (∃ activity, r = .error (.interrupted activity)) ∧ w'.now = max moment w.now ∧
        ∀ r₀ w₀, x.outcome s w = some (r₀, w₀) → max moment w.now < w₀.now

/-- What begins without delay, or by a moment, can be cut short at the same time. -/
theorem max_of_soon {moment now later : Nat} (hle : now ≤ later)
    (hsoon : later = now ∨ later ≤ moment) : max moment later = max moment now := by
  omega

theorem soon_trans {moment now later last : Nat} (hsoon : later = now ∨ later ≤ moment)
    (hsoon' : last = later ∨ last ≤ moment) : last = now ∨ last ≤ moment := by
  omega

namespace Interruptible

/-- An activity that takes no time and does not look at the user. -/
theorem of_blind {x : Action σ Failure α} (hblind : Blind s moment x)
    (hnow : ∀ {w r w'}, x.outcome s w = some (r, w') → w'.now = w.now) :
    Interruptible s moment x where
  onward h := Nat.le_of_eq (hnow h).symm
  either h := by
    rw [hblind] at h
    exact .inl ⟨h, .inl (hnow h)⟩

theorem pure (a : α) : Interruptible s moment (Pure.pure a : Action σ Failure α) :=
  of_blind (fun _ => rfl) fun h => by cases h; rfl

theorem throw (failure : Failure) :
    Interruptible s moment (MonadExcept.throw failure : Action σ Failure α) :=
  of_blind (fun _ => rfl) fun h => by cases h; rfl

theorem get : Interruptible s moment (MonadState.get : Action σ Failure (World σ)) :=
  of_blind (fun _ => rfl) fun h => by cases h; rfl

theorem note (severity : Journal.Severity) (origin : Journal.Origin) (message : String)
    (fields : List (String × String)) :
    Interruptible s moment (Action.note severity origin message fields : Action σ Failure Unit) :=
  of_blind (fun _ => rfl) fun h => by cases h; rfl

/-- One activity after the other. -/
theorem bind {x : Action σ Failure α} {f : α → Action σ Failure β} (hx : Interruptible s moment x)
    (hf : ∀ a, Interruptible s moment (f a)) : Interruptible s moment (x >>= f) where
  onward h := by
    rcases bind_cases h with ⟨a, w₁, hfirst, hrest⟩ | ⟨failure, hfirst, -⟩
    · exact (hx.onward hfirst).trans ((hf a).onward hrest)
    · exact hx.onward hfirst
  either {w r w'} h := by
    rcases bind_cases h with ⟨a, w₁, hfirst, hrest⟩ | ⟨failure, hfirst, rfl⟩
    · rcases hx.either hfirst with ⟨hsame, hsoon⟩ | ⟨⟨activity, hr⟩, -⟩
      · have honward := hx.onward hsame
        have hbind : (x >>= f).outcome s w = (f a).outcome s w₁ := by
          rw [outcome_bind, hsame, Option.bind_some]
        -- What is left begins by that moment, or without delay.
        rw [hbind, ← max_of_soon honward hsoon]
        rcases (hf a).either hrest with ⟨hsame', hsoon'⟩ | hcut
        · exact .inl ⟨hsame', soon_trans hsoon hsoon'⟩
        · exact .inr hcut
      · cases hr
    · rcases hx.either hfirst with ⟨hsame, hsoon⟩ | ⟨⟨activity, hr⟩, hnow, hlong⟩
      · refine .inl ⟨?_, hsoon⟩
        rw [outcome_bind, hsame, Option.bind_some]
      · refine .inr ⟨⟨activity, ?_⟩, hnow, fun r₀ w₀ h₀ => ?_⟩
        · cases hr
          rfl
        · rcases bind_cases h₀ with ⟨a, w₁, hfirst, hrest⟩ | ⟨other, hfirst, -⟩
          · exact Nat.lt_of_lt_of_le (hlong _ _ hfirst) ((hf a).onward hrest)
          · exact hlong _ _ hfirst

/-- The surroundings are the same but for the user. -/
theorem read_bind {f : Surroundings → Action σ Failure β} (hf : Interruptible s moment (f s))
    (hsame : f (s.interruptedAt moment) = f s) : Interruptible s moment (read >>= f) := by
  have hread (t : Surroundings) (w : World σ) :
      (read >>= f : Action σ Failure β).outcome t w = (f t).outcome t w := by
    rw [outcome_bind, outcome_read, Option.bind_some]
  refine ⟨fun h => hf.onward (hread s _ ▸ h), fun {w r w'} h => ?_⟩
  rw [hread, hsame] at h
  rw [hread]
  exact hf.either h

end Interruptible

/-- A pause that nobody interrupts lasts to its end. -/
theorem pause_outcome (hfree : s.interruptAt = none) (interval : Millis) (activity : String) :
    (pause interval activity : Action σ Failure Unit).outcome s w =
      some (.ok (), w.advance s.outputToJournal (wakeAt w.now interval)) := by
  unfold pause
  simp only [outcome_bind, outcome_get, outcome_read, Option.bind_some, hfree]
  rfl

theorem Interruptible.pause (hfree : s.interruptAt = none) {interval : Millis} (h : 0 < interval)
    (activity : String) :
    Interruptible s moment (Remote.pause interval activity : Action σ Failure Unit) where
  onward {w r w'} hpause := by
    rw [pause_outcome hfree] at hpause
    cases hpause
    rw [advance_now]
    exact Nat.le_of_lt (lt_wakeAt h w.now)
  either {w r w'} hpause := by
    rw [pause_outcome hfree]
    cases r with
    | ok a =>
        obtain ⟨hprogress, hintime⟩ := pause_progress hpause
        have hnow : w'.now = wakeAt w.now interval := congrArg Progress.time hprogress
        rcases pause_cases hpause with ⟨-, hw, -⟩ | ⟨_, _, -, hr, -⟩
        · refine .inl ⟨by rw [hw]; rfl, .inr ?_⟩
          rw [hnow]
          exact hintime moment rfl
        · cases hr
    | error failure =>
        obtain ⟨other, hother, hwhen, hprogress⟩ := pause_interrupted hpause
        obtain rfl : moment = other := Option.some.inj hother
        refine .inr ⟨⟨activity, congrArg _ (Connection.pause_error hpause)⟩,
          congrArg Progress.time hprogress, fun r₀ w₀ h₀ => ?_⟩
        cases h₀
        have hlt := lt_wakeAt h w.now
        rw [advance_now]
        exact Nat.max_lt.mpr ⟨hwhen.elim (Nat.lt_of_le_of_lt · hlt) id, hlt⟩

end CaseRunner.Remote

namespace CaseRunner.Connection

open CaseRunner.Config (Millis AcquireOptions ReadinessOptions)
open CaseRunner.Files (FileStore)
open CaseRunner.Remote
open CaseRunner.Remote.Action

variable {σ α : Type} {s : Surroundings} {moment : Millis} {w w' : World σ}
  {options : AcquireOptions}

/-! ### The parts of the call -/

theorem interruptible_isOver (deadline : Option Millis) :
    Interruptible s moment (isOver deadline : Action σ Failure Bool) :=
  .of_blind (fun _ => rfl) fun h => by cases h; rfl

theorem interruptible_lookupTool :
    Interruptible s moment (lookupTool options : Action σ Failure _) := by
  refine .of_blind (fun w => ?_) fun h => ?_
  · rw [lookupTool_outcome, lookupTool_outcome]
    rfl
  · rw [lookupTool_outcome] at h
    cases h
    rfl

theorem interruptible_probe (tool : ToolRef) :
    Interruptible s moment (probe tool : Action σ Failure Bool) := by
  have hblind : Blind s moment (isReady tool : Action σ RemoteFault Bool) :=
    .perform fun _ => .read_bind (fun _ => rfl) rfl
  refine .of_blind (hblind.attempt.bind fun result => ?_) fun {w r w'} h => ?_
  · cases result with
    | ok ready => exact fun _ => rfl
    | error fault => exact fun _ => rfl
  · obtain ⟨w₁, hprobe, hasks⟩ := probe_outcome (s := s) (w := w) tool
    cases hprobe.symm.trans h
    rw [hasks.same]

theorem interruptible_noteVersion (tool : ToolRef) :
    Interruptible s moment (noteVersion tool : Action σ Failure Unit) := by
  have hblind : Blind s moment (version tool : Action σ RemoteFault String) :=
    .perform fun _ => .read_bind (fun _ => rfl) rfl
  refine .of_blind (hblind.attempt.bind fun result => ?_) fun {w r w'} h => ?_
  · cases result with
    | ok version => exact fun _ => rfl
    | error fault => exact fun _ => rfl
  · obtain ⟨w₁, hversion, hasks⟩ := noteVersion_outcome (s := s) (w := w) tool
    cases hversion.symm.trans h
    rw [hasks.same]

theorem interruptible_launch (command : Command) :
    Interruptible s moment (launch command : Action σ Failure Unit) := by
  refine .of_blind (.bind (fun _ => rfl) fun _ => .read_bind ?_ rfl) fun {w r w'} h => ?_
  · cases s.launch command with
    | error failure => exact fun _ => rfl
    | ok plan =>
        dsimp only
        split <;> split <;> exact fun _ => rfl
  · exact congrArg Progress.time (launch_progress h).1

/-- The output does not matter. -/
theorem interruptible_withOutput {x : Action σ Failure α} (hx : Interruptible s moment x) :
    Interruptible s moment (withOutput x) := by
  have hnow (w : World σ) : (detached w).now = w.now :=
    congrArg Progress.time (detached_progress w)
  constructor
  · intro w r w' h
    obtain ⟨w₁, hended, rfl⟩ := withOutput_cases h
    rw [hnow]
    exact hx.onward hended
  · intro w r w' h
    obtain ⟨w₁, hended, rfl⟩ := withOutput_cases h
    rw [hnow]
    rcases hx.either hended with ⟨hsame, hsoon⟩ | ⟨hr, hstop, hlong⟩
    · refine .inl ⟨?_, hsoon⟩
      rw [withOutput_outcome, hsame]
      rfl
    · refine .inr ⟨hr, hstop, fun r₀ w₀ h₀ => ?_⟩
      obtain ⟨w₂, hended₀, rfl⟩ := withOutput_cases h₀
      rw [hnow]
      exact hlong _ _ hended₀

/-- A loop that has not come to its end has nothing to compare. -/
theorem interruptible_unfinished :
    Interruptible s moment (unfinished : Action σ Failure α) where
  onward h := by cases h
  either h := by cases h

/-- Both loops are interrupted in their pauses. By induction on the bound on rounds. -/
theorem interruptible_awaitRegistration (hfree : s.interruptAt = none)
    (hinterval : 0 < options.lookupInterval) (deadline : Option Millis) (rounds : Nat) :
    Interruptible s moment (awaitRegistration options deadline rounds : Action σ Failure _) := by
  induction rounds with
  | zero => exact interruptible_unfinished
  | succ rounds ih =>
      refine interruptible_lookupTool.bind fun answer => ?_
      cases answer with
      | ok tool => exact (Interruptible.note _ _ _ _).bind fun _ => .pure tool
      | error fault =>
          refine (interruptible_isOver deadline).bind fun late => ?_
          dsimp only
          split
          · exact (Interruptible.note _ _ _ _).bind fun _ => .throw _
          · exact (Interruptible.pause hfree hinterval _).bind fun _ => ih

theorem interruptible_awaitReady {options : ReadinessOptions} (hfree : s.interruptAt = none)
    (hinterval : 0 < options.interval) (tool : ToolRef) (deadline : Option Millis) (rounds : Nat) :
    Interruptible s moment (awaitReady tool options deadline rounds : Action σ Failure Unit) := by
  induction rounds with
  | zero => exact interruptible_unfinished
  | succ rounds ih =>
      refine (interruptible_isOver deadline).bind fun late => ?_
      dsimp only
      split
      · exact (Interruptible.note _ _ _ _).bind fun _ => .throw _
      · refine (Interruptible.pause hfree hinterval _).bind fun _ => ?_
        refine (interruptible_probe tool).bind fun ready => ?_
        split
        · exact .pure ()
        · exact ih

theorem interruptible_readyTool (hfree : s.interruptAt = none)
    (hinterval : 0 < options.readiness.interval) (tool : ToolRef) :
    Interruptible s moment (readyTool options tool : Action σ Failure ToolRef) := by
  refine .bind ?_ fun _ => (interruptible_noteVersion tool).bind fun _ => .pure tool
  refine (interruptible_probe tool).bind fun ready => ?_
  split
  · exact .pure ()
  · refine (Interruptible.note _ _ _ _).bind fun _ => Interruptible.get.bind fun w => ?_
    exact .read_bind (interruptible_awaitReady hfree hinterval tool _ _) rfl

section
variable [FileStore σ]

theorem interruptible_findTool (hfree : s.interruptAt = none)
    (hinterval : 0 < options.lookupInterval) :
    Interruptible s moment (findTool options : Action σ Failure ToolRef) := by
  refine (Interruptible.note _ _ _ _).bind fun _ => (Interruptible.note _ _ _ _).bind fun _ => ?_
  refine interruptible_lookupTool.bind fun answer => ?_
  cases answer with
  | ok tool => exact (Interruptible.note _ _ _ _).bind fun _ => .pure tool
  | error fault =>
      refine (Interruptible.note _ _ _ _).bind fun _ => ?_
      have hselect : Interruptible s moment
          (ofFiles (selectExecutable options.executables) : Action σ Failure _) := by
        refine .of_blind (fun _ => rfl) fun {w r w'} h => ?_
        obtain ⟨w₁, hselect, hasks⟩ :=
          selectExecutable_outcome (s := s) (w := w) options.executables
        cases hselect.symm.trans h
        rw [hasks.same]
      refine hselect.bind fun executable => (Interruptible.note _ _ _ _).bind fun _ => ?_
      refine (Interruptible.note _ _ _ _).bind fun _ => (interruptible_launch _).bind fun _ => ?_
      refine interruptible_withOutput (Interruptible.get.bind fun w => ?_)
      exact .read_bind (interruptible_awaitRegistration hfree hinterval _ _) rfl

theorem interruptible_acquire (hfree : s.interruptAt = none)
    (hlookup : 0 < options.lookupInterval) (hready : 0 < options.readiness.interval) :
    Interruptible s moment (acquire options : Action σ Failure ToolRef) :=
  (interruptible_findTool hfree hlookup).bind fun tool => interruptible_readyTool hfree hready tool

/-! ### A launcher that fails as if the user had interrupted -/

/-- Starting a tool that cannot be started takes no time. -/
theorem startTool_notStarted {executable : FilePath} {failure : Failure}
    (hfirst : options.executables.find? (FileStore.isFile w.files) = some executable)
    (hlaunch : s.launch (launchCommand options executable) = .error failure) :
    ∃ w', (startTool options).outcome s w = some (.error failure, w') ∧ w'.now = w.now := by
  have hlaunched (v : World σ) : ∃ v',
      (launch (launchCommand options executable)).outcome s v = some (.error failure, v') ∧
        v'.now = v.now := by
    obtain ⟨⟨r, v'⟩, h⟩ := Option.isSome_iff_exists.mp (launch_ends (s := s) _ v)
    obtain ⟨hprogress, ⟨plan, hplan, -⟩ | ⟨other, hother, rfl⟩⟩ := launch_progress h
    · cases hlaunch.symm.trans hplan
    · cases hlaunch.symm.trans hother
      exact ⟨v', h, congrArg Progress.time hprogress⟩
  obtain ⟨w₁, hselect, hasks⟩ := selectExecutable_outcome (s := s) (w := w) options.executables
  have hnow : w₁.now = w.now := by rw [hasks.same]
  rw [startTool, outcome_bind, hselect, hfirst]
  simp only [Option.bind_some, outcome_bind, outcome_note]
  rw [← hnow]
  simp only [launchCommand] at hlaunched
  obtain ⟨w', h, hnow'⟩ := hlaunched _
  rw [h]
  exact ⟨w', rfl, hnow'⟩

/-- A call for a tool that cannot be started is over at once. -/
theorem acquire_notStarted {fault : LookupFault} {executable : FilePath} {failure : Failure}
    (hmissing : lookupAnswer s options w.calls = .error fault)
    (hfirst : options.executables.find? (FileStore.isFile w.files) = some executable)
    (hlaunch : s.launch (launchCommand options executable) = .error failure) :
    ∃ w', (acquire options).outcome s w = some (.error failure, w') ∧ w'.now = w.now := by
  -- What has been noted before does not matter.
  have hstart (v : World σ) (hfiles : v.files = w.files) (hnow : v.now = w.now) :
      ∃ w', (startTool options >>= readyTool options).outcome s v = some (.error failure, w') ∧
        w'.now = w.now := by
    rw [← hfiles] at hfirst
    obtain ⟨w', h, hnow'⟩ := startTool_notStarted hfirst hlaunch
    rw [outcome_bind, h]
    exact ⟨w', rfl, hnow'.trans hnow⟩
  rw [acquire, outcome_bind, findTool]
  simp only [outcome_bind, outcome_note, lookupTool_outcome, hmissing, Option.bind_some]
    at hstart ⊢
  exact hstart _ (by rfl) (by rfl)

/-- No round ends as if the user had interrupted, unless what follows it does. -/
theorem Rounds.instant_not_interrupted {p : Rounds α} {standing : Standing}
    {found : α → Progress → Instant} {activity : String}
    (hfound : ∀ a progress, (found a progress).standing ≠ .ended (.error (.interrupted activity)))
    (hlate : p.late ≠ .interrupted activity)
    (hstanding : standing ≠ .ended (.error (.interrupted activity))) (progress : Progress) :
    (p.instant s standing found progress).standing ≠ .ended (.error (.interrupted activity)) := by
  unfold Rounds.instant
  dsimp only
  split
  · exact hfound _ _
  · split
    · simpa using hlate
    · exact hstanding

theorem probeInstant_not_interrupted {tool : ToolRef} {deadline : Option Millis}
    {activity : String} (progress : Progress) :
    (probeInstant s options tool deadline progress).standing ≠
      .ended (.error (.interrupted activity)) :=
  Rounds.instant_not_interrupted (by simp) (by simp [readinessRounds]) (by simp) progress

theorem lookupInstant_not_interrupted {deadline : Option Millis} {activity : String}
    (progress : Progress) :
    (lookupInstant s options deadline progress).standing ≠
      .ended (.error (.interrupted activity)) :=
  Rounds.instant_not_interrupted (fun _ _ => probeInstant_not_interrupted _)
    (by simp [registrationRounds]) (by simp) progress

/-- So that may happen at the beginning alone, and not in a round. -/
theorem Reaches.not_interrupted {i k : Instant} {activity : String} (h : Reaches s options i k)
    (hk : k.standing = .ended (.error (.interrupted activity))) : k = i := by
  induction h with
  | here => rfl
  | @later i j k next inTime rest ih =>
      rw [ih hk] at hk
      unfold Instant.next? at next
      split at next
      · cases next
      · cases next
        exact absurd hk (lookupInstant_not_interrupted _)
      · cases next
        exact absurd hk (probeInstant_not_interrupted _)

/-- Then the call is over at once, whether the user interrupts or not. -/
theorem firstInstant_interrupted {activity : String}
    (h : (firstInstant s options w).standing = .ended (.error (.interrupted activity))) :
    ∃ w', (acquire options).outcome s w = some (.error (.interrupted activity), w') ∧
      w'.now = w.now := by
  cases hanswer : lookupAnswer s options w.calls with
  | ok tool =>
      rw [firstInstant_found hanswer] at h
      exact absurd h (probeInstant_not_interrupted _)
  | error fault =>
      cases hfirst : options.executables.find? (FileStore.isFile w.files) with
      | none =>
          rw [firstInstant_noExecutable hanswer hfirst] at h
          cases h
      | some executable =>
          cases hlaunch : s.launch (launchCommand options executable) with
          | error failure =>
              rw [firstInstant_notStarted hanswer hfirst hlaunch] at h
              cases h
              exact acquire_notStarted hanswer hfirst hlaunch
          | ok plan =>
              rw [firstInstant_started hanswer hfirst hlaunch] at h
              exact absurd h (lookupInstant_not_interrupted _)

/-! ### Both calls -/

/-- The instants do not depend on the user. -/
theorem instantAt_interruptedAt (number : Nat) :
    instantAt (s.interruptedAt moment) options w number = instantAt s options w number := by
  induction number with
  | zero => rfl
  | succ number ih =>
      rw [instantAt, instantAt, ih]
      rfl

/-- Each instant is later than the one before. -/
theorem instantAt_lt (hlookup : 0 < options.lookupInterval)
    (hready : 0 < options.readiness.interval) {number : Nat} {i j : Instant}
    (hi : instantAt s options w number = some i)
    (hj : instantAt s options w (number + 1) = some j) : i.time < j.time := by
  rw [instantAt, hi, Option.bind_some] at hj
  unfold Instant.next? at hj
  split at hj
  · cases hj
  · cases hj
    rw [lookupInstant_time]
    exact lt_wakeAt hlookup _
  · cases hj
    rw [probeInstant_time]
    exact lt_wakeAt hready _

/-- A call for the tool that is cut short at a moment.

- `failed`: it fails because the user has interrupted;
- `now`: it does so at the moment;
- `detached`: if a process was started, none of its output is forwarded any more;
- `done`: what was done is what is done by the last instant up to the moment. -/
structure CutShort (s : Surroundings) (options : AcquireOptions) (w : World σ) (stop : Millis)
    (r : Except Failure ToolRef) (w' : World σ) : Prop where
  failed : ∃ activity, r = .error (.interrupted activity)
  now : w'.now = stop
  detached : w'.launches ≠ w.launches → w'.Muted
  done : ∃ number i j, instantAt s options w number = some i ∧
    instantAt s options w (number + 1) = some j ∧ i.time ≤ stop ∧ stop < j.time ∧
    w'.calls = i.calls ∧ w'.launches = i.launches

/-- A call that nobody interrupts ends at one of the instants. -/
theorem acquire_instant (hfree : s.interruptAt = none) {r : Except Failure ToolRef}
    (h : (acquire options).outcome s w = some (r, w')) :
    ∃ number i, instantAt s options w number = some i ∧ i.standing = .ended r ∧
      w'.progress = i.toProgress := by
  obtain ⟨⟨k, hreaches, hend⟩, -⟩ := acquire_timeline h
  obtain ⟨number, hk⟩ := hreaches.instantAt (w := w) 0 rfl
  rcases hend with ⟨hended, hprogress⟩ | ⟨_, -, _, _, _, hmoment, -⟩
  · exact ⟨number, k, hk, hended, hprogress⟩
  · cases hfree.symm.trans hmoment

/-- A call that the user interrupts, compared with the same call if the user does not. The
moment is no later than the beginning, or none of the instants. -/
theorem acquire_interrupted (hfree : s.interruptAt = none)
    (hlookup : 0 < options.lookupInterval) (hready : 0 < options.readiness.interval)
    (hoff : moment ≤ w.now ∨
      ∀ number i, instantAt s options w number = some i → i.time ≠ moment)
    (hpatience : ∀ tool w₁,
      (findTool options).outcome (s.interruptedAt moment) w = some (.ok tool, w₁) →
      EnoughPatience (s.interruptedAt moment) w₁.now options.readiness.timeout
        options.readiness.interval)
    (hpatience' : EnoughPatience (s.interruptedAt moment) w.now options.startupTimeout
      options.lookupInterval) :
    (∀ number i j, instantAt s options w number = some i →
        instantAt s options w (number + 1) = some j → i.time < j.time) ∧
      (∀ r w', (acquire options).outcome s w = some (r, w') →
        ∃ number i, instantAt s options w number = some i ∧ i.standing = .ended r ∧
          w'.progress = i.toProgress) ∧
      (∀ r w', (acquire options).outcome s w = some (r, w') →
        w'.now = w.now ∨ w'.now < moment →
        (acquire options).outcome (s.interruptedAt moment) w = some (r, w')) ∧
      ((∀ r w', (acquire options).outcome s w = some (r, w') →
          w.now < w'.now ∧ moment ≤ w'.now) →
        ∃ r w', (acquire options).outcome (s.interruptedAt moment) w = some (r, w') ∧
          CutShort s options w (max moment w.now) r w') := by
  obtain ⟨⟨r, w'⟩, h⟩ :=
    Option.isSome_iff_exists.mp (acquire_ends (w := w) hpatience (.inr hpatience'))
  refine ⟨fun _ _ _ => instantAt_lt hlookup hready, fun _ _ => acquire_instant hfree,
    fun r₀ w₀ h₀ hsoon => ?_, fun hlater => ⟨r, w', h, ?_⟩⟩
  · rcases (interruptible_acquire hfree hlookup hready).either h with
      ⟨hsame, -⟩ | ⟨-, -, hlong⟩
    · rw [h, ← hsame, h₀]
    · have hlt := Nat.max_lt.mp (hlong r₀ w₀ h₀)
      rcases hsoon with hnow | hsoon
      · exact absurd hnow (Nat.ne_of_gt hlt.2)
      · exact absurd hsoon (Nat.lt_asymm hlt.1)
  · rcases (interruptible_acquire hfree hlookup hready).either h with
      ⟨hsame, hsoon⟩ | ⟨⟨activity, rfl⟩, hnow, hlong⟩
    -- The call would be over at the moment, which is none of the instants.
    · obtain ⟨hbegun, hreached⟩ := hlater r w' hsame
      obtain ⟨number, i, hi, -, hprogress⟩ := acquire_instant hfree hsame
      have htime : i.time = w'.now := (congrArg Progress.time hprogress).symm
      have hmoment : w'.now = moment := by
        rcases hsoon with hsoon | hsoon
        · exact absurd hsoon (Nat.ne_of_gt hbegun)
        · exact Nat.le_antisymm hsoon hreached
      rcases hoff with hbefore | hoff
      · exact absurd hbefore (Nat.not_le_of_lt (hmoment ▸ hbegun))
      · exact absurd (htime.trans hmoment) (hoff number i hi)
    · obtain ⟨⟨k, hreaches, hend⟩, hmuted⟩ := acquire_timeline h
      rcases hend with ⟨hended, -⟩ | ⟨failure, -, other, interval, _, hother, hpause, hwhen, -,
        hprogress⟩
      -- The launcher has failed, and would fail if the user did not interrupt.
      · rw [hreaches.not_interrupted hended] at hended
        obtain ⟨w₀, h₀, hnow₀⟩ := firstInstant_interrupted (s := s) hended
        have hlt := hlong _ w₀ h₀
        rw [hnow₀] at hlt
        exact absurd (Nat.le_max_right moment w.now) (Nat.not_le_of_lt hlt)
      · obtain rfl : moment = other := Option.some.inj hother
        have hstop : max moment w.now = max moment k.time :=
          hnow.symm.trans (congrArg Progress.time hprogress)
        obtain ⟨number, hk⟩ := hreaches.instantAt (w := w) 0 rfl
        rw [instantAt_interruptedAt] at hk
        obtain ⟨j, hnext, hj⟩ := Instant.next?_of_pause (s := s) hpause
        have hthen : instantAt s options w (number + 1) = some j := by
          rw [instantAt, hk, Option.bind_some, hnext]
        have hlt := instantAt_lt hlookup hready hk hthen
        refine ⟨⟨activity, rfl⟩, hnow, fun hlaunched => ?_, number, k, j, hk, hthen, ?_, ?_,
          congrArg Progress.calls hprogress, congrArg Progress.launches hprogress⟩
        · rcases hmuted with hsame | hmuted | ⟨_, -, hended⟩
          · exact absurd hsame hlaunched
          · exact hmuted
          · rw [hreaches.eq_of_ended hended, hended] at hpause
            cases hpause
        · rw [hstop]
          exact Nat.le_max_right _ _
        · rw [hstop]
          exact Nat.max_lt.mpr ⟨hwhen.elim (Nat.lt_of_le_of_lt · hlt) (hj ▸ ·), hlt⟩

end

/-- A tool that never registers is given up after three intervals. A user who interrupts in the
second one cuts that short, and one who comes later does not. -/
theorem acquire_interrupted_slow :
    (∃ r w', (acquire slowOptions).outcome (slowSurroundings.interruptedAt 150) smallWorld =
        some (r, w') ∧ CutShort slowSurroundings slowOptions smallWorld 150 r w') ∧
      ∀ r w', (acquire slowOptions).outcome slowSurroundings smallWorld = some (r, w') →
        (acquire slowOptions).outcome (slowSurroundings.interruptedAt 310) smallWorld =
          some (r, w') := by
  have hlong : ((acquire slowOptions).outcome slowSurroundings smallWorld).map (·.2.now) =
      some 300 := by decide +kernel
  have hnow {r : Except Failure ToolRef} {w' : World Files.Tree}
      (h : (acquire slowOptions).outcome slowSurroundings smallWorld = some (r, w')) :
      w'.now = 300 := by
    rw [h] at hlong
    exact Option.some.inj hlong
  -- There are four instants, one interval apart.
  have hnone (number : Nat) :
      instantAt slowSurroundings slowOptions smallWorld (number + 4) = none := by
    induction number with
    | zero => rfl
    | succ number ih =>
        rw [Nat.succ_add, instantAt, ih]
        rfl
  have htime : ∀ number < 4,
      (instantAt slowSurroundings slowOptions smallWorld number).map (·.time) =
        some (100 * number) := by decide
  have hoff (moment : Nat) (hmoment : moment % 100 ≠ 0) : ∀ number i,
      instantAt slowSurroundings slowOptions smallWorld number = some i → i.time ≠ moment := by
    rintro number i hi rfl
    rcases Nat.lt_or_ge number 4 with hlt | hge
    · have hwhen := htime number hlt
      rw [hi, Option.map_some, Option.some.injEq] at hwhen
      rw [hwhen, Nat.mul_mod_right] at hmoment
      exact hmoment rfl
    · obtain ⟨later, rfl⟩ := Nat.exists_eq_add_of_le' hge
      cases (hnone later).symm.trans hi
  have hpatience (moment : Config.Millis) :
      EnoughPatience (slowSurroundings.interruptedAt moment) 0 250 100 :=
    ⟨3, rfl, .inl ⟨by decide, by decide⟩⟩
  -- The tool is never found, so it is not waited for until it is ready.
  have hready {moment : Config.Millis}
      (hlost : ((findTool slowOptions).outcome (slowSurroundings.interruptedAt moment)
        smallWorld).map (·.1.toOption) = some none) (tool : ToolRef) (w₁ : World Files.Tree)
      (hfind : (findTool slowOptions).outcome (slowSurroundings.interruptedAt moment) smallWorld =
        some (.ok tool, w₁)) :
      EnoughPatience (slowSurroundings.interruptedAt moment) w₁.now 250 100 := by
    rw [hfind] at hlost
    cases hlost
  obtain ⟨-, -, -, hcut⟩ := acquire_interrupted (s := slowSurroundings)
    (w := smallWorld) rfl (by decide) (by decide) (.inr (hoff 150 (by decide)))
    (hready (by decide +kernel)) (hpatience 150)
  obtain ⟨-, -, hsame, -⟩ := acquire_interrupted (s := slowSurroundings)
    (w := smallWorld) rfl (by decide) (by decide) (.inr (hoff 310 (by decide)))
    (hready (by decide +kernel)) (hpatience 310)
  refine ⟨hcut fun r w' h => ?_, fun r w' h => hsame r w' h (.inr ?_)⟩
  · rw [hnow h]
    exact ⟨by decide, by decide⟩
  · rw [hnow h]
    decide

end CaseRunner.Connection

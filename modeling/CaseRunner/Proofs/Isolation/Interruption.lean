import CaseRunner.Proofs.Isolation.Faultless
import Mathlib.Order.MinMax

/-!
# `CaseRunner.Proofs.Isolation.Interruption`: interrupting a case run

The tool says at `n` polls that a run is running, or without end (`RunsFor`). Between two polls
there is a pause, and the user can interrupt at any time. Which comes first decides how the
case run ends (`runCase_interrupted`): the run is cancelled at the moment of the interruption,
or it is polled until its end. Everything that was changed is undone in both cases.

* `awaitCompletion_over`, `awaitCompletion_round` and `awaitCompletion_cancels` say what one
  round of the wait comes to.
* `RunsFor.reaches` goes through the rounds, one poll and one pause each, up to the one that is
  the last. That one ends the wait (`RunsFor.finishes`) or is cut short (`RunsFor.isCutShort`).
* `Interrupts.exists_pause` and `EndsInTime.finishes` find the last round by the time.
-/

set_option autoImplicit false

namespace CaseRunner.Isolation

open CaseRunner.Config (CaseRequest Millis)
open CaseRunner.Files (FileStore CopyBack)
open CaseRunner.Remote
open CaseRunner.Remote.Action

variable {σ : Type} {s : Surroundings} {w u v w' : World σ} {run : Nat} {interval : Millis}
  {n : Option Nat}

/-- So many polls that were answered, of a run that is running. -/
def polls (run count : Nat) : History := List.replicate count ⟨.isRunning run, .granted⟩

/-- The tool says at the first `n` polls that a run is running, or at all polls if there is no
`n`, and never that it is pending. It may say anything once the run is cancelled. -/
structure RunsFor (s : Surroundings) (run : Nat) (n : Option Nat) : Prop where
  running : ∀ (history : History) (count : Nat), history.about run = polls run count →
    (s.running history run = true ↔ ∀ m ∈ n, count < m)
  notPending : ∀ (history : History) (count : Nat), history.about run = polls run count →
    s.pending history run = false

/-- Polls of a run are all about it. -/
theorem about_polls (run count : Nat) : History.about run (polls run count) = polls run count := by
  refine List.filter_eq_self.mpr fun record hmem => ?_
  rw [List.eq_of_mem_replicate hmem]
  simp [Call.run?]

/-- After polls alone, the calls about a run that is new are these polls. -/
theorem about_of_polls {count : Nat} (hnew : u.calls.about run = [])
    (hcourse : Course u (polls run count) v) : v.calls.about run = polls run count := by
  rw [hcourse.calls, History.about_append, hnew, about_polls, List.append_nil]

/-- The wait for a run that began in `u` is cut short after `k + 1` polls. The last of them leads
to `u₁`, and the user interrupts the pause after it in `u₂`. There the run is cancelled, and
that is all until the wait is over in `v`. -/
structure CutShort (s : Surroundings) (run k : Nat) (interval : Millis) (u u₁ u₂ v : World σ) :
    Prop where
  polled : Course u (polls run (k + 1)) u₁
  polledAt : u₁.now = afterPauses interval u.now k
  interrupted : (pause interval "waiting for the execution to finish").outcome s u₁ =
    some (.error (.interrupted "waiting for the execution to finish"), u₂)
  interruptedAt : afterPauses interval u.now k ≤ u₂.now ∧
    u₂.now < afterPauses interval u.now (k + 1)
  cancelled : v = { u₂ with
    calls := ⟨.cancel run, .granted⟩ :: u₂.calls
    toWorkspace := u₂.note ⟨.info, .transaction, "cancelling TPT execution", []⟩ }

/-- Until the wait is over there have been the polls and the call that cancels the run. -/
theorem CutShort.calls {k : Nat} {u₁ u₂ : World σ} (h : CutShort s run k interval u u₁ u₂ v) :
    v.calls = ⟨.cancel run, .granted⟩ :: polls run (k + 1) ++ u.calls := by
  rw [h.cancelled, List.cons_append, ← h.polled.calls]
  exact congrArg (_ :: ·) (pause_course h.interrupted).calls

/-- The wait is over as soon as the user interrupts. -/
theorem CutShort.now {k : Nat} {u₁ u₂ : World σ} (h : CutShort s run k interval u u₁ u₂ v) :
    v.now = u₂.now := by rw [h.cancelled]

/-! ### One round -/

section
variable (hgrants : ∀ history call, s.verdict history call = .granted)
include hgrants

/-- Where everything is granted, a run is busy if it is running, or else if it is pending. -/
theorem outcome_isBusy (run : Nat) (w : World σ) :
    (isBusy run).outcome s w =
      if s.running w.calls run then some (.ok true, w.withCall ⟨.isRunning run, .granted⟩)
      else some (.ok (s.pending (⟨.isRunning run, .granted⟩ :: w.calls) run),
        (w.withCall ⟨.isRunning run, .granted⟩).withCall ⟨.isPending run, .granted⟩) := by
  unfold isBusy isRunning isPending
  rw [outcome_bind, outcome_perform, hgrants]
  simp only [Verdict.fault?, outcome_bind, outcome_read, outcome_pure, Option.bind_some]
  cases s.running w.calls run with
  | true => rfl
  | false =>
      simp only [Bool.false_eq_true, if_false]
      rw [outcome_perform, hgrants]
      rfl

/-- The wait is over with a poll that finds the run neither running nor pending. -/
theorem awaitCompletion_over (interval : Millis) (rounds : Nat)
    (hrunning : s.running w.calls run = false)
    (hpending : s.pending (⟨.isRunning run, .granted⟩ :: w.calls) run = false) :
    ∃ v, (awaitCompletion run interval (rounds + 1)).outcome s w = some (.ok (), v) ∧
      v.calls = ⟨.isPending run, .granted⟩ :: ⟨.isRunning run, .granted⟩ :: w.calls ∧
      v.now = w.now := by
  have hbusy := outcome_isBusy hgrants run w
  rw [hrunning, hpending, if_neg Bool.false_ne_true] at hbusy
  have hover : (awaitCompletion run interval (rounds + 1)).outcome s w =
      (note .info .transaction "execution finished" [] : Action σ Failure Unit).outcome s
        ((w.withCall ⟨.isRunning run, .granted⟩).withCall ⟨.isPending run, .granted⟩) := by
    rw [awaitCompletion]
    show (mapFailure Failure.remote (isBusy run) >>= _).outcome s w = _
    rw [outcome_bind, outcome_mapFailure, hbusy]
    rfl
  exact ⟨_, hover.trans (outcome_note _ _ _ _), rfl, rfl⟩

/-- If the run is running and the pause lasts, the wait goes on. -/
theorem awaitCompletion_round (rounds : Nat) (hrunning : s.running w.calls run = true)
    {w₁ : World σ}
    (hpause : (pause interval "waiting for the execution to finish").outcome s
      (w.withCall ⟨.isRunning run, .granted⟩) = some (.ok (), w₁)) :
    (awaitCompletion run interval (rounds + 1)).outcome s w =
      (awaitCompletion run interval rounds).outcome s w₁ := by
  have hbusy := outcome_isBusy hgrants run w
  rw [hrunning, if_pos rfl] at hbusy
  rw [awaitCompletion]
  show (mapFailure Failure.remote (isBusy run) >>= _).outcome s w = _
  rw [outcome_bind, outcome_mapFailure, hbusy, Option.map_some, Option.bind_some]
  show (attempt (pause interval _) >>= _).outcome s _ = _
  rw [outcome_bind, outcome_attempt, hpause]
  rfl

/-- If the run is running and the pause is cut short, the run is cancelled at once. -/
theorem awaitCompletion_cancels (rounds : Nat) (hrunning : s.running w.calls run = true)
    {w₁ : World σ} {failure : Failure}
    (hpause : (pause interval "waiting for the execution to finish").outcome s
      (w.withCall ⟨.isRunning run, .granted⟩) = some (.error failure, w₁)) :
    (awaitCompletion run interval (rounds + 1)).outcome s w = some (.error failure, { w₁ with
      calls := ⟨.cancel run, .granted⟩ :: w₁.calls
      toWorkspace := w₁.note ⟨.info, .transaction, "cancelling TPT execution", []⟩ }) := by
  have hbusy := outcome_isBusy hgrants run w
  rw [hrunning, if_pos rfl] at hbusy
  have hcancel (u : World σ) : (cancel run : Action σ RemoteFault Unit).outcome s u =
      some (.ok (), u.withCall ⟨.cancel run, .granted⟩) := by
    rw [cancel, command, outcome_perform, hgrants]
    rfl
  rw [awaitCompletion]
  show (mapFailure Failure.remote (isBusy run) >>= _).outcome s w = _
  rw [outcome_bind, outcome_mapFailure, hbusy, Option.map_some, Option.bind_some]
  show (attempt (pause interval _) >>= _).outcome s _ = _
  rw [outcome_bind, outcome_attempt, hpause, Option.map_some, Option.bind_some]
  simp only [outcome_bind, outcome_note, Option.bind_some, outcome_attempt, hcancel,
    Option.map_some, outcome_throw]
  rfl

/-! ### All rounds -/

variable (hruns : RunsFor s run n) (hinterval : 0 < interval) (hnew : u.calls.about run = [])
include hruns hinterval hnew

/-- As long as the run goes on and the user does not interrupt, there is one poll for each
pause. -/
theorem RunsFor.reaches (rounds : Nat) {count : Nat} (hbusy : ∀ m ∈ n, count ≤ m)
    (hlater : ∀ moment, s.interruptAt = some moment → count ≠ 0 →
      afterPauses interval u.now count ≤ moment) :
    ∃ u₁, Course u (polls run count) u₁ ∧ u₁.now = afterPauses interval u.now count ∧
      (awaitCompletion run interval (rounds + count)).outcome s u =
        (awaitCompletion run interval rounds).outcome s u₁ := by
  induction count generalizing rounds with
  | zero => exact ⟨u, .refl u, rfl, rfl⟩
  | succ count ih =>
      have horder := (afterPauses_strictMono hinterval u.now) (Nat.lt_succ_self count)
      obtain ⟨u₁, hcourse, hnow, houtcome⟩ := ih (rounds + 1)
        (fun m hm => Nat.le_of_succ_le (hbusy m hm))
        fun moment hat _ => horder.le.trans (hlater moment hat (Nat.succ_ne_zero count))
      -- The next poll finds the run running, and the pause after it lasts.
      have hrunning : s.running u₁.calls run = true :=
        (hruns.running u₁.calls count (about_of_polls hnew hcourse)).mpr hbusy
      have hpoll : Course u₁ [⟨.isRunning run, .granted⟩] _ := (Asks.of_call u₁ .granted rfl).course
      have hlasts (moment : Millis) (hat : s.interruptAt = some moment) :
          u₁.now < moment ∧ wakeAt u₁.now interval ≤ moment := by
        have hend := hlater moment hat (Nat.succ_ne_zero count)
        rw [hnow]
        exact ⟨horder.trans_le hend, hend⟩
      obtain ⟨u₂, hpause, hnow₂⟩ := pause_lasts (w := u₁.withCall ⟨.isRunning run, .granted⟩)
        hlasts "waiting for the execution to finish"
      refine ⟨u₂, (hcourse.trans hpoll).trans (pause_course hpause), ?_, ?_⟩
      · rw [hnow₂]
        show wakeAt u₁.now interval = _
        rw [hnow]
        rfl
      · rw [Nat.add_succ, ← Nat.succ_add, houtcome]
        exact awaitCompletion_round hgrants rounds hrunning hpause

/-- A wait that is not interrupted before is over with the first poll that finds the run at its
end. -/
theorem RunsFor.finishes {rounds m : Nat} (hn : n = some m) (hrounds : m < rounds)
    (hlater : ∀ moment, s.interruptAt = some moment → m ≠ 0 →
      afterPauses interval u.now m ≤ moment) :
    ∃ v, (awaitCompletion run interval rounds).outcome s u = some (.ok (), v) ∧
      v.calls = ⟨.isPending run, .granted⟩ :: polls run (m + 1) ++ u.calls ∧
      v.now = afterPauses interval u.now m := by
  subst hn
  obtain ⟨others, rfl⟩ := Nat.exists_eq_add_of_lt hrounds
  obtain ⟨u₁, hcourse, hnow, houtcome⟩ := hruns.reaches hgrants hinterval hnew (others + 1)
    (fun k hk => (Option.some.inj hk).le) hlater
  have habout := about_of_polls hnew hcourse
  have hrunning : s.running u₁.calls run = false := by
    rw [← Bool.not_eq_true, hruns.running u₁.calls m habout]
    exact fun h => Nat.lt_irrefl m (h m rfl)
  have hpending : s.pending (⟨.isRunning run, .granted⟩ :: u₁.calls) run = false := by
    refine hruns.notPending _ (m + 1) ?_
    rw [History.about_cons, habout]
    exact if_pos rfl
  obtain ⟨v, hover, hcalls, hnow'⟩ :=
    awaitCompletion_over hgrants interval others hrunning hpending
  refine ⟨v, ?_, ?_, hnow'.trans hnow⟩
  · rw [Nat.add_assoc, Nat.add_comm m, houtcome]
    exact hover
  · rw [hcalls, hcourse.calls]
    rfl

/-- A wait is cut short in the pause in which the user interrupts, or in the first one if that
was before. -/
theorem RunsFor.isCutShort {moment : Millis} {rounds k : Nat} (hat : s.interruptAt = some moment)
    (hbusy : ∀ m ∈ n, k < m) (hrounds : k < rounds)
    (hfrom : afterPauses interval u.now k ≤ max moment u.now)
    (huntil : max moment u.now < afterPauses interval u.now (k + 1)) :
    ∃ u₁ u₂ v, (awaitCompletion run interval rounds).outcome s u =
        some (.error (.interrupted "waiting for the execution to finish"), v) ∧
      CutShort s run k interval u u₁ u₂ v ∧ u₂.now = max moment u.now := by
  have hmono := afterPauses_strictMono hinterval u.now
  obtain ⟨others, rfl⟩ := Nat.exists_eq_add_of_lt hrounds
  have hlater (other : Millis) (hother : s.interruptAt = some other) (hk : k ≠ 0) :
      afterPauses interval u.now k ≤ other := by
    obtain rfl : moment = other := Option.some.inj (hat.symm.trans hother)
    have hbegun : u.now < afterPauses interval u.now k := hmono (Nat.pos_of_ne_zero hk)
    exact (le_max_iff.mp hfrom).resolve_right hbegun.not_ge
  obtain ⟨u₁, hcourse, hnow, houtcome⟩ := hruns.reaches hgrants hinterval hnew (others + 1)
    (fun m hm => (hbusy m hm).le) hlater
  have hrunning : s.running u₁.calls run = true :=
    (hruns.running u₁.calls k (about_of_polls hnew hcourse)).mpr hbusy
  -- The poll itself takes no time, so the moment lies in the pause after it.
  have hmax : max moment u₁.now = max moment u.now := by
    have hbegun : u.now ≤ afterPauses interval u.now k := hmono.monotone (Nat.zero_le k)
    rw [hnow]
    exact le_antisymm (max_le (le_max_left _ _) hfrom) (max_le_max_left moment hbegun)
  have hduring : max moment u₁.now < wakeAt u₁.now interval := by
    rw [hmax, hnow]
    exact huntil
  obtain ⟨u₂, hpause, hnow₂⟩ := pause_cut (w := u₁.withCall ⟨.isRunning run, .granted⟩) hat
    hduring "waiting for the execution to finish"
  have hpoll : Course u₁ [⟨.isRunning run, .granted⟩] _ := (Asks.of_call u₁ .granted rfl).course
  refine ⟨u₁.withCall ⟨.isRunning run, .granted⟩, u₂, _, ?_,
    ⟨hcourse.trans hpoll, hnow, hpause, ?_, rfl⟩, hnow₂.trans hmax⟩
  · rw [Nat.add_assoc, Nat.add_comm k, houtcome]
    exact awaitCompletion_cancels hgrants others hrunning hpause
  · rw [hnow₂.trans hmax]
    exact ⟨hfrom, huntil⟩

end

/-! ### A case run that is interrupted, or not -/

/-- The user interrupts at `moment`, and this is before the poll that is the first one not to
find the run running. -/
def Interrupts (s : Surroundings) (interval start : Millis) (n : Option Nat) (moment : Millis) :
    Prop :=
  s.interruptAt = some moment ∧ n ≠ some 0 ∧ ∀ m ∈ n, moment < afterPauses interval start m

/-- The bound on rounds is not reached before the poll that finds the run at its end, or before
the pause in which the user interrupts. -/
def EndsInTime (s : Surroundings) (interval start : Millis) (n : Option Nat) : Prop :=
  ∃ k < s.patience, n = some k ∨
    ∃ moment, s.interruptAt = some moment ∧ max moment start < afterPauses interval start (k + 1)

section
variable {start : Millis} (hinterval : 0 < interval) (hpatience : EndsInTime s interval start n)
include hinterval hpatience

/-- A moment at which the user interrupts lies in one of the pauses before the end of the run,
or before them all. -/
theorem Interrupts.exists_pause {moment : Millis} (h : Interrupts s interval start n moment) :
    ∃ k < s.patience, (∀ m ∈ n, k < m) ∧ afterPauses interval start k ≤ max moment start ∧
      max moment start < afterPauses interval start (k + 1) := by
  obtain ⟨hat, hstarted, hbefore⟩ := h
  have hmono := afterPauses_strictMono hinterval start
  -- Also a moment before the start is before the end of the run.
  have hlast (m : Nat) (hm : m ∈ n) : max moment start < afterPauses interval start m := by
    have hpos : 0 < m := Nat.pos_of_ne_zero fun h => hstarted (h ▸ hm)
    exact max_lt (hbefore m hm) (hmono hpos)
  have hfound : ∃ k < s.patience, afterPauses interval start k ≤ max moment start ∧
      max moment start < afterPauses interval start (k + 1) := by
    obtain ⟨count, hcount, hn | ⟨other, hother, hlt⟩⟩ := hpatience
    · obtain ⟨k, hk, hin⟩ := Remote.exists_pause (le_max_right moment start) (hlast count hn)
      exact ⟨k, hk.trans hcount, hin⟩
    · obtain rfl : moment = other := Option.some.inj (hat.symm.trans hother)
      obtain ⟨k, hk, hin⟩ := Remote.exists_pause (le_max_right moment start) hlt
      exact ⟨k, (Nat.le_of_lt_succ hk).trans_lt hcount, hin⟩
  obtain ⟨k, hk, hfrom, huntil⟩ := hfound
  exact ⟨k, hk, fun m hm => hmono.lt_iff_lt.mp (hfrom.trans_lt (hlast m hm)), hfrom, huntil⟩

/-- If the user does not interrupt in time, the run comes to its end before that. -/
theorem EndsInTime.finishes (h : ∀ moment, ¬Interrupts s interval start n moment) :
    ∃ m < s.patience, n = some m ∧ ∀ moment, s.interruptAt = some moment → m ≠ 0 →
      afterPauses interval start m ≤ moment := by
  have hmono := afterPauses_strictMono hinterval start
  have hlater (m : Nat) (hn : n = some m) (moment : Millis) (hat : s.interruptAt = some moment)
      (hm : m ≠ 0) : afterPauses interval start m ≤ moment := by
    refine Nat.le_of_not_lt fun hlt => h moment ⟨hat, fun h₀ => ?_, fun k hk => ?_⟩
    · exact hm (Option.some.inj (hn.symm.trans h₀))
    · obtain rfl : m = k := Option.some.inj (hn.symm.trans hk)
      exact hlt
  obtain ⟨count, hcount, hn | ⟨moment, hat, hlt⟩⟩ := hpatience
  · exact ⟨count, hcount, hn, hlater count hn⟩
  · cases n with
    | none => exact absurd ⟨hat, nofun, nofun⟩ (h moment)
    | some m =>
        refine ⟨m, ?_, rfl, hlater m rfl⟩
        by_cases hm : m = 0
        · exact hm ▸ Nat.zero_lt_of_lt hcount
        · have hle := (hlater m rfl moment hat hm).trans (le_max_left moment start)
          exact (Nat.le_of_lt_succ (hmono.lt_iff_lt.mp (hle.trans_lt hlt))).trans_lt hcount

end

variable {project : ProjectRef} {config : ConfigRef} {testCase : TestCase} {request : CaseRequest}
  {dataDir reportDir : FilePath}

/-- How a case run goes that starts a run: there is a wait for it from `u` to `v` that ends with
`r`, and then everything is undone, the copy of what the run has left included. Time passes in the
wait alone. -/
structure Timeline [FileStore σ] (copyBack : CopyBack σ) (s : Surroundings) (w : World σ)
    (project : ProjectRef) (config : ConfigRef) (request : CaseRequest)
    (dataDir reportDir : FilePath) (r : Except Failure Unit) (u v w' : World σ) : Prop where
  started : ∃ before, u.calls = ⟨.run config, .granted⟩ :: before ++ w.calls
  startedAt : u.now = w.now
  waited : (awaitCompletion w.runs.length request.statusInterval s.patience).outcome s u =
    some (r, v)
  left : LeftByRun s w request dataDir reportDir v
  undone : ∃ items before after dirs cleanup, History.Granted (cleanup ++ dirs ++ items) ∧
    Undone copyBack project config (scopeOf w config)
      ⟨some dataDir, some reportDir, some (tempSetOf w project request), true⟩ v
      items before after dirs cleanup w'
  undoneAt : w'.now = v.now

section
variable [FileStore σ] {copyBack : CopyBack σ}
  (hgrants : ∀ history call, s.verdict history call = .granted)
  (hconfig : w.configNamed? project request.executionConfig = some config)
  (hcase : w.caseNamed? project request.testCase = some testCase)
  (hdirs : DirsPrepared w.files request dataDir reportDir)
  (hcopy : ∀ dirs, (copyBack dirs).Ends)
  (hnew : w.calls.about w.runs.length = [])
include hgrants hconfig hcase hdirs hcopy hnew

/-- A case run without faults whose wait ends with calls about the run alone, all granted, leaves
everything as it was. -/
theorem runCase_timeline :
    ∃ u, u.now = w.now ∧ u.calls.about w.runs.length = [] ∧
      ∀ r v made,
        (awaitCompletion w.runs.length request.statusInterval s.patience).outcome s u =
            some (r, v) →
        v.calls = made ++ u.calls → made.Granted → made.about w.runs.length = made →
        ∃ w', (runCase copyBack project request).outcome s w = some (.ok r.isOk, w') ∧
          Timeline copyBack s w project config request dataDir reportDir r u v w' ∧ Restored w w' ∧
          w'.calls.about w.runs.length = made := by
  obtain ⟨before, u, hcalls, hplain, hnow, hrest⟩ :=
    runCase_waits hgrants hdirs hconfig hcase hcopy
  have habout : u.calls.about w.runs.length = [] := by
    rw [hcalls, History.about_append, hplain.about, hnew, List.append_nil]
  refine ⟨u, hnow, habout, fun r v made hwait hv hmade hown => ?_⟩
  obtain ⟨hleft, items, before', after, dirs, cleanup, w', houtcome, hundone, hlater, hnow'⟩ :=
    hrest r v hwait
  have hall : w'.calls = (cleanup ++ dirs ++ items) ++ (made ++
      (⟨.run config, .granted⟩ :: before)) ++ w.calls := by
    rw [hundone.calls, hv, hcalls]
    simp only [List.append_assoc]
  have hgranted := hlater.granted hgrants
  refine ⟨w', houtcome, ⟨⟨before, hcalls⟩, hnow, hwait, hleft,
    ⟨items, before', after, dirs, cleanup, hgranted, hundone⟩, hnow'⟩, ?_, ?_⟩
  · exact runCase_restored houtcome hall (History.granted_append.mpr
      ⟨hgranted, History.granted_append.mpr ⟨hmade, hplain.granted hgrants⟩⟩)
  · rw [hundone.calls, hv]
    simp only [History.about_append, hlater.about, habout, hown, List.append_nil,
      List.nil_append]

/-- A case run without faults, with a tool that says at `n` polls that the run is running, or
without end. If the user interrupts before poll `n`, the run is cancelled once, at that moment
or at the start if it was before, it is not polled again, and the answer is `false`. Otherwise
it is not cancelled, it is polled `n + 1` times, the last time after `n` pauses, and the answer
is `true`. In both cases all that was changed is undone without delay, the artifacts are copied,
and all configurations and test sets are as before. -/
theorem runCase_interrupted (hruns : RunsFor s w.runs.length n)
    (hinterval : 0 < request.statusInterval)
    (hpatience : EndsInTime s request.statusInterval w.now n) :
    ∃ r u v w',
      (runCase copyBack project request).outcome s w = some (.ok r.isOk, w') ∧
      Timeline copyBack s w project config request dataDir reportDir r u v w' ∧ Restored w w' ∧
      (∀ moment, Interrupts s request.statusInterval w.now n moment →
        r.isOk = false ∧ ∃ k u₁ u₂,
          CutShort s w.runs.length k request.statusInterval u u₁ u₂ v ∧
          u₂.now = max moment w.now ∧
          w'.calls.about w.runs.length =
            ⟨.cancel w.runs.length, .granted⟩ :: polls w.runs.length (k + 1)) ∧
      ((∀ moment, ¬Interrupts s request.statusInterval w.now n moment) →
        r.isOk = true ∧ ∃ m, n = some m ∧
          v.now = afterPauses request.statusInterval w.now m ∧
          w'.calls.about w.runs.length =
            ⟨.isPending w.runs.length, .granted⟩ :: polls w.runs.length (m + 1)) ∧
      (∀ k, Config.seconds (w.now + k * request.statusInterval) ≤ lastSecond →
        afterPauses request.statusInterval w.now k = w.now + k * request.statusInterval) := by
  obtain ⟨u, hnow, hfresh, hcomplete⟩ :=
    runCase_timeline hgrants hconfig hcase hdirs hcopy hnew
  have htimes (k : Nat) (h : Config.seconds (w.now + k * request.statusInterval) ≤ lastSecond) :
      afterPauses request.statusInterval w.now k = w.now + k * request.statusInterval :=
    afterPauses_of_told h
  have hpolls (call : Call) (hcall : call.run? = some w.runs.length) (count : Nat) :
      History.about w.runs.length (⟨call, .granted⟩ :: polls w.runs.length count) =
        ⟨call, .granted⟩ :: polls w.runs.length count := by
    rw [History.about_cons, about_polls, if_pos hcall]
  have hgranted (call : Call) (count : Nat) :
      History.Granted (⟨call, .granted⟩ :: polls w.runs.length count) := by
    refine History.granted_cons.mpr ⟨rfl, fun record hmem => ?_⟩
    rw [List.eq_of_mem_replicate hmem]
  by_cases hcut : ∃ moment, Interrupts s request.statusInterval w.now n moment
  · obtain ⟨moment, hcut⟩ := hcut
    obtain ⟨k, hk, hbusy, hfrom, huntil⟩ := hcut.exists_pause hinterval hpatience
    rw [← hnow] at hfrom huntil
    obtain ⟨u₁, u₂, v, hwait, hshort, hat⟩ := hruns.isCutShort hgrants hinterval hfresh hcut.1
      hbusy hk hfrom huntil
    obtain ⟨w', houtcome, htimeline, hrestored, habout⟩ := hcomplete _ v
      (⟨.cancel w.runs.length, .granted⟩ :: polls w.runs.length (k + 1)) hwait
      (by rw [hshort.calls])
      (hgranted _ _) (hpolls _ rfl _)
    refine ⟨_, u, v, w', houtcome, htimeline, hrestored, fun other hother => ?_,
      fun hnone => absurd hcut (hnone moment), htimes⟩
    obtain rfl : moment = other := Option.some.inj (hcut.1.symm.trans hother.1)
    exact ⟨rfl, k, u₁, u₂, hshort, hnow ▸ hat, habout⟩
  · have hnone := not_exists.mp hcut
    obtain ⟨m, hm, hn, hlater⟩ := hpatience.finishes hinterval hnone
    rw [← hnow] at hlater
    obtain ⟨v, hwait, hcalls, hend⟩ := hruns.finishes hgrants hinterval hfresh hn hm hlater
    obtain ⟨w', houtcome, htimeline, hrestored, habout⟩ := hcomplete _ v
      (⟨.isPending w.runs.length, .granted⟩ :: polls w.runs.length (m + 1)) hwait hcalls
      (hgranted _ _) (hpolls _ rfl _)
    exact ⟨_, u, v, w', houtcome, htimeline, hrestored,
      fun moment h => absurd h (hnone moment), fun _ => ⟨rfl, m, hn, hnow ▸ hend, habout⟩, htimes⟩

end

/-- A tool that grants everything and says of each run at three polls that it is running, and a
user who interrupts. Each run writes a log into the report directory. -/
def busyTool (moment : Millis) : Surroundings :=
  { promptTool fun _ _ => .granted with
    running := fun history run => (history.about run).length < 3
    products := [⟨.report, "log", [7]⟩]
    interruptAt := some moment
    patience := 5 }

theorem busyTool_runsFor (moment : Millis) (run : Nat) :
    RunsFor (busyTool moment) run (some 3) where
  running history count h := by simp [busyTool, h, polls]
  notPending _ _ _ := rfl

/-- Of the artifacts, the log in the last of the directories is copied. -/
def keepLog : CopyBack Files.Tree := fun dirs =>
  FileAction.change (FileStore.copyFile ((dirs.getLastD "/").join "log") "/out/log")

/-- The outcome of the small case run with this tool, polled every ten milliseconds, and the log
copied. -/
def busyOutcome (moment : Millis) : Option (Except Failure Bool × World Files.Tree) :=
  (runCase keepLog ⟨0, none⟩ { smallRequest with statusInterval := 10 }).outcome
    (busyTool moment) smallWorld

/-- The directories of the small case run can be prepared. -/
theorem smallRequest_dirsPrepared : DirsPrepared smallWorld.files smallRequest "/d" "/r" := by
  have hends : (smallOutcome fun _ _ => .granted).map (·.1.toOption) = some (some true) := by
    decide +kernel
  obtain ⟨⟨r, w'⟩, h, hr⟩ := Option.map_eq_some_iff.mp hends
  rcases runCase_cases h with ⟨_, rfl, -⟩ | ⟨_, _, p, answer, rfl, -, hrun, hiff, -⟩
  · cases hr
  · -- It goes well, so they have been prepared, and under their absolute paths.
    cases hr
    obtain ⟨dataDir, reportDir, files₁, files₂, hdata, hreport⟩ :=
      (hrun.forward.complete.mp (hiff.mp rfl).1).1
    obtain rfl : "/d" = dataDir := Except.ok.inj hdata.absolute
    obtain rfl : "/r" = reportDir := Except.ok.inj hreport.absolute
    exact ⟨files₁, files₂, hdata, hreport⟩

/-- The small case run, polled every ten milliseconds. A user who interrupts in the second pause
has the run cancelled after two polls, and one who interrupts after the end of the run does
not. The log is copied in both cases. -/
theorem runCase_interrupted_small :
    (∃ w' before after, busyOutcome 15 = some (.ok false, w') ∧ w'.now = 15 ∧
      w'.calls.about 0 = ⟨.cancel 0, .granted⟩ :: polls 0 2 ∧
      Copied keepLog ["/d", "/r"] before after ∧ w'.files = after.files ∧
      w'.files.find? "/out/log" = some (.file [7])) ∧
    ∃ w' before after, busyOutcome 35 = some (.ok true, w') ∧ w'.now = 30 ∧
      w'.calls.about 0 = ⟨.isPending 0, .granted⟩ :: polls 0 4 ∧
      Copied keepLog ["/d", "/r"] before after ∧ w'.files = after.files ∧
      w'.files.find? "/out/log" = some (.file [7]) := by
  have hconfig : smallWorld.configNamed? ⟨0, none⟩ "EC" = some smallConfig := by decide
  have hcase : smallWorld.caseNamed? ⟨0, none⟩ "Brake" = some ⟨"Brake", "2"⟩ := by decide
  have hdirs : DirsPrepared smallWorld.files { smallRequest with statusInterval := 10 } "/d" "/r" :=
    smallRequest_dirsPrepared
  have hcopy (dirs : List FilePath) : (keepLog dirs).Ends := fun _ => rfl
  have hlog {moment : Millis} {r : Except Failure Bool} {w' : World Files.Tree}
      (hends : (busyOutcome moment).map (·.2.files.find? "/out/log") = some (some (.file [7])))
      (h : busyOutcome moment = some (r, w')) :
      w'.files.find? "/out/log" = some (.file [7]) := by
    rw [h] at hends
    exact Option.some.inj hends
  constructor
  · obtain ⟨r, u, v, w', h, htimeline, -, hcut, -, htimes⟩ :=
      runCase_interrupted (s := busyTool 15) (fun _ _ => rfl) hconfig hcase hdirs hcopy rfl
        (busyTool_runsFor 15 0) (by decide) ⟨3, by decide, .inl rfl⟩
    obtain ⟨hr, k, u₁, u₂, hshort, hat, habout⟩ := hcut 15 ⟨rfl, by decide, fun m hm => by
      obtain rfl : 3 = m := Option.some.inj hm
      rw [htimes 3 (by decide)]
      decide⟩
    -- The moment lies in the second pause, the one with the number 1.
    obtain rfl : k = 1 := by
      obtain ⟨hfrom, huntil⟩ := hshort.interruptedAt
      rw [hat, htimeline.startedAt] at hfrom huntil
      have hmono : StrictMono (afterPauses 10 0) := afterPauses_strictMono (by decide) 0
      have hone : afterPauses 10 0 1 = 10 := htimes 1 (by decide)
      have htwo : afterPauses 10 0 2 = 20 := htimes 2 (by decide)
      have hbefore : k < 2 :=
        hmono.lt_iff_lt.mp (Nat.lt_of_le_of_lt hfrom (by rw [htwo]; decide))
      have hafter : 1 < k + 1 :=
        hmono.lt_iff_lt.mp (Nat.lt_of_le_of_lt (by rw [hone]; decide) huntil)
      omega
    obtain ⟨_, before, after, _, _, -, hundone⟩ := htimeline.undone
    exact ⟨w', before, after, hr ▸ h, htimeline.undoneAt.trans (hshort.now.trans hat), habout,
      hundone.copied.1 rfl, hundone.filesFromCopy, hlog (by decide +kernel) h⟩
  · obtain ⟨r, u, v, w', h, htimeline, -, -, hend, htimes⟩ :=
      runCase_interrupted (s := busyTool 35) (fun _ _ => rfl) hconfig hcase hdirs hcopy rfl
        (busyTool_runsFor 35 0) (by decide) ⟨3, by decide, .inl rfl⟩
    obtain ⟨hr, m, hm, hlast, habout⟩ := hend fun moment h => by
      have hlt := h.2.2 3 rfl
      rw [htimes 3 (by decide), ← Option.some.inj h.1] at hlt
      exact absurd hlt (by decide)
    obtain rfl : 3 = m := Option.some.inj hm
    obtain ⟨_, before, after, _, _, -, hundone⟩ := htimeline.undone
    exact ⟨w', before, after, hr ▸ h, htimeline.undoneAt.trans (hlast.trans (htimes 3 (by decide))), habout,
      hundone.copied.1 rfl, hundone.filesFromCopy, hlog (by decide +kernel) h⟩

end CaseRunner.Isolation

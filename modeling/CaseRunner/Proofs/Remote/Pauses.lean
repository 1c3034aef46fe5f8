import CaseRunner.Proofs.Remote.Course
import CaseRunner.Proofs.Remote.Ending
import Mathlib.Order.Monotone.Basic

/-!
# `CaseRunner.Proofs.Remote.Pauses`: what a pause does, and how long several last

A pause makes no calls and changes nothing in the tool (`pause_course`). It lasts to its end
(`pause_lasts`) or is cut short by the user (`pause_cut`), and the time says which.

`afterPauses` is the moment after several pauses in a row. Each of them takes some time, so the
moments lie in the order of their numbers (`afterPauses_strictMono`), and every later time lies
in one of the pauses (`exists_pause`).
-/

set_option autoImplicit false

namespace CaseRunner.Remote

open CaseRunner.Config (Millis)
open CaseRunner.Remote.Action

variable {σ : Type} {s : Surroundings} {w w' : World σ} {interval start : Millis}
  {activity : String}

/-! ### What a pause does -/

/-- A report of the process changes nothing in the tool. -/
theorem takeReport_course (toJournal : Bool) (w : World σ) (report : Connection.DrainReport) :
    Course w [] (w.takeReport toJournal report) := by
  cases report with
  | line line =>
      simp only [World.takeReport]
      split
      · exact .of_eq rfl ⟨rfl, rfl, rfl⟩ rfl
      · exact .of_eq rfl ⟨rfl, rfl, rfl⟩ rfl
  | finished stream => exact .of_eq rfl ⟨rfl, rfl, rfl⟩ rfl

/-- Neither do several reports. -/
theorem foldl_takeReport_course (toJournal : Bool) (reports : List Connection.DrainReport)
    (w : World σ) : Course w [] (reports.foldl (World.takeReport toJournal) w) := by
  induction reports generalizing w with
  | nil => exact .refl w
  | cons report reports ih => exact (takeReport_course toJournal w report).trans (ih _)

/-- Time that passes changes nothing in the tool. -/
theorem advance_course (toJournal : Bool) (time : Millis) (w : World σ) :
    Course w [] (w.advance toJournal time) := by
  unfold World.advance
  split
  · exact .of_eq rfl ⟨rfl, rfl, rfl⟩ rfl
  · rename_i process _
    have hstart : Course w [] { w with now := time, process := some (process.advance time).2 } :=
      .of_eq rfl ⟨rfl, rfl, rfl⟩ rfl
    exact hstart.trans (foldl_takeReport_course toJournal (process.advance time).1 _)

/-- A pause makes no calls, and changes nothing in the tool. -/
theorem pause_course {r : Except Failure Unit}
    (h : (pause interval activity).outcome s w = some (r, w')) : Course w [] w' := by
  rcases pause_cases h with ⟨-, rfl, -⟩ | ⟨moment, w₁, -, -, ⟨-, rfl⟩ | ⟨-, rfl⟩, entry, rfl⟩
  · exact advance_course _ _ w
  · exact (Course.refl w₁).noted entry
  · exact (advance_course _ moment w).noted entry

/-! ### How long a pause lasts -/

/-- A moment that can be told is the one after the span. -/
theorem momentAfter_of_told (h : Config.seconds (start + interval) ≤ lastSecond) :
    momentAfter start interval = some (start + interval) := if_pos h

/-- A pause whose end can be told lasts for its interval. -/
theorem wakeAt_of_told (h : Config.seconds (start + interval) ≤ lastSecond) :
    wakeAt start interval = start + interval := by
  rw [wakeAt, momentAfter_of_told h, Option.getD_some]

/-- Each pause takes some time. -/
theorem lt_wakeAt (h : 0 < interval) (now : Millis) : now < wakeAt now interval :=
  calc now
    _ < now + min interval longPause := Nat.lt_add_of_pos_right (Nat.lt_min.mpr ⟨h, by decide⟩)
    _ ≤ wakeAt now interval := le_wakeAt now interval

/-- A pause lasts to its end if the user interrupts later, or never. -/
theorem pause_lasts (h : ∀ moment, s.interruptAt = some moment →
      w.now < moment ∧ wakeAt w.now interval ≤ moment) (activity : String) :
    ∃ w', (pause interval activity : Action σ Failure Unit).outcome s w = some (.ok (), w') ∧
      w'.now = wakeAt w.now interval := by
  obtain ⟨⟨r, w'⟩, hpause⟩ := Option.isSome_iff_exists.mp (pause_ends (s := s) interval activity w)
  refine ⟨w', ?_⟩
  rcases pause_cases hpause with ⟨rfl, rfl, -⟩ | ⟨moment, _, hat, -, hwhen, -⟩
  · exact ⟨hpause, advance_now _ _ w⟩
  · obtain ⟨hlater, hend⟩ := h moment hat
    rcases hwhen with ⟨hbefore, -⟩ | ⟨⟨-, hduring⟩, -⟩
    · exact absurd hlater (Nat.not_lt_of_le hbefore)
    · exact absurd hend (Nat.not_le_of_lt hduring)

/-- The user cuts a pause short who has interrupted before, or does so before its end. -/
theorem pause_cut {moment : Millis} (hat : s.interruptAt = some moment)
    (h : max moment w.now < wakeAt w.now interval) (activity : String) :
    ∃ w', (pause interval activity : Action σ Failure Unit).outcome s w =
        some (.error (.interrupted activity), w') ∧ w'.now = max moment w.now := by
  obtain ⟨⟨r, w'⟩, hpause⟩ := Option.isSome_iff_exists.mp (pause_ends (s := s) interval activity w)
  refine ⟨w', ?_⟩
  rcases pause_cases hpause with ⟨-, -, hlasts⟩ | ⟨other, w₁, hother, rfl, hwhen, entry, rfl⟩
  · exact absurd (hlasts moment hat).2 (Nat.not_le_of_lt (Nat.max_lt.mp h).1)
  · obtain rfl : moment = other := Option.some.inj (hat.symm.trans hother)
    refine ⟨hpause, ?_⟩
    rcases hwhen with ⟨hbefore, rfl⟩ | ⟨⟨hafter, -⟩, rfl⟩
    · exact (Nat.max_eq_right hbefore).symm
    · exact (advance_now _ moment w).trans (Nat.max_eq_left (Nat.le_of_lt hafter)).symm

/-! ### Several pauses -/

/-- The moment after so many pauses. -/
def afterPauses (interval start : Millis) : Nat → Millis
  | 0 => start
  | count + 1 => wakeAt (afterPauses interval start count) interval

/-- The first of the pauses is counted apart. -/
theorem afterPauses_wakeAt (count : Nat) :
    afterPauses interval (wakeAt start interval) count =
      afterPauses interval start (count + 1) := by
  induction count with
  | zero => rfl
  | succ count ih =>
      rw [afterPauses, ih]
      rfl

/-- If each of several pauses lasts for its interval, all of them last for the sum. -/
theorem afterPauses_of_lasting {count : Nat}
    (h : ∀ k < count, wakeAt (start + k * interval) interval = start + k * interval + interval) :
    afterPauses interval start count = start + count * interval := by
  induction count with
  | zero => simp [afterPauses]
  | succ count ih =>
      rw [afterPauses, ih fun k hk => h k (Nat.lt_succ_of_lt hk), h count (Nat.lt_succ_self count),
        Nat.succ_mul, Nat.add_assoc]

/-- Several pauses last for the sum if the end of the last one can be told. -/
theorem afterPauses_of_told {count : Nat}
    (h : Config.seconds (start + count * interval) ≤ lastSecond) :
    afterPauses interval start count = start + count * interval := by
  refine afterPauses_of_lasting fun k hk => wakeAt_of_told (Nat.le_trans ?_ h)
  rw [Nat.add_assoc, ← Nat.succ_mul]
  exact Nat.div_le_div_right (Nat.add_le_add_left (Nat.mul_le_mul_right _ hk) _)

/-- With each pause it is later. -/
theorem afterPauses_strictMono (h : 0 < interval) (start : Millis) :
    StrictMono (afterPauses interval start) :=
  strictMono_nat_of_lt_succ fun count => lt_wakeAt h (afterPauses interval start count)

/-- It is never earlier, even if they take no time. -/
theorem afterPauses_mono (interval start : Millis) : Monotone (afterPauses interval start) :=
  monotone_nat_of_le_succ fun count =>
    Nat.le_trans (Nat.le_add_right _ _) (le_wakeAt (afterPauses interval start count) interval)

/-- A time before the end of so many pauses lies in one of them. -/
theorem exists_pause {time : Millis} (hstart : start ≤ time) {count : Nat}
    (h : time < afterPauses interval start count) :
    ∃ k < count, afterPauses interval start k ≤ time ∧
      time < afterPauses interval start (k + 1) := by
  induction count with
  | zero => exact absurd hstart (Nat.not_le_of_lt h)
  | succ count ih =>
      by_cases hbefore : time < afterPauses interval start count
      · obtain ⟨k, hk, hin⟩ := ih hbefore
        exact ⟨k, Nat.lt_succ_of_lt hk, hin⟩
      · exact ⟨count, Nat.lt_succ_self count, Nat.le_of_not_lt hbefore, h⟩

end CaseRunner.Remote

import CaseRunner.Proofs.Isolation.Ending
import CaseRunner.Proofs.Isolation.Finding
import CaseRunner.Proofs.Isolation.FreshName

/-!
# `CaseRunner.Proofs.Isolation.Counting`: counting up to a free name

To find a name for a test set it is enough to count with 32 bits. `Counting` goes on from one
number to the next as long as the base with the number is taken, and it says so if the next number
needs more bits. It passes the candidates one after the other (`Sound`), and different ones, so it
is over after as many rounds as there are taken names.

* `sound_run`: what is known of the candidates after a number of rounds.
* `overflows_iff`: counting runs out of numbers if and only if the base and all its numbered
  candidates of 32 bits are taken, which are 2³² - 1 names.
* `freeName_least`: with fewer names than that, counting ends at the free name that is given for a
  test set, and that is the base or has the least number.
-/

set_option autoImplicit false

namespace CaseRunner.Isolation

open CaseRunner.Remote
open CaseRunner.Remote.Action

/-- How far counting up to a free name has come. -/
inductive Counting where
  /-- The base with this number is tried next. -/
  | trying (number : UInt32)
  /-- A free name has been found. -/
  | found (name : String)
  /-- The next number needs more than 32 bits. -/
  | overflow
  deriving DecidableEq, Repr

namespace Counting

/-- The base is tried without a number, and counting begins at two. -/
def start (taken : List String) (base : String) : Counting :=
  if base ∈ taken then .trying 2 else .found base

/-- One name is tried. -/
def step (taken : List String) (base : String) : Counting → Counting
  | .trying number =>
    if s!"{base} {number}" ∈ taken then
      if number.toNat + 1 < UInt32.size then .trying (number + 1) else .overflow
    else .found s!"{base} {number}"
  | .found name => .found name
  | .overflow => .overflow

/-- Counting for a number of rounds. -/
def run (taken : List String) (base : String) : Nat → Counting
  | 0 => start taken base
  | rounds + 1 => step taken base (run taken base rounds)

variable {taken : List String} {base : String} {rounds : Nat}

/-- What is known of the candidates when counting has come this far. -/
def Sound (taken : List String) (base : String) (rounds : Nat) : Counting → Prop
  | .trying number => number.toNat = rounds + 2 ∧ ∀ i ≤ rounds, candidate base i ∈ taken
  | .found name => ∃ n, n + 1 < UInt32.size ∧ name = candidate base n ∧ candidate base n ∉ taken ∧
      ∀ i < n, candidate base i ∈ taken
  | .overflow => ∀ i, i + 1 < UInt32.size → candidate base i ∈ taken

theorem sound_start (taken : List String) (base : String) :
    (start taken base).Sound taken base 0 := by
  unfold start
  split
  · rename_i htaken
    refine ⟨rfl, fun i hi => ?_⟩
    rw [Nat.le_zero.mp hi]
    exact htaken
  · rename_i hfree
    exact ⟨0, by decide, rfl, hfree, nofun⟩

theorem Sound.step {counting : Counting} (h : counting.Sound taken base rounds) :
    (counting.step taken base).Sound taken base (rounds + 1) := by
  cases counting with
  | found name => exact h
  | overflow => exact h
  | trying number =>
      obtain ⟨hnumber, hbefore⟩ := h
      have hsize := number.toNat_lt
      have hname : s!"{base} {number}" = candidate base (rounds + 1) := by
        show s!"{base} {number.toNat}" = _
        rw [candidate, if_neg (Nat.succ_ne_zero rounds), hnumber]
      rw [Counting.step, hname]
      split
      · rename_i htaken
        have htried : ∀ i ≤ rounds + 1, candidate base i ∈ taken := by
          intro i hi
          rcases Nat.le_succ_iff.mp hi with hi | rfl
          · exact hbefore i hi
          · exact htaken
        split
        · rename_i hfits
          refine ⟨?_, htried⟩
          rw [UInt32.toNat_add, UInt32.toNat_one, Nat.mod_eq_of_lt hfits, hnumber]
        -- The number was the last one, so all candidates with a number have been tried.
        · rename_i hlast
          intro i hi
          exact htried i (by omega)
      · rename_i hfree
        exact ⟨rounds + 1, hnumber ▸ hsize, rfl, hfree, fun i hi => hbefore i (by omega)⟩

theorem sound_run (taken : List String) (base : String) (rounds : Nat) :
    (run taken base rounds).Sound taken base rounds := by
  induction rounds with
  | zero => exact sound_start taken base
  | succ rounds ih => exact ih.step

/-- There are no more rounds with a name to try than there are names that are taken. -/
theorem run_ne_trying (h : taken.toFinset.card ≤ rounds) (number : UInt32) :
    run taken base rounds ≠ .trying number := by
  intro htrying
  have hsound := sound_run taken base rounds
  rw [htrying] at hsound
  have hcount : rounds + 1 ≤ taken.toFinset.card :=
    le_card_of_taken fun i hi => hsound.2 i (by omega)
  omega

/-- What counting has found is the name that is given for a test set. -/
theorem eq_freeName_of_run {name : String} (h : run taken base rounds = .found name) :
    name = freeName taken base := by
  have hsound := sound_run taken base rounds
  rw [h] at hsound
  obtain ⟨n, -, rfl, hfree, hbefore⟩ := hsound
  obtain ⟨m, hm, hfree', hbefore'⟩ := freeName_spec taken base
  rw [hm]
  rcases Nat.lt_trichotomy n m with hlt | rfl | hlt
  · exact absurd (hbefore' n hlt) hfree
  · rfl
  · exact absurd (hbefore m hlt) hfree'

/-- Counting runs out of numbers if and only if all candidates are taken that it can come to. -/
theorem overflows_iff : (∃ rounds, run taken base rounds = .overflow) ↔
    ∀ i, i + 1 < UInt32.size → candidate base i ∈ taken := by
  constructor
  · rintro ⟨rounds, h⟩
    have hsound := sound_run taken base rounds
    rwa [h] at hsound
  -- After as many rounds as there are names nothing is tried any more, and nothing is free.
  · intro hall
    refine ⟨taken.toFinset.card, ?_⟩
    cases hrun : run taken base taken.toFinset.card with
    | trying number => exact absurd hrun (run_ne_trying (Nat.le_refl _) number)
    | overflow => rfl
    | found name =>
        have hsound := sound_run taken base taken.toFinset.card
        rw [hrun] at hsound
        obtain ⟨n, hn, -, hfree, -⟩ := hsound
        exact absurd (hall n hn) hfree

end Counting

/-- For a list of at most 2³² - 2 different names, counting with 32 bits does not run out of
numbers, and it ends, after no more rounds than there are names, at the name that is given for a
test set. This is the name that a project with these test sets gets, if the tool answers. It is not
in the list: it is the base if that is not, and otherwise the base with the least number from two on
for which that is so. -/
theorem freeName_least (taken : List String) (base : String)
    (hfew : taken.toFinset.card ≤ UInt32.size - 2) :
    (∀ rounds, Counting.run taken base rounds ≠ .overflow) ∧
    (∀ rounds, taken.toFinset.card ≤ rounds →
      Counting.run taken base rounds = .found (freeName taken base)) ∧
    (∀ {σ : Type} (s : Surroundings) (w : World σ) (project : ProjectRef),
      w.takenNames project = taken →
      ∃ r w' made, (uniqueTestSetName project base).outcome s w = some (r, w') ∧ Asks w made w' ∧
        (r = .ok (freeName taken base) ∧ made.Granted ∨
          (∃ fault, r = .error fault) ∧ ¬made.Granted)) ∧
    freeName taken base ∉ taken ∧
    (base ∉ taken → freeName taken base = base) ∧
    (base ∈ taken → ∃ n, 2 ≤ n ∧ n < UInt32.size ∧ freeName taken base = s!"{base} {n}" ∧
      ∀ m, 2 ≤ m → m < n → s!"{base} {m}" ∈ taken) := by
  have hsize : UInt32.size = 4294967296 := rfl
  have hnever (rounds : Nat) : Counting.run taken base rounds ≠ .overflow := by
    intro hoverflow
    have hall := Counting.overflows_iff.mp ⟨rounds, hoverflow⟩
    -- These would be more names than the list has.
    have hcount : UInt32.size - 1 ≤ taken.toFinset.card :=
      le_card_of_taken fun i hi => hall i (by omega)
    omega
  obtain ⟨index, hname, hfree, hbefore⟩ := freeName_spec taken base
  refine ⟨hnever, fun rounds hrounds => ?_, fun s w project htaken => ?_,
    freeName_not_mem taken base, fun hbase => ?_, fun hbase => ?_⟩
  · cases hrun : Counting.run taken base rounds with
    | trying number => exact absurd hrun (Counting.run_ne_trying hrounds number)
    | overflow => exact absurd hrun (hnever rounds)
    | found name => rw [Counting.eq_freeName_of_run hrun]
  · obtain ⟨⟨r, w'⟩, houtcome⟩ :=
      Option.isSome_iff_exists.mp ((uniqueTestSetName_prompt project base).ends w)
    obtain ⟨made, hasks, hend⟩ :=
      (uniqueTestSetName_answers w project base).cases (.refl w) houtcome
    rw [htaken] at hend
    exact ⟨r, w', made, houtcome, hasks, hend⟩
  · have hzero : index = 0 := by
      by_contra hne
      exact hbase (hbefore 0 (Nat.pos_of_ne_zero hne))
    rw [hname, hzero]
    rfl
  -- The candidates are numbered from zero on, the one after the base has the number two.
  · have hne : index ≠ 0 := by
      rintro rfl
      exact hfree hbase
    have hcount := le_card_of_taken hbefore
    refine ⟨index + 1, by omega, by omega, ?_, fun m hlow hhigh => ?_⟩
    · rw [hname, candidate, if_neg hne]
    · have hcandidate := hbefore (m - 1) (by omega)
      rwa [candidate, if_neg (by omega), Nat.sub_add_cancel (by omega)] at hcandidate

/-- Names that look like the next candidate do not count, and neither do names behind the gap. -/
theorem freeName_least_lookalikes :
    (["T", "T 2", "T 02", "T 4", "T 2", "T  3"] : List String).toFinset.card ≤ UInt32.size - 2 ∧
      Counting.run ["T", "T 2", "T 02", "T 4", "T 2", "T  3"] "T" 5 = .found "T 3" := by
  have hcard : (["T", "T 2", "T 02", "T 4", "T 2", "T  3"] : List String).toFinset.card = 5 := by
    decide
  have hfew : (["T", "T 2", "T 02", "T 4", "T 2", "T  3"] : List String).toFinset.card ≤
      UInt32.size - 2 := by
    rw [hcard]
    decide
  obtain ⟨-, hends, -⟩ := freeName_least _ "T" hfew
  exact ⟨hfew, hends 5 hcard.le⟩

end CaseRunner.Isolation

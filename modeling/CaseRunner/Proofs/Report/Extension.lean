import CaseRunner.Proofs.Report.Tree
import CaseRunner.Proofs.Report.Truncation

/-!
# `CaseRunner.Proofs.Report.Extension`: result artifacts that are still being written

An artifact that is read while the tool writes it may be accepted before it is complete. What is
read of it then is never wrong, only less: once more has been written, the same entries and
assessments stand at the beginning of the result, and all else in it is as before
(`parse_append`).

The front part of a document is read as events of the whole one, except that character data at
its end may go on (`readFrom_append`). Character data alone records nothing, and after the one
root element every event leaves the result as it is or adds at its end (`grows_of_step`).

With a second root element the result begins anew, and what has been read is lost
(`parse_append_restarts`).
-/

set_option autoImplicit false

namespace CaseRunner.Markup

variable {size total : Nat} {names : List Bytes} {front : Bytes}

/-- If bytes are read without a fault, all events but the last are also read first if more
follows. The last one may be character data, which then goes on. -/
theorem readFrom_append (h : (readFrom size names front).fault = none) (total : Nat)
    (rest : Bytes) :
    ∃ common last, (readFrom size names front).events = common ++ last ∧
      (last = [] ∨ ∃ raw, last = [.text raw]) ∧
      common <+: (readFrom total names (front ++ rest)).events := by
  fun_induction readFrom size names front with
  | case1 names front hscan => exact ⟨[], [], rfl, .inl rfl, List.nil_prefix⟩
  | case2 names front fault left hscan => cases h
  | case3 names front token left hscan fault hevent => cases h
  | case4 names front token left hscan event names' hevent ih =>
      by_cases hends : (∀ raw, token ≠ .text raw) ∨ left ≠ []
      · obtain ⟨common, last, hevents, hlast, hcommon⟩ := ih h
        refine ⟨event.toList ++ common, last, ?_, hlast, ?_⟩
        · rw [Reading.after, hevents, List.append_assoc]
        · rw [readFrom_token (scan_extend hscan hends rest) hevent]
          exact (List.prefix_append_right_inj _).mpr hcommon
      -- Character data at the end is the last event.
      · simp only [ne_eq, not_or, not_forall, Classical.not_not] at hends
        obtain ⟨⟨raw, rfl⟩, rfl⟩ := hends
        cases hevent
        refine ⟨[], [.text raw], ?_, .inr ⟨raw, rfl⟩, List.nil_prefix⟩
        rw [readFrom_nil]
        rfl

end CaseRunner.Markup

namespace CaseRunner.Report

open CaseRunner.Markup (Event Tag codes read sameIgnoringCase withoutMark)

variable {front rest document : Bytes} {r early late : CaseResult}

instance : DecidablePred OpensRoot := fun event =>
  match event with
  | .opening tag =>
    decidable_of_iff (sameIgnoringCase tag.name (codes rootName) = true) (by simp [OpensRoot])
  | .empty tag =>
    decidable_of_iff (sameIgnoringCase tag.name (codes rootName) = true) (by simp [OpensRoot])
  | .closing _ => isFalse (by simp [OpensRoot])
  | .text _ => isFalse (by simp [OpensRoot])
  | .cdata _ => isFalse (by simp [OpensRoot])

namespace Collector

variable {c d : Collector} {event : Event} {events : List Event}

/-- The collector has the result, with more entries and assessments at its end. -/
def HasGrown (r : CaseResult) (c : Collector) : Prop :=
  ∃ entries assessments, c.result = some (r.adding entries assessments)

theorem hasGrown_of_result (h : c.result = some r) : c.HasGrown r :=
  ⟨[], [], by rw [h, CaseResult.adding_nil]⟩

/-- What has grown from what has grown. -/
theorem HasGrown.trans (h : c.HasGrown r) (hnext : ∀ s, c.result = some s → d.HasGrown s) :
    d.HasGrown r := by
  obtain ⟨entries, assessments, hresult⟩ := h
  obtain ⟨more, others, hlater⟩ := hnext _ hresult
  exact ⟨entries ++ more, assessments ++ others, by rw [hlater, CaseResult.adding_adding]⟩

theorem grows_of_closeElement (h : c.result = some r) (name : Bytes) :
    (c.closeElement name).HasGrown r := by
  rw [closeElement_eq]
  cases kindOfBytes name with
  | entry =>
      show c.closeEntry.HasGrown r
      unfold closeEntry
      rcases c.entry with _ | ⟨_ | level, text⟩
      · exact hasGrown_of_result h
      · exact hasGrown_of_result h
      · rw [h]
        exact ⟨[⟨level, text⟩], [], by simp [CaseResult.adding, Log.push]⟩
  | assessment =>
      show c.closeAssessment.HasGrown r
      unfold closeAssessment
      rw [h]
      cases c.assessment with
      | none => exact hasGrown_of_result rfl
      | some assessment => exact ⟨[], [assessment], by simp [CaseResult.adding]⟩
  | root | other => exact hasGrown_of_result h

/-- Every event but the beginning of a root element leaves the result or adds at its end. -/
theorem grows_of_step (h : c.step event = .ok d) (hroot : ¬OpensRoot event)
    (hresult : c.result = some r) : d.HasGrown r := by
  cases event with
  | opening tag =>
      obtain ⟨attributes, -, hopen⟩ := ok_of_bind h
      have hsame := result_openElement hopen fun hname => hroot ⟨tag, hname, .inl rfl⟩
      exact hasGrown_of_result (hsame.trans hresult)
  | empty tag =>
      obtain ⟨attributes, -, hafter⟩ := ok_of_bind h
      obtain ⟨opened, hopen, hclose⟩ := ok_of_bind hafter
      cases hclose
      have hsame := result_openElement hopen fun hname => hroot ⟨tag, hname, .inr rfl⟩
      exact grows_of_closeElement (hsame.trans hresult) tag.name
  | closing name =>
      cases h
      exact grows_of_closeElement hresult name
  | text raw =>
      obtain ⟨text, -, htext⟩ := ok_of_bind h
      cases htext
      exact hasGrown_of_result hresult
  | cdata raw =>
      cases h
      exact hasGrown_of_result hresult

/-- A run that meets no root element leaves the result or adds at its end. -/
theorem grows_of_run (h : c.run events = (d, none)) (hroot : ∀ event ∈ events, ¬OpensRoot event)
    (hresult : c.result = some r) : d.HasGrown r := by
  induction events generalizing c r with
  | nil =>
      cases h
      exact hasGrown_of_result hresult
  | cons event events ih =>
      obtain ⟨next, hstep, hrest⟩ := ok_of_run_cons h
      have hnext := grows_of_step hstep (hroot event List.mem_cons_self) hresult
      exact hnext.trans fun s hs => ih hrest (fun e he => hroot e (List.mem_cons_of_mem _ he)) hs

/-- Character data alone records nothing. -/
theorem result_of_text (h : c.run events = (d, none))
    (hlast : events = [] ∨ ∃ raw, events = [.text raw]) : d.result = c.result := by
  obtain rfl | ⟨raw, rfl⟩ := hlast
  · cases h
    rfl
  · obtain ⟨next, hstep, hrest⟩ := ok_of_run_cons h
    obtain ⟨text, -, htext⟩ := ok_of_bind hstep
    cases htext
    cases hrest
    rfl

end Collector

/-! ### Accepted documents -/

/-- Nothing in the early result is wrong, and its entries and assessments are the first ones of
the late result, in the same order. -/
structure CaseResult.IsBeginningOf (early late : CaseResult) : Prop where
  name : early.name = late.name
  id : early.id = late.id
  duration : early.duration = late.duration
  outcome : early.outcome = late.outcome
  executedAt : early.executedAt = late.executedAt
  origin : early.configuration = late.configuration ∧ early.platform = late.platform
  entries : early.log.entries <+: late.log.entries
  assessments : early.assessments <+: late.assessments

theorem CaseResult.isBeginningOf_adding (r : CaseResult) (entries : List LogEntry)
    (assessments : List Assessment) : r.IsBeginningOf (r.adding entries assessments) where
  name := rfl
  id := rfl
  duration := rfl
  outcome := rfl
  executedAt := rfl
  origin := ⟨rfl, rfl⟩
  entries := List.prefix_append _ _
  assessments := List.prefix_append _ _

/-- If a document with one root element is accepted, and its front part alone is too, then what
is read of the front part is the beginning of what is read of the whole document. -/
theorem parse_append (hfront : parse front = .ok early)
    (hwhole : parse (front ++ rest) = .ok late)
    (hroot : (read (front ++ rest)).events.countP (OpensRoot ·) = 1) :
    early.IsBeginningOf late := by
  obtain ⟨hfault, c, hrun, hearly⟩ := run_of_parse hfront
  obtain ⟨-, d, hrunWhole, hlate⟩ := run_of_parse hwhole
  obtain ⟨common, last, hevents, hlast, more, hmore⟩ :=
    Markup.readFrom_append hfault (withoutMark (front ++ rest)).length rest
  have hreadFront : (read front).events = common ++ last := hevents
  have hreadWhole : (read (front ++ rest)).events = common ++ more := by
    rw [hmore, ← withoutMark_append hfront rest]
    rfl
  rw [hreadFront] at hrun
  rw [hreadWhole] at hrunWhole hroot
  -- The result of the front part is there after the common events, so the root element is in
  -- them and not in the others.
  obtain ⟨m, hcommon, hrunLast⟩ := Collector.ok_of_run_append hrun
  have hresult : m.result = some early := by
    rw [← hearly, Collector.result_of_text hrunLast hlast]
  have hcount : 0 < common.countP (OpensRoot ·) := by
    obtain ⟨event, hmem, hopens⟩ :=
      Collector.opensRoot_of_run hcommon rfl (by rw [hresult]; exact Option.some_ne_none _)
    exact List.countP_pos_iff.mpr ⟨event, hmem, decide_eq_true hopens⟩
  have hnone : ∀ event ∈ more, ¬OpensRoot event := by
    rw [List.countP_append] at hroot
    intro event hmem hopens
    have hzero : more.countP (OpensRoot ·) = 0 := by omega
    exact List.countP_eq_zero.mp hzero event hmem (decide_eq_true hopens)
  rw [Collector.run_append hcommon] at hrunWhole
  obtain ⟨entries, assessments, hgrown⟩ := Collector.grows_of_run hrunWhole hnone hresult
  obtain rfl : late = early.adding entries assessments :=
    Option.some.inj (hlate.symm.trans hgrown)
  exact early.isBeginningOf_adding entries assessments

/-- An artifact as far as the middle of its second log entry. -/
def unfinished : Bytes :=
  codes "<TestcaseInformation ScenarioId=\"1\"><Log Type=\"Error\">a</Log><Log>b"

/-- The rest of it. -/
def remainder : Bytes := codes "c</Log></TestcaseInformation>"

/-- The second entry is missing at first, and is not cut short. -/
theorem parse_append_unfinished :
    ∃ early late, parse unfinished = .ok early ∧ parse (unfinished ++ remainder) = .ok late ∧
      early.IsBeginningOf late ∧ early.log.entries = [⟨.error, "a"⟩] ∧
      late.log.entries = [⟨.error, "a"⟩, ⟨.all, "bc"⟩] := by
  have hroot : (read (unfinished ++ remainder)).events.countP (OpensRoot ·) = 1 := by
    decide +kernel
  have hearly : ((parse unfinished).toOption.map (·.log.entries)) = some [⟨.error, "a"⟩] := by
    decide +kernel
  have hlate : ((parse (unfinished ++ remainder)).toOption.map (·.log.entries)) =
      some [⟨.error, "a"⟩, ⟨.all, "bc"⟩] := by
    decide +kernel
  cases hfront : parse unfinished with
  | error fault =>
      rw [hfront] at hearly
      cases hearly
  | ok early =>
      cases hwhole : parse (unfinished ++ remainder) with
      | error fault =>
          rw [hwhole] at hlate
          cases hlate
      | ok late =>
          rw [hfront] at hearly
          rw [hwhole] at hlate
          exact ⟨early, late, rfl, rfl, parse_append hfront hwhole hroot,
            Option.some.inj hearly, Option.some.inj hlate⟩

/-- A second root element ends what has been read so far. -/
theorem parse_append_restarts :
    readTexts firstHalf = some ["a"] ∧
      readTexts (firstHalf ++ codes "<TestcaseInformation ScenarioId=\"2\"/>") = some [] := by
  constructor <;> decide +kernel

end CaseRunner.Report

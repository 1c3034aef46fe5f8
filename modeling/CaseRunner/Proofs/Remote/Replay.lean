import CaseRunner.Remote.World

/-!
# `CaseRunner.Proofs.Remote.Replay`: what the tool holds, told from the calls

The projects, the test sets and the runs change through calls alone. So what the tool
holds after some calls can be told from what it held before and from the calls that were
granted: `World.obey` carries out one call, `World.replay` a whole history of them.

* `replay_append`: a history is replayed piece by piece.
* `SameTool.replay`: the replay depends on nothing but what the tool holds.
-/

set_option autoImplicit false

namespace CaseRunner.Remote

/-! ### Calls that ask for a change -/

/-- Whether the call asks the tool to change something. -/
def Call.mutates : Call → Bool
  | .openProject _ | .run _ | .createTestSet .. | .deleteTestSet .. | .close _
  | .setDataDir .. | .setReportDir .. | .setTestSet .. | .addTestCase .. | .cancel _ => true
  | _ => false

/-- All calls were granted. -/
def History.Granted (history : History) : Prop := ∀ record ∈ history, record.verdict = .granted

/-- No call asked for a change. -/
def History.Quiet (history : History) : Prop :=
  ∀ record ∈ history, record.call.mutates = false

/-- The calls that asked for a change, in the order they were made. -/
def History.mutations (history : History) : List CallRecord :=
  (history.filter (·.call.mutates)).reverse

/-- The changes that were asked for, in order, without what became of them. -/
def History.changes (history : History) : List Call := history.mutations.map (·.call)

/-- All calls, in the order they were made, without what became of them. -/
def History.sequence (history : History) : List Call := history.reverse.map (·.call)

namespace History

@[simp] theorem granted_nil : Granted [] := by simp [Granted]

theorem granted_cons {record : CallRecord} {history : History} :
    Granted (record :: history) ↔ record.verdict = .granted ∧ history.Granted := by
  simp [Granted]

theorem granted_append {later earlier : History} :
    Granted (later ++ earlier) ↔ later.Granted ∧ earlier.Granted := by
  simp only [Granted, List.mem_append]
  exact ⟨fun h => ⟨fun r hr => h r (.inl hr), fun r hr => h r (.inr hr)⟩,
    fun h r hr => hr.elim (h.1 r) (h.2 r)⟩

@[simp] theorem quiet_nil : Quiet [] := by simp [Quiet]

theorem quiet_append {later earlier : History} :
    Quiet (later ++ earlier) ↔ later.Quiet ∧ earlier.Quiet := by
  simp only [Quiet, List.mem_append]
  exact ⟨fun h => ⟨fun r hr => h r (.inl hr), fun r hr => h r (.inr hr)⟩,
    fun h r hr => hr.elim (h.1 r) (h.2 r)⟩

/-- No change is in a quiet history. -/
theorem Quiet.not_mem {history : History} (h : history.Quiet) {record : CallRecord}
    (hcall : record.call.mutates = true) : record ∉ history := by
  intro hr
  rw [h record hr] at hcall
  cases hcall

@[simp] theorem mutations_nil : mutations [] = [] := rfl

/-- The later changes come after the earlier ones. -/
@[simp] theorem mutations_append (later earlier : History) :
    mutations (later ++ earlier) = earlier.mutations ++ later.mutations := by
  simp [mutations, List.filter_append]

/-- A quiet history has no changes. -/
theorem mutations_of_quiet {history : History} (h : history.Quiet) : history.mutations = [] := by
  rw [mutations, List.reverse_eq_nil_iff, List.filter_eq_nil_iff]
  intro record hr
  simp [h record hr]

/-- The later calls come after the earlier ones. -/
@[simp] theorem sequence_append (later earlier : History) :
    sequence (later ++ earlier) = earlier.sequence ++ later.sequence := by
  simp [sequence]

/-- A call is in the sequence if there is a record of it. -/
theorem mem_sequence {history : History} {call : Call} :
    call ∈ history.sequence ↔ ∃ v, ⟨call, v⟩ ∈ history := by
  simp only [sequence, List.mem_map, List.mem_reverse]
  constructor
  · rintro ⟨⟨_, v⟩, hr, rfl⟩
    exact ⟨v, hr⟩
  · rintro ⟨v, hr⟩
    exact ⟨_, hr, rfl⟩

/-- The call at the end of a sequence is the newest one. -/
theorem exists_cons_of_sequence {history : History} {calls : List Call} {last : Call}
    (h : history.sequence = calls ++ [last]) : ∃ v earlier, history = ⟨last, v⟩ :: earlier := by
  cases history with
  | nil => exact absurd h.symm (List.concat_ne_nil _ _)
  | cons record earlier =>
      rw [← List.singleton_append, sequence_append] at h
      obtain ⟨-, hlast⟩ := List.append_inj' h rfl
      exact ⟨record.verdict, earlier, by rw [← List.singleton_inj.mp hlast]⟩

/-- A history of two calls. -/
theorem eq_of_sequence_pair {history : History} {first second : Call}
    (h : history.sequence = [first, second]) :
    ∃ v₁ v₂, history = [⟨second, v₂⟩, ⟨first, v₁⟩] := by
  rw [sequence, List.map_eq_cons_iff] at h
  obtain ⟨⟨_, v₁⟩, rest, hreverse, rfl, hrest⟩ := h
  obtain ⟨⟨_, v₂⟩, rfl, rfl⟩ := List.map_eq_singleton_iff.mp hrest
  exact ⟨v₁, v₂, by simpa using congrArg List.reverse hreverse⟩

/-- A record of a change is among the changes. -/
theorem mem_mutations {history : History} {record : CallRecord} :
    record ∈ history.mutations ↔ record ∈ history ∧ record.call.mutates = true := by
  simp [mutations, List.mem_filter]

@[simp] theorem changes_nil : changes [] = [] := rfl

/-- The later changes come after the earlier ones. -/
@[simp] theorem changes_append (later earlier : History) :
    changes (later ++ earlier) = earlier.changes ++ later.changes := by
  simp [changes]

/-- A quiet history has no changes. -/
theorem changes_of_quiet {history : History} (h : history.Quiet) : history.changes = [] := by
  rw [changes, mutations_of_quiet h, List.map_nil]

/-- The changes are the calls that ask for one. -/
theorem changes_eq_filter (history : History) :
    history.changes = history.sequence.filter (·.mutates) := by
  rw [changes, mutations, sequence, ← List.filter_reverse, List.filter_map]
  rfl

/-- Calls that all ask for a change are the changes. -/
theorem changes_of_all {history : History} (h : ∀ call ∈ history.sequence, call.mutates = true) :
    history.changes = history.sequence := by
  rw [changes_eq_filter, List.filter_eq_self.mpr h]

/-- A change after a quiet history is the only one. -/
theorem changes_cons_of_quiet {asked : History} (h : asked.Quiet) {record : CallRecord}
    (hcall : record.call.mutates = true) : History.changes (record :: asked) = [record.call] := by
  have hone : changes [record] = [record.call] :=
    (changes_eq_filter [record]).trans (List.filter_cons_of_pos hcall)
  rw [← List.singleton_append, changes_append, changes_of_quiet h, hone, List.nil_append]

/-- A call that asked for a change is one of the changes. -/
theorem mem_changes {history : History} {record : CallRecord} (hr : record ∈ history)
    (hcall : record.call.mutates = true) : record.call ∈ history.changes :=
  List.mem_map_of_mem (mem_mutations.mpr ⟨hr, hcall⟩)

/-- A change was asked for by a call. -/
theorem exists_of_mem_changes {history : History} {call : Call} (h : call ∈ history.changes) :
    ∃ v, ⟨call, v⟩ ∈ history ∧ call.mutates = true := by
  obtain ⟨⟨_, v⟩, hr, rfl⟩ := List.mem_map.mp h
  exact ⟨v, mem_mutations.mp hr⟩

end History

/-! ### Carrying out calls -/

namespace World

variable {σ : Type}

/-- The world after the tool has carried out a call. -/
def obey (w : World σ) : Call → World σ
  | .run config => { w with runs := w.runs ++ [w.runRecord config] }
  | .createTestSet p name =>
    { w.updateProject p.number fun project =>
        { project with
          testSets := project.testSets ++ [⟨w.contents.length, name⟩]
          created := project.created ++ [⟨w.contents.length, name⟩] } with
      contents := w.contents ++ [[]] }
  | .deleteTestSet p set =>
    w.updateProject p.number fun project =>
      { project with
        testSets := project.testSets.filter fun s => s.name ≠ set.name
        deleted := project.deleted ++ [set.name] }
  | .close p => w.updateProject p.number fun project => { project with closed := true }
  | .setDataDir config path =>
    w.updateConfiguration config fun c => { c with dataDir := path }
  | .setReportDir config path =>
    w.updateConfiguration config fun c => { c with reportDir := path }
  | .setTestSet item set =>
    w.updateConfiguration item.config fun c => { c with items := c.items.set item.index set }
  | .addTestCase set testCase =>
    { w with contents := w.contents.modify set.number fun cases => cases ++ [testCase] }
  | _ => w

/-- Carrying out a call makes no note of it, and has no part in the files and the copies. -/
theorem obey_rest (w : World σ) (call : Call) :
    (w.obey call).calls = w.calls ∧ (w.obey call).copies = w.copies ∧
      (w.obey call).files = w.files := by
  cases call <;> exact ⟨rfl, rfl, rfl⟩

/-- The world after the tool has carried out the calls of a history that were granted. -/
def replay (w : World σ) : History → World σ
  | [] => w
  | record :: earlier =>
    if record.verdict = .granted then (w.replay earlier).obey record.call else w.replay earlier

@[simp] theorem replay_nil (w : World σ) : w.replay [] = w := rfl

theorem replay_granted (w : World σ) (call : Call) (earlier : History) :
    w.replay (⟨call, .granted⟩ :: earlier) = (w.replay earlier).obey call := by
  simp [replay]

theorem replay_of_not_granted (w : World σ) (record : CallRecord) (earlier : History)
    (h : record.verdict ≠ .granted) : w.replay (record :: earlier) = w.replay earlier := by
  simp [replay, h]

/-- A history is replayed piece by piece, the earlier one first. -/
theorem replay_append (w : World σ) (later earlier : History) :
    w.replay (later ++ earlier) = (w.replay earlier).replay later := by
  induction later with
  | nil => rfl
  | cons record later ih => simp only [List.cons_append, replay, ih]

/-- A call that asks for no change leaves the world as it is. -/
theorem obey_of_not_mutates (w : World σ) {call : Call} (h : call.mutates = false) :
    w.obey call = w := by
  cases call <;> first | rfl | simp [Call.mutates] at h

/-- Only the changes count in a replay. -/
theorem replay_eq_mutations (w : World σ) (history : History) :
    w.replay history = w.replay history.mutations.reverse := by
  rw [History.mutations, List.reverse_reverse]
  induction history with
  | nil => rfl
  | cons record history ih =>
      by_cases hm : record.call.mutates = true
      · simp only [List.filter_cons, hm, if_true, replay, ih]
      -- A question is left out on the right, and carried out without effect on the left.
      · have hobey := (w.replay history).obey_of_not_mutates (by simpa using hm)
        simp only [List.filter_cons, hm, replay, hobey, ite_self]
        exact ih

/-- A quiet history is replayed without a change. -/
theorem replay_of_quiet (w : World σ) {history : History} (h : history.Quiet) :
    w.replay history = w := by
  rw [replay_eq_mutations, History.mutations_of_quiet h]
  rfl

/-- A history in which all was granted is replayed by carrying out its changes in order. -/
theorem replay_of_granted (w : World σ) {history : History} (h : history.Granted) :
    w.replay history = history.changes.foldl obey w := by
  induction history with
  | nil => rfl
  | cons record history ih =>
      obtain ⟨hrecord, hrest⟩ := History.granted_cons.mp h
      -- The last call heads the history, and so it is carried out on top of the others.
      rw [← List.singleton_append, History.changes_append, List.foldl_append, ← ih hrest]
      by_cases hm : record.call.mutates = true
      · simp [replay, hrecord, History.changes, History.mutations, hm]
      · have hobey := (w.replay history).obey_of_not_mutates (by simpa using hm)
        simp [replay, hrecord, History.changes, History.mutations, hm, hobey]

/-- Calls that start no run leave the runs as they are. -/
theorem runs_replay (w : World σ) {history : History}
    (h : ∀ record ∈ history, ∀ config, record.call ≠ .run config) :
    (w.replay history).runs = w.runs := by
  induction history with
  | nil => rfl
  | cons record history ih =>
      have hrest := ih fun r hr => h r (List.mem_cons_of_mem record hr)
      have hcall := h record List.mem_cons_self
      rw [replay]
      split
      · obtain ⟨call, v⟩ := record
        cases call with
        | run config => exact absurd rfl (hcall config)
        | _ => exact hrest
      · exact hrest

/-- Two worlds in which the tool holds the same. -/
structure SameTool {σ τ : Type} (w : World σ) (v : World τ) : Prop where
  projects : w.projects = v.projects
  contents : w.contents = v.contents
  runs : w.runs = v.runs

namespace SameTool

variable {σ τ υ : Type} {w : World σ} {v : World τ} {u : World υ}

theorem refl (w : World σ) : w.SameTool w := ⟨rfl, rfl, rfl⟩

theorem trans (h₁ : w.SameTool v) (h₂ : v.SameTool u) : w.SameTool u :=
  ⟨h₁.projects.trans h₂.projects, h₁.contents.trans h₂.contents, h₁.runs.trans h₂.runs⟩

theorem project (h : w.SameTool v) (number : Nat) : w.project number = v.project number := by
  simp only [World.project, h.projects]

theorem configuration (h : w.SameTool v) (c : ConfigRef) :
    w.configuration c = v.configuration c := by
  simp only [World.configuration, h.project]

theorem testCases (h : w.SameTool v) (set : TestSetRef) : w.testCases set = v.testCases set := by
  simp only [World.testCases, h.contents]

theorem runRecord (h : w.SameTool v) (c : ConfigRef) : w.runRecord c = v.runRecord c := by
  simp only [World.runRecord, h.configuration, h.testCases]

/-- Carrying out a call depends on nothing but what the tool holds. -/
theorem obey (h : w.SameTool v) (call : Call) : (w.obey call).SameTool (v.obey call) := by
  obtain ⟨hp, hc, hr⟩ := h
  -- No call reads more of the world than the projects, the contents and the runs.
  cases call <;>
    refine ⟨?_, ?_, ?_⟩ <;>
    simp only [World.obey, updateConfiguration, updateProject, hp, hc, hr,
      (⟨hp, hc, hr⟩ : w.SameTool v).runRecord]

/-- A replay depends on nothing but what the tool holds. -/
theorem replay (h : w.SameTool v) (history : History) :
    (w.replay history).SameTool (v.replay history) := by
  induction history with
  | nil => exact h
  | cons record history ih =>
      simp only [World.replay]
      split
      · exact ih.obey record.call
      · exact ih

end SameTool

end World

end CaseRunner.Remote

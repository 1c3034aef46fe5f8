import CaseRunner.Proofs.Isolation.CaseCourse

/-!
# `CaseRunner.Proofs.Isolation.Restoration`: the configuration is as it was

Whatever goes wrong in a case run, its configuration is put back as far as the tool allows
it: a setting differs from before only if the call that was to put it back failed, and then
the answer is `false` (`runCase_restores`). No other configuration is touched.

The reason is that each change of a setting is answered later by a call for the same setting
with the value it had (`restoring_of_attempted`), and nothing is called for it after that.
-/

set_option autoImplicit false

namespace CaseRunner.Isolation

open CaseRunner.Config (CaseRequest)
open CaseRunner.Files (FileStore CopyBack)
open CaseRunner.Remote
open CaseRunner.Remote.Action

variable {σ : Type} {s : Surroundings} {w w' : World σ} {project : ProjectRef}
  {config c : ConfigRef} {setting : Setting} {testCase : TestCase} {request : CaseRequest}
  {call : Call} {p : Parts}

/-- The calls that put a scope back. -/
def Scope.restoring (scope : Scope) (config : ConfigRef) : List Call :=
  scope.assignments.map Assignment.restoring ++ scope.restoringDirs config

/-- A call that puts a scope back gives a setting the value that it had. -/
theorem value_of_restoring (hconfig : w.configuration? config = some (w.configuration config))
    (hcall : call ∈ (scopeOf w config).restoring config) (hfor : call.isFor c setting = true) :
    ∃ value, call.valueFor? c setting = some value ∧ w.setting? c setting = some value := by
  obtain ⟨d, value, hchange, hplace⟩ := Call.isFor_iff.mp hfor
  refine ⟨value, Call.valueFor?_of_settingChange? hchange hplace, ?_⟩
  rw [← w.setting?_of_place hplace]
  simp only [Scope.restoring, Scope.restoringDirs, scopeOf, List.mem_append, List.mem_map,
    List.mem_mapIdx, List.mem_cons, List.not_mem_nil, or_false] at hcall
  -- The call is for an item, for the data directory or for the report directory.
  rcases hcall with ⟨_, ⟨index, hindex, rfl⟩, rfl⟩ | rfl | rfl
  · simp only [Assignment.restoring, Call.settingChange?, Option.some.injEq,
      Prod.mk.injEq] at hchange
    obtain ⟨rfl, rfl, rfl⟩ := hchange
    simp [World.setting?, hconfig, Configuration.setting?, hindex]
  · simp only [Call.settingChange?, Option.some.injEq, Prod.mk.injEq] at hchange
    obtain ⟨rfl, rfl, rfl⟩ := hchange
    simp [World.setting?, hconfig, Configuration.setting?]
  · simp only [Call.settingChange?, Option.some.injEq, Prod.mk.injEq] at hchange
    obtain ⟨rfl, rfl, rfl⟩ := hchange
    simp [World.setting?, hconfig, Configuration.setting?]

/-- A setting that is changed for a run is put back later. -/
theorem restoring_of_planned {scope : Scope} {set : TestSetRef} {number : Nat}
    {dataDir reportDir : FilePath}
    (hcall : call ∈ plan project config testCase scope set dataDir reportDir ++ [.cancel number])
    (hfor : call.isFor c setting = true) :
    ∃ call' ∈ scope.restoring config, call'.isFor c setting = true := by
  obtain ⟨d, value, hchange, hplace⟩ := Call.isFor_iff.mp hfor
  have hdirs (call' : Call) (h : call' ∈ scope.restoringDirs config) :
      call' ∈ scope.restoring config := List.mem_append_right _ h
  simp only [plan, beforeRun, preparing, Scope.items, List.map_map, List.mem_append, List.mem_cons,
    List.mem_map, Function.comp_apply, List.not_mem_nil, or_false] at hcall
  -- The plan has three kinds of calls for a setting. Each of them has its answer in the scope,
  -- and no other call of the plan is for a setting.
  rcases hcall with (((rfl | rfl | rfl) | rfl | ⟨a, ha, rfl⟩) | rfl) | rfl
  · simp only [Call.settingChange?, Option.some.injEq, Prod.mk.injEq] at hchange
    obtain ⟨rfl, rfl, rfl⟩ := hchange
    exact ⟨.setDataDir config scope.dataDir, hdirs _ (by simp [Scope.restoringDirs]),
      Call.isFor_iff.mpr ⟨_, _, rfl, hplace⟩⟩
  · simp only [Call.settingChange?, Option.some.injEq, Prod.mk.injEq] at hchange
    obtain ⟨rfl, rfl, rfl⟩ := hchange
    exact ⟨.setReportDir config scope.reportDir, hdirs _ (by simp [Scope.restoringDirs]),
      Call.isFor_iff.mpr ⟨_, _, rfl, hplace⟩⟩
  · cases hchange
  · cases hchange
  · simp only [Call.settingChange?, Option.some.injEq, Prod.mk.injEq] at hchange
    obtain ⟨rfl, rfl, rfl⟩ := hchange
    exact ⟨a.restoring, List.mem_append_left _ (List.mem_map_of_mem ha),
      Call.isFor_iff.mpr ⟨_, _, rfl, hplace⟩⟩
  · cases hchange
  · cases hchange

/-! ### The last call for a setting -/

/-- The calls of a case run that put something back. -/
def Parts.undo (p : Parts) : History := p.dirs ++ p.items

section
variable [FileStore σ]

/-- The calls that put something back are those for the scope. -/
theorem RunsBy.mem_undo (h : RunsBy s w project request config testCase p w') :
    call ∈ p.undo.sequence ↔ call ∈ (scopeOf w config).restoring config := by
  rw [Parts.undo, History.sequence_append, h.itemCalls, h.dirCalls, Scope.restoring]

/-- The calls that end the temporary test set are for no setting. -/
theorem RunsBy.cleanup_not_isFor (h : RunsBy s w project request config testCase p w')
    {record : CallRecord} (hmem : record ∈ p.cleanup) :
    record.call.isFor c setting = false := by
  have hcall := History.mem_sequence.mpr ⟨record.verdict, hmem⟩
  rw [h.cleanupCalls, Applied.cleaningUp] at hcall
  split at hcall
  · simp only [List.mem_cons, List.not_mem_nil, or_false] at hcall
    rcases hcall with hcall | hcall <;> rw [hcall] <;> rfl
  · cases hcall

/-- A setting that was called for at all was called for to put it back. -/
theorem RunsBy.undo_isFor (h : RunsBy s w project request config testCase p w')
    {record : CallRecord} (hmem : record ∈ p.made) (hfor : record.call.isFor c setting = true) :
    ∃ last ∈ p.undo, last.call.isFor c setting = true := by
  have hundo (hcall : ∃ call ∈ (scopeOf w config).restoring config,
      call.isFor c setting = true) : ∃ last ∈ p.undo, last.call.isFor c setting = true := by
    obtain ⟨call, hcall, hfor⟩ := hcall
    obtain ⟨v, hlast⟩ := History.mem_sequence.mp (h.mem_undo.mpr hcall)
    exact ⟨_, hlast, hfor⟩
  -- Of the five parts, only those that change the settings and put them back have such a call.
  simp only [Parts.made, List.mem_append] at hmem
  rcases hmem with ((hmem | hmem) | hmem) | hmem | hmem
  · rw [h.cleanup_not_isFor hmem] at hfor
    cases hfor
  · exact ⟨record, List.mem_append_left _ hmem, hfor⟩
  · exact ⟨record, List.mem_append_right _ hmem, hfor⟩
  · obtain ⟨dataDir, reportDir, hplan, -⟩ := h.forward.attempted
    have hcall := History.mem_changes hmem (Call.mutates_of_isFor hfor)
    exact hundo (restoring_of_planned (hplan.subset hcall) hfor)
  · exact absurd hmem (h.quiet.not_mem (Call.mutates_of_isFor hfor))

/-- If a setting was called for at all, the last call for it is one that puts it back. -/
theorem RunsBy.last_mem_undo (h : RunsBy s w project request config testCase p w')
    {record : CallRecord} (hmem : record ∈ p.made) (hfor : record.call.isFor c setting = true) :
    ∃ last ∈ p.undo, p.made.last? c setting = some last ∧ last.call.isFor c setting = true := by
  -- The newest calls come first, so the last call for the setting is the first one found. It
  -- is not found in `cleanup`, and is found in `undo` before any of the changes is looked at.
  obtain ⟨found, hfound, hfor⟩ := h.undo_isFor hmem hfor
  have hsome : (p.undo.find? (·.call.isFor c setting)).isSome := by
    rw [List.find?_isSome]
    exact ⟨found, hfound, hfor⟩
  obtain ⟨last, hlast⟩ := Option.isSome_iff_exists.mp hsome
  refine ⟨last, List.mem_of_find?_eq_some hlast, ?_, by simpa using List.find?_some hlast⟩
  have hcleanup : p.cleanup.find? (·.call.isFor c setting) = none := by
    rw [List.find?_eq_none]
    intro record hr
    simp [h.cleanup_not_isFor hr]
  have hmade : p.made = p.cleanup ++ (p.undo ++ (p.forward ++ p.asked)) := by
    simp [Parts.made, Parts.undo]
  rw [History.last?, hmade, List.find?_append, hcleanup, List.find?_append, hlast]
  rfl

/-! ### The settings afterwards -/

/-- After a case run that went through its parts, a setting is as before or the last call for
it failed to put it back. -/
theorem RunsBy.setting? (h : RunsBy s w project request config testCase p w') (c : ConfigRef)
    (setting : Setting) :
    w'.setting? c setting = w.setting? c setting ∨
      ∃ last, p.made.last? c setting = some last ∧
        last.call.valueFor? c setting = w.setting? c setting ∧ last.verdict ≠ .granted := by
  rw [h.tool.setting?]
  by_cases hcalled : ∃ record ∈ p.made, record.call.isFor c setting = true
  · obtain ⟨record, hmem, hfor⟩ := hcalled
    obtain ⟨last, hundo, hlast, hfor⟩ := h.last_mem_undo hmem hfor
    have hcall := h.mem_undo.mp (History.mem_sequence.mpr ⟨last.verdict, hundo⟩)
    obtain ⟨-, -, hconfig⟩ := World.configNamed?_eq_some h.configFound
    obtain ⟨value, hvalue, hold⟩ := value_of_restoring hconfig hcall hfor
    by_cases hgranted : last.verdict = .granted
    · left
      rw [w.setting?_replay_of_last hlast hgranted hvalue, hold]
      rfl
    · exact .inr ⟨last, hlast, by rw [hvalue, hold], hgranted⟩
  · refine .inl (w.setting?_replay_of_not_isFor fun record hr => ?_)
    simpa using fun hfor => hcalled ⟨record, hr, hfor⟩

/-- If the last call for a setting failed, not everything was put back. -/
theorem RunsBy.not_granted (h : RunsBy s w project request config testCase p w')
    {last : CallRecord} (hlast : p.made.last? c setting = some last)
    (hfailed : last.verdict ≠ .granted) : ¬(p.items.Granted ∧ p.dirs.Granted) := by
  rintro ⟨hitems, hdirs⟩
  have hfor : last.call.isFor c setting = true := by simpa using List.find?_some hlast
  obtain ⟨last', hundo, hlast', -⟩ := h.last_mem_undo (List.mem_of_find?_eq_some hlast) hfor
  rw [hlast] at hlast'
  cases hlast'
  exact hfailed (History.granted_append.mpr ⟨hdirs, hitems⟩ last hundo)

end

/-- When a case run is over, every setting of every configuration is as before, except where
the last call for the setting was one to give it the value it had, and that call failed. If
there is such a call, the answer is `false`; so if it is `true`, all configurations are as
before. -/
theorem runCase_restores [FileStore σ] {copyBack : CopyBack σ} {r : Except Failure Bool}
    (h : (runCase copyBack project request).outcome s w = some (r, w')) :
    ∃ answer made, r = .ok answer ∧ w'.calls = made ++ w.calls ∧
      (∀ c setting, w'.setting? c setting = w.setting? c setting ∨
        ∃ last, made.last? c setting = some last ∧
          last.call.valueFor? c setting = w.setting? c setting ∧ last.verdict ≠ .granted) ∧
      (∀ c setting last, made.last? c setting = some last → last.verdict ≠ .granted →
        answer = false) ∧
      (answer = true → ∀ c, w'.configuration? c = w.configuration? c) := by
  rcases runCase_cases h with ⟨asked, rfl, hasks, -⟩ |
    ⟨config, testCase, p, answer, rfl, -, hrun, hiff, -⟩
  · refine ⟨false, asked, rfl, hasks.course.calls, fun c setting => .inl ?_,
      fun _ _ _ _ _ => rfl, nofun⟩
    rw [hasks.sameTool.setting?]
  · have hfalse (c : ConfigRef) (setting : Setting) (last : CallRecord)
        (hlast : p.made.last? c setting = some last) (hfailed : last.verdict ≠ .granted) :
        answer = false := by
      rw [← Bool.not_eq_true, hiff]
      exact fun hall => hrun.not_granted hlast hfailed hall.2
    refine ⟨answer, p.made, rfl, hrun.calls, hrun.setting?, hfalse, fun htrue c => ?_⟩
    refine World.configuration?_eq_of_setting? hrun.tool fun setting => ?_
    rcases hrun.setting? c setting with hsame | ⟨last, hlast, -, hfailed⟩
    · exact hsame
    · rw [hfalse c setting last hlast hfailed] at htrue
      cases htrue

/-- The small case run, where the tool refuses to take the old data directory back: the
answer is `false`, and all settings but that one are as before. -/
theorem runCase_restores_small :
    let verdict (_ : History) (call : Call) : Verdict :=
      if call = .setDataDir ⟨⟨0, none⟩, 0, "EC"⟩ "/data" then .refused (.api "") else .granted
    ∃ w', ∃ made : History, smallOutcome verdict = some (.ok false, w') ∧ w'.calls = made ∧
      ∀ c setting, w'.setting? c setting = smallWorld.setting? c setting ∨
        ∃ last, made.last? c setting = some last ∧
          last.call.valueFor? c setting = smallWorld.setting? c setting ∧
          last.verdict ≠ .granted := by
  intro verdict
  have hends : (smallOutcome verdict).map (·.1.toOption) = some (some false) := by decide +kernel
  obtain ⟨⟨r, w'⟩, h, hr⟩ := Option.map_eq_some_iff.mp hends
  obtain ⟨answer, made, rfl, hcalls, hsettings, -⟩ := runCase_restores h
  cases hr
  exact ⟨w', made, h, hcalls.trans (List.append_nil made), hsettings⟩

end CaseRunner.Isolation

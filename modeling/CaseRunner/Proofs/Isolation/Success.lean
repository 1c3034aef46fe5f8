import CaseRunner.Proofs.Isolation.CaseCourse
import CaseRunner.Proofs.Isolation.Ending

/-!
# `CaseRunner.Proofs.Isolation.Success`: what the answer `true` means

A case run answers `true` if and only if everything it needs was found, prepared, granted
and seen to end (`Succeeds`); copying the artifacts and ending the temporary test set do not
count. A run is started at most once, and then the configuration is as `Isolated` says: it
has the directories that were asked for, and all its items have the new test set, in which
there is the one test case. Both are proved together in `runCase_succeeds_iff`.

* `configuration?_beforeRun`: what the changes before the run make of the configuration.
* `testCases_beforeRun`: what they put into the temporary test set.
-/

set_option autoImplicit false

namespace CaseRunner.Isolation

open CaseRunner.Config (CaseRequest)
open CaseRunner.Files (FileStore CopyBack)
open CaseRunner.Remote
open CaseRunner.Remote.Action

variable {σ : Type} {s : Surroundings} {w w' : World σ} {project : ProjectRef}
  {config : ConfigRef} {testCase : TestCase} {request : CaseRequest} {p : Parts}
  {dataDir reportDir : FilePath} {set : TestSetRef} {history : History}

/-! ### What the changes before the run amount to -/

/-- The configuration as it is when the run is started. -/
def isolated (before : Configuration) (set : TestSetRef) (dataDir reportDir : FilePath) :
    Configuration :=
  { before with
    dataDir := dataDir.text
    reportDir := reportDir.text
    items := before.items.map fun _ => some set }

/-- What each setting is when the run is started. -/
def isolatedValue (set : TestSetRef) (dataDir reportDir : FilePath) : Setting → SettingValue
  | .dataDir => .directory dataDir.text
  | .reportDir => .directory reportDir.text
  | .testSet _ => .testSet (some set)

/-- The settings of the isolated configuration are those of the old one with other values. -/
theorem setting?_isolated (before : Configuration) (setting : Setting) :
    (isolated before set dataDir reportDir).setting? setting =
      (before.setting? setting).map fun _ => isolatedValue set dataDir reportDir setting := by
  cases setting with
  | dataDir | reportDir => rfl
  | testSet index =>
      simp only [isolated, isolatedValue, Configuration.setting?, List.getElem?_map,
        Option.map_map, Function.comp_def]

/-- The changes before the run give each setting of the configuration that one value. -/
theorem value_of_beforeRun {scope : Scope} {call : Call} {setting : Setting} {value : SettingValue}
    (hcall : call ∈ beforeRun project config testCase scope set dataDir reportDir)
    (hvalue : call.valueFor? config setting = some value) :
    value = isolatedValue set dataDir reportDir setting := by
  obtain ⟨d, hchange, -⟩ := Call.settingChange?_of_valueFor? hvalue
  simp only [beforeRun, preparing, List.mem_append, List.mem_cons, List.mem_map,
    List.not_mem_nil, or_false] at hcall
  rcases hcall with (rfl | rfl | rfl) | rfl | ⟨item, -, rfl⟩
  · cases hchange
    rfl
  · cases hchange
    rfl
  · cases hchange
  · cases hchange
  · cases hchange
    rfl

/-- Each setting that the configuration has is changed before the run. -/
theorem beforeRun_isFor {setting : Setting}
    (hsome : ((w.configuration config).setting? setting).isSome) :
    ∃ call ∈ beforeRun project config testCase (scopeOf w config) set dataDir reportDir,
      call.isFor config setting = true := by
  cases setting with
  | dataDir =>
      exact ⟨.setDataDir config dataDir.text, by simp [beforeRun],
        Call.isFor_iff.mpr ⟨_, _, rfl, rfl⟩⟩
  | reportDir =>
      exact ⟨.setReportDir config reportDir.text, by simp [beforeRun],
        Call.isFor_iff.mpr ⟨_, _, rfl, rfl⟩⟩
  | testSet index =>
      have hindex : index < (w.configuration config).items.length := by
        simpa [Configuration.setting?] using hsome
      refine ⟨.setTestSet ⟨config, index⟩ (some set), ?_, Call.isFor_iff.mpr ⟨_, _, rfl, rfl⟩⟩
      simp only [beforeRun, preparing, Scope.items, scopeOf, List.mem_append, List.mem_cons,
        List.mem_map, List.mem_mapIdx]
      exact .inr (.inr ⟨_, ⟨_, ⟨index, hindex, rfl⟩, rfl⟩, rfl⟩)

/-- After the changes before the run, the configuration is the isolated one. -/
theorem configuration?_beforeRun (hgranted : history.Granted)
    (hchanges : history.changes =
      beforeRun project config testCase (scopeOf w config) set dataDir reportDir)
    (hconfig : w.configuration? config = some (w.configuration config)) :
    (w.replay history).configuration? config =
      some (isolated (w.configuration config) set dataDir reportDir) := by
  have hname := w.configuration?_replay_name history config
  rw [hconfig, Option.map_some, Option.map_eq_some_iff] at hname
  obtain ⟨after, hafter, hname⟩ := hname
  rw [hafter, Option.some.injEq]
  -- A configuration is its name and its settings, so the settings are compared one by one.
  refine Configuration.eq_of_setting? hname fun setting => ?_
  have hbefore : w.setting? config setting = (w.configuration config).setting? setting := by
    simp [World.setting?, hconfig]
  have hreplay : (w.replay history).setting? config setting = after.setting? setting := by
    simp [World.setting?, hafter]
  rw [← hreplay, setting?_isolated, ← hbefore]
  cases hsetting : w.setting? config setting with
  | none => rw [World.setting?_replay, hsetting]; split <;> rfl
  | some value =>
      rw [← hsetting]
      refine w.setting?_of_granted hgranted ?_ fun call hcall value' hvalue => ?_
      · rw [hchanges]
        exact beforeRun_isFor (by rw [← hbefore, hsetting]; rfl)
      · exact value_of_beforeRun (hchanges ▸ hcall) hvalue

/-- After the changes before the run, the one test case is in the temporary test set. -/
theorem testCases_beforeRun {scope : Scope} {name : String} (hgranted : history.Granted)
    (hchanges : history.changes =
      beforeRun project config testCase scope ⟨w.contents.length, name⟩ dataDir reportDir) :
    (w.replay history).testCases ⟨w.contents.length, name⟩ = [testCase] := by
  have hcontents : (w.replay history).contents = w.contents ++ [[testCase]] := by
    rw [w.replay_of_granted hgranted, hchanges, beforeRun, preparing, List.foldl_append,
      List.foldl_cons, World.contents_foldl_obey]
    · -- The new test set is the last one, and the test case goes into that one.
      simp only [List.foldl_cons, List.foldl_nil, World.obey, World.updateConfiguration,
        World.updateProject]
      exact List.modifyTailIdx_add _ 0 w.contents [[]]
    · intro call hcall
      obtain ⟨item, -, rfl⟩ := List.mem_map.mp hcall
      rfl
  rw [World.testCases, hcontents]
  simp [List.getD]

/-! ### When the run is started -/

/-- How things are when a run is asked for: `before` is what the tool holds. -/
structure Isolated [FileStore σ] (w : World σ) (project : ProjectRef) (request : CaseRequest)
    (config : ConfigRef) (testCase : TestCase) (dataDir reportDir : FilePath) (before : World σ) :
    Prop where
  configFound : w.configNamed? project request.executionConfig = some config
  caseFound : w.caseNamed? project request.testCase = some testCase
  dirs : DirsPrepared w.files request dataDir reportDir
  configuration : before.configuration? config =
    some (isolated (w.configuration config) (tempSetOf w project request) dataDir reportDir)
  contents : before.testCases (tempSetOf w project request) = [testCase]

/-- Nothing that puts things back or ends the temporary test set starts a run. -/
theorem RunsBy.not_startsRun [FileStore σ] (h : RunsBy s w project request config testCase p w')
    {record : CallRecord} (hmem : record ∈ p.cleanup ++ p.dirs ++ p.items) :
    ¬StartsRun record.call := by
  rintro ⟨c, hcall⟩
  have hseq {part : History} (hmem : record ∈ part) : .run c ∈ part.sequence :=
    hcall ▸ History.mem_sequence.mpr ⟨record.verdict, hmem⟩
  rcases List.mem_append.mp hmem with hmem | hmem
  · rcases List.mem_append.mp hmem with hmem | hmem
    · have hrun := hseq hmem
      rw [h.cleanupCalls, Applied.cleaningUp] at hrun
      split at hrun <;> simp at hrun
    · simpa [h.dirCalls, Scope.restoringDirs] using hseq hmem
  · simpa [h.itemCalls, Assignment.restoring] using hseq hmem

/-- A run is asked for once at most, when all is isolated. -/
theorem RunsBy.isolated [FileStore σ] (h : RunsBy s w project request config testCase p w')
    {later earlier : History} {c : ConfigRef} {v : Verdict}
    (hmade : p.made = later ++ ⟨.run c, v⟩ :: earlier) :
    c = config ∧ (∀ record ∈ later ++ earlier, ¬StartsRun record.call) ∧
      ∃ dataDir reportDir, Isolated w project request config testCase dataDir reportDir
        (w.replay earlier) := by
  -- The record of the run is among the changes, since the other parts start none.
  rcases append_eq_append_cons hmade with ⟨more, rfl, hrest⟩ | ⟨more, hback, -⟩
  rotate_left
  · have hmem : (⟨.run c, v⟩ : CallRecord) ∈ p.cleanup ++ p.dirs ++ p.items := by
      rw [hback]
      exact List.mem_append_right later List.mem_cons_self
    exact absurd ⟨c, rfl⟩ (h.not_startsRun hmem)
  rcases append_eq_append_cons hrest with ⟨more', -, hasked⟩ | ⟨made, hforward, rfl⟩
  · have hmem : (⟨.run c, v⟩ : CallRecord) ∈ p.asked := by
      rw [hasked]
      exact List.mem_append_right more' List.mem_cons_self
    exact absurd hmem (h.quiet.not_mem rfl)
  obtain ⟨rfl, hgranted, hlater, dataDir, reportDir, hdirs, hchanges⟩ := h.forward.atRun hforward
  obtain ⟨-, -, hconfig⟩ := World.configNamed?_eq_some h.configFound
  have hreplay : w.replay (made ++ p.asked) = w.replay made := by
    rw [World.replay_append, w.replay_of_quiet h.quiet]
  have hstart {part : History} (hpart : ∀ call ∈ part.changes, ¬StartsRun call)
      {record : CallRecord} (hr : record ∈ part) : ¬StartsRun record.call := by
    intro hstarts
    obtain ⟨d, hd⟩ := hstarts
    exact hpart _ (History.mem_changes hr (by rw [hd]; rfl)) ⟨d, hd⟩
  refine ⟨rfl, fun record hr => ?_, dataDir, reportDir, ?_⟩
  · rcases List.mem_append.mp hr with hr | hr
    · rcases List.mem_append.mp hr with hr | hr
      · exact h.not_startsRun hr
      · exact hstart hlater hr
    · refine hstart (fun call hcall => ?_) hr
      rw [History.changes_append, History.changes_of_quiet h.quiet, List.nil_append,
        hchanges] at hcall
      exact not_startsRun_of_mem_beforeRun hcall
  · rw [hreplay]
    exact {
      configFound := h.configFound
      caseFound := h.caseFound
      dirs := hdirs
      configuration := configuration?_beforeRun hgranted hchanges hconfig
      contents := testCases_beforeRun hgranted hchanges }

/-! ### What the answer says -/

/-- All that a case run needs went well. The calls are those that count, which were all
granted, and after them the two that end the temporary test set, which do not count. -/
structure Succeeds [FileStore σ] (s : Surroundings) (w : World σ) (project : ProjectRef)
    (request : CaseRequest) (config : ConfigRef) (testCase : TestCase)
    (dataDir reportDir : FilePath) (made counted : History) : Prop where
  configFound : w.configNamed? project request.executionConfig = some config
  caseFound : w.caseNamed? project request.testCase = some testCase
  captured : Captures s w project request
  dirs : DirsPrepared w.files request dataDir reportDir
  ending : ∃ v₁ v₂, made = ⟨.deleteTestSet project (tempSetOf w project request), v₂⟩ ::
    ⟨.setName (tempSetOf w project request), v₁⟩ :: counted
  granted : counted.Granted
  changes : counted.changes =
    plan project config testCase (scopeOf w config) (tempSetOf w project request) dataDir reportDir
      ++ (scopeOf w config).assignments.map Assignment.restoring
      ++ (scopeOf w config).restoringDirs config
  sawEnd : ∃ later polled, made ++ w.calls = later ++ polled ∧ SawEnd s w.runs.length polled

/-- If all went well and was put back, the case run succeeds. -/
theorem RunsBy.succeeds [FileStore σ] (h : RunsBy s w project request config testCase p w')
    (hcaptures : Captures s w project request) (hok : p.ok = true) (hitems : p.items.Granted)
    (hdirs : p.dirs.Granted) :
    ∃ dataDir reportDir, Succeeds s w project request config testCase dataDir reportDir p.made
      (p.dirs ++ p.items ++ (p.forward ++ p.asked)) := by
  obtain ⟨-, hforward, -⟩ := h.forward.complete.mp hok
  obtain ⟨dataDir, reportDir, hprepared, hchanges⟩ := (hok ▸ h.forward).changes_of_ok
  -- The temporary test set was created, so there are two calls to end it.
  have hset : p.applied.tempTestSet = some (tempSetOf w project request) := by
    rcases h.forward.created with ⟨hset, -⟩ | ⟨-, hnot⟩
    · exact hset
    · have hcall : .createTestSet project (tempSetOf w project request).name ∈
          p.forward.changes := by
        simp [hchanges, plan, beforeRun]
      obtain ⟨v, hmem, -⟩ := History.exists_of_mem_changes hcall
      obtain rfl := hforward _ hmem
      exact absurd hmem hnot
  have hcleanup := h.cleanupCalls
  rw [Applied.cleaningUp, hset] at hcleanup
  obtain ⟨v₁, v₂, hcleanup⟩ := History.eq_of_sequence_pair hcleanup
  refine ⟨dataDir, reportDir, {
    configFound := h.configFound
    caseFound := h.caseFound
    captured := hcaptures
    dirs := hprepared
    ending := ⟨v₁, v₂, by simp [Parts.made, hcleanup]⟩
    granted := ?_
    changes := ?_
    sawEnd := ⟨p.cleanup ++ p.dirs ++ p.items, _, ?_, h.sawEnd hok⟩ }⟩
  · simp only [History.granted_append]
    exact ⟨⟨hdirs, hitems⟩, hforward, h.answered⟩
  · simp only [History.changes_append, History.changes_of_quiet h.quiet, hchanges, h.items_changes,
      h.dirs_changes, List.nil_append, List.append_assoc]
  · simp [Parts.made]

/-- If a case run succeeds, all went well and was put back. -/
theorem Succeeds.runsBy [FileStore σ] {config' : ConfigRef} {testCase' : TestCase}
    {counted : History}
    (h : Succeeds s w project request config' testCase' dataDir reportDir p.made counted)
    (hrun : RunsBy s w project request config testCase p w') :
    p.ok = true ∧ p.items.Granted ∧ p.dirs.Granted := by
  obtain ⟨v₁, v₂, hmade⟩ := h.ending
  have hcounted : counted = p.dirs ++ p.items ++ (p.forward ++ p.asked) := by
    have hcleanup := hrun.cleanupCalls
    rw [Applied.cleaningUp] at hcleanup
    split at hcleanup
    · obtain ⟨v₃, v₄, hcleanup⟩ := History.eq_of_sequence_pair hcleanup
      rw [Parts.made, hcleanup] at hmade
      simp only [List.cons_append, List.nil_append, List.cons.injEq] at hmade
      exact hmade.2.2.symm
    · -- Else the last call would be the one for the report directory.
      obtain ⟨v₃, v₄, hdirs⟩ := History.eq_of_sequence_pair hrun.dirCalls
      have hcleanup : p.cleanup = [] := by simpa [History.sequence] using hcleanup
      simp [Parts.made, hcleanup, hdirs] at hmade
  subst hcounted
  have hgranted := h.granted
  simp only [History.granted_append] at hgranted
  obtain ⟨⟨hdirs, hitems⟩, hforward, -⟩ := hgranted
  refine ⟨hrun.forward.complete.mpr ⟨⟨dataDir, reportDir, h.dirs⟩, hforward, fun hcancel => ?_⟩,
    hitems, hdirs⟩
  -- Had the run been cancelled, this would be among the changes that count.
  have hmem : .cancel w.runs.length ∈ (p.dirs ++ p.items ++ (p.forward ++ p.asked)).changes := by
    simp [History.changes_append, hcancel]
  rw [h.changes] at hmem
  simp [plan, beforeRun, preparing, Assignment.restoring, Scope.restoringDirs] at hmem

/-- If one run is asked for at most, that one is the only new one. -/
theorem runs_replay_of_once (w : World σ) {later earlier : History} {c : ConfigRef} {v : Verdict}
    (h : ∀ record ∈ later ++ earlier, ¬StartsRun record.call) :
    (w.replay (later ++ ⟨.run c, v⟩ :: earlier)).runs =
      w.runs ++ if v = .granted then [(w.replay earlier).runRecord c] else [] := by
  have hnone {part : History} (hpart : ∀ record ∈ part, record ∈ later ++ earlier) (u : World σ) :
      (u.replay part).runs = u.runs :=
    u.runs_replay fun record hr d hd => h record (hpart record hr) ⟨d, hd⟩
  have hearlier := hnone (fun _ hr => List.mem_append_right later hr) w
  rw [World.replay_append, hnone fun _ hr => List.mem_append_left earlier hr]
  by_cases hv : v = .granted
  · subst hv
    rw [World.replay_granted, if_pos rfl]
    show (w.replay earlier).runs ++ _ = _
    rw [hearlier]
  · rw [w.replay_of_not_granted ⟨.run c, v⟩ earlier hv, if_neg hv, List.append_nil,
      hearlier]

/-- A case run answers `true` if and only if it succeeds. A run is asked for at most once, and
then all is isolated; if the call is granted, it is a run of that configuration as it is
then. The case run does come to its end if something puts an end to waiting for the run and the
copy of the artifacts ends. -/
theorem runCase_succeeds_iff [FileStore σ] (copyBack : CopyBack σ) (project : ProjectRef)
    (request : CaseRequest) (s : Surroundings) (w : World σ) :
    (∀ r w', (runCase copyBack project request).outcome s w = some (r, w') →
      ∃ answer made, r = .ok answer ∧ w'.calls = made ++ w.calls ∧ w'.SameTool (w.replay made) ∧
        (answer = true ↔ ∃ config testCase dataDir reportDir counted,
          Succeeds s w project request config testCase dataDir reportDir made counted) ∧
        ∀ later config v earlier, made = later ++ ⟨.run config, v⟩ :: earlier →
          (∀ record ∈ later ++ earlier, ¬StartsRun record.call) ∧
          (∃ testCase dataDir reportDir,
            Isolated w project request config testCase dataDir reportDir (w.replay earlier)) ∧
          w'.runs = w.runs ++
            if v = .granted then [(w.replay earlier).runRecord config] else []) ∧
    (Bounded s request.statusInterval → (∀ dirs, (copyBack dirs).Ends) →
      ((runCase copyBack project request).outcome s w).isSome) := by
  refine ⟨fun r w' h => ?_, fun hwait hcopy => runCase_ends hcopy hwait w⟩
  rcases runCase_cases h with ⟨asked, rfl, hasks, hnot⟩ |
    ⟨config, testCase, p, answer, rfl, hcaptures, hrun, hiff, -⟩
  · refine ⟨false, asked, rfl, hasks.course.calls, hasks.course.tool, ?_, ?_⟩
    · refine iff_of_false Bool.false_ne_true ?_
      rintro ⟨_, _, _, _, _, hsucceeds⟩
      exact hnot hsucceeds.captured
    · rintro later config v earlier rfl
      have hmem : (⟨.run config, v⟩ : CallRecord) ∈ later ++ ⟨.run config, v⟩ :: earlier :=
        List.mem_append_right later List.mem_cons_self
      exact absurd hmem (hasks.quiet.not_mem rfl)
  · refine ⟨answer, p.made, rfl, hrun.calls, hrun.tool, ?_, fun later c v earlier hmade => ?_⟩
    · rw [hiff]
      constructor
      · rintro ⟨hok, hitems, hdirs⟩
        obtain ⟨dataDir, reportDir, hsucceeds⟩ := hrun.succeeds hcaptures hok hitems hdirs
        exact ⟨config, testCase, dataDir, reportDir, _, hsucceeds⟩
      · rintro ⟨_, _, _, _, _, hsucceeds⟩
        exact hsucceeds.runsBy hrun
    · obtain ⟨rfl, honce, dataDir, reportDir, hisolated⟩ := hrun.isolated hmade
      refine ⟨honce, ⟨testCase, dataDir, reportDir, hisolated⟩, ?_⟩
      rw [hrun.tool.runs, hmade]
      exact runs_replay_of_once w honce

/-- The small case run with a tool that grants all calls succeeds. -/
theorem runCase_succeeds_small :
    let verdict (_ : History) (_ : Call) : Verdict := .granted
    ∃ w' config testCase dataDir reportDir made counted,
      smallOutcome verdict = some (.ok true, w') ∧
        Succeeds (promptTool verdict) smallWorld ⟨0, none⟩ smallRequest config testCase dataDir
          reportDir made counted := by
  intro verdict
  obtain ⟨hsaid, hends⟩ := runCase_succeeds_iff (CopyBack.silent : CopyBack Files.Tree)
    ⟨0, none⟩ smallRequest (promptTool verdict) smallWorld
  -- The tool is done with a run at once, so the wait for it has an end.
  have hwait : Bounded (promptTool verdict) smallRequest.statusInterval :=
    .inl ⟨0, by decide, fun _ _ _ => ⟨rfl, rfl⟩⟩
  obtain ⟨⟨r, w'⟩, h⟩ := Option.isSome_iff_exists.mp (hends hwait fun _ _ => rfl)
  have hanswer : (smallOutcome verdict).map (·.1.toOption) = some (some true) := by
    decide +kernel
  obtain ⟨answer, made, rfl, -, -, hiff, -⟩ := hsaid r w' h
  rw [show smallOutcome verdict = _ from h] at hanswer
  cases hanswer
  obtain ⟨config, testCase, dataDir, reportDir, counted, hsucceeds⟩ := hiff.mp rfl
  exact ⟨w', config, testCase, dataDir, reportDir, made, counted, h, hsucceeds⟩

end CaseRunner.Isolation

import CaseRunner.Proofs.Isolation.Forward

/-!
# `CaseRunner.Proofs.Isolation.Plan`: what all ends of the changes have in common

The changes for a run follow a plan. Wherever they end, this is known of the calls that were
made, proved stage by stage from `Forward`:

* `Forward.attempted`: the changes are the first ones of the plan, and after all of the plan
  the run may have been cancelled.
* `Forward.created`, `Forward.started`: what is recorded as done is what was granted.
* `Forward.complete`: all goes well if all calls are granted, both directories are prepared
  and the run is not cancelled.
* `Forward.atRun`: the run is started once, after all that is planned before it has been
  granted.
-/

set_option autoImplicit false

namespace CaseRunner.Isolation

open CaseRunner.Config (CaseRequest)
open CaseRunner.Files (FileStore)
open CaseRunner.Remote

/-- The changes before the run, in order. -/
def beforeRun (project : ProjectRef) (config : ConfigRef) (testCase : TestCase) (scope : Scope)
    (set : TestSetRef) (dataDir reportDir : FilePath) : List Call :=
  [.setDataDir config dataDir.text, .setReportDir config reportDir.text,
    .createTestSet project set.name] ++ preparing testCase scope set

/-- The changes for a run, in order. -/
def plan (project : ProjectRef) (config : ConfigRef) (testCase : TestCase) (scope : Scope)
    (set : TestSetRef) (dataDir reportDir : FilePath) : List Call :=
  beforeRun project config testCase scope set dataDir reportDir ++ [.run config]

variable {σ : Type} [FileStore σ] {project : ProjectRef} {config : ConfigRef}
  {testCase : TestCase} {scope : Scope} {request : CaseRequest} {files : σ} {set : TestSetRef}
  {number : Nat} {made : History} {applied : Applied} {ok : Bool}

/-! ### The changes of each stage -/

theorem changes_isolating (config : ConfigRef) (dataDir reportDir : FilePath) :
    (isolating config dataDir reportDir).changes =
      [.setDataDir config dataDir.text, .setReportDir config reportDir.text] := rfl

/-- A test set that was created is one change. -/
theorem Creates.changes {project : ProjectRef} {name : String}
    (h : Creates made (.createTestSet project name)) :
    made.changes = [.createTestSet project name] := by
  obtain ⟨asked, rfl, hquiet, -⟩ := h
  exact History.changes_cons_of_quiet hquiet rfl

/-- A run that was started came after all that is to prepare it. -/
theorem changes_of_started {set : TestSetRef}
    (h : made.sequence = preparing testCase scope set ++ [.run config]) :
    made.changes = preparing testCase scope set ++ [.run config] := by
  rw [History.changes_of_all fun call hcall => mutates_of_mem_preparing (h ▸ hcall), h]

/-- Waiting asks for no change, unless the run is cancelled. -/
theorem Waits.changes {number : Nat} (h : Waits number made ok) :
    made.changes = [] ∨ (made.changes = [.cancel number] ∧ ok = false) := by
  cases h with
  | done hq | failed hq => exact .inl (History.changes_of_quiet hq)
  | interrupted hq v =>
      exact .inr ⟨History.changes_cons_of_quiet hq rfl, rfl⟩

/-- A stage that has begun some of its changes goes on with the plan. -/
theorem changes_prefix {earlier : History} {before stage whole : List Call}
    (hbefore : earlier.changes = before) (hstage : made.changes <+: stage)
    (hwhole : before ++ stage <+: whole) : History.changes (made ++ earlier) <+: whole := by
  rw [History.changes_append, hbefore]
  exact ((List.prefix_append_right_inj before).mpr hstage).trans hwhole

/-- The changes up to the temporary test set, if that was created. -/
theorem changes_of_creates {name : String} {dataDir reportDir : FilePath}
    (h : Creates made (.createTestSet project name)) :
    History.changes (made ++ isolating config dataDir reportDir) =
      [.setDataDir config dataDir.text, .setReportDir config reportDir.text,
        .createTestSet project name] := by
  rw [History.changes_append, changes_isolating, h.changes]
  rfl

/-- The changes up to the run, if that was started. -/
theorem changes_of_runs {created : History} {set : TestSetRef} {dataDir reportDir : FilePath}
    (hcreate : Creates created (.createTestSet project set.name))
    (hseq : made.sequence = preparing testCase scope set ++ [.run config]) :
    History.changes (made ++ (created ++ isolating config dataDir reportDir)) =
      plan project config testCase scope set dataDir reportDir := by
  rw [History.changes_append, changes_of_creates hcreate, changes_of_started hseq]
  simp [plan, beforeRun]

/-- All calls up to the temporary test set were granted, if that was created. -/
theorem Creates.granted {call : Call} (h : Creates made call) (config : ConfigRef)
    (dataDir reportDir : FilePath) :
    History.Granted (made ++ isolating config dataDir reportDir) := by
  obtain ⟨asked, rfl, -, hasked⟩ := h
  simp [History.granted_append, History.granted_cons, hasked, isolating]

/-! ### What was attempted -/

/-- The directories of a plan, as far as the changes have come: each is the absolute path of
the one that was asked for, at the time when it is set. -/
structure PlansDirs (config : ConfigRef) (request : CaseRequest) (files : σ)
    (changes : List Call) (dataDir reportDir : FilePath) : Prop where
  data : .setDataDir config dataDir.text ∈ changes →
    FileStore.absolute files request.dataDir = .ok dataDir
  report : .setReportDir config reportDir.text ∈ changes →
    ∃ files₁, Prepared files request.dataDir dataDir files₁ ∧
      FileStore.absolute files₁ request.reportDir = .ok reportDir

/-- Directories that were prepared are as planned. -/
theorem DirsPrepared.plansDirs {changes : List Call} {dataDir reportDir : FilePath}
    (h : DirsPrepared files request dataDir reportDir) :
    PlansDirs config request files changes dataDir reportDir := by
  obtain ⟨files₁, files₂, hdata, hreport⟩ := h
  exact ⟨fun _ => hdata.absolute, fun _ => ⟨files₁, hdata, hreport.absolute⟩⟩

/-- The changes are the first ones of a plan. After all of the plan, the run may have been
cancelled. -/
theorem Forward.attempted
    (h : Forward project config testCase scope request files set number made applied ok) :
    ∃ dataDir reportDir,
      made.changes <+: plan project config testCase scope set
        dataDir reportDir ++ [.cancel number] ∧
      PlansDirs config request files made.changes dataDir reportDir ∧
      (applied.runStarted = true → applied.dirs = [dataDir, reportDir]) := by
  cases h with
  | data h =>
      cases h with
      -- The plan needs two directories. No call names them yet, so any will do.
      | unprepared =>
          exact ⟨request.dataDir, request.reportDir, List.nil_prefix, ⟨nofun, nofun⟩, nofun⟩
      | @refused path v habs hv =>
          refine ⟨path, request.reportDir, ⟨_, rfl⟩, ⟨fun _ => habs, fun hmem => ?_⟩, nofun⟩
          cases List.mem_singleton.mp hmem
  | @report made dataDir files₁ hdata h =>
      cases h with
      | unprepared =>
          refine ⟨dataDir, request.reportDir, ⟨_, rfl⟩, ⟨fun _ => hdata.absolute, ?_⟩, nofun⟩
          exact fun hmem => by cases List.mem_singleton.mp hmem
      | @refused path v habs hv =>
          exact ⟨dataDir, path, ⟨_, rfl⟩,
            ⟨fun _ => hdata.absolute, fun _ => ⟨files₁, hdata, habs⟩⟩, nofun⟩
  | @create made dataDir reportDir hdirs h =>
      refine ⟨dataDir, reportDir, ?_, hdirs.plansDirs, nofun⟩
      exact changes_prefix (changes_isolating config dataDir reportDir) h.attempted ⟨_, rfl⟩
  | @start made created dataDir reportDir hdirs hcreate h htail =>
      refine ⟨dataDir, reportDir, ?_, hdirs.plansDirs, nofun⟩
      refine changes_prefix (changes_of_creates hcreate) h.attempted ⟨[.cancel number], ?_⟩
      simp [plan, beforeRun]
  | @wait polls started created dataDir reportDir ok hdirs hcreate hseq hg h =>
      refine ⟨dataDir, reportDir, ?_, hdirs.plansDirs, fun _ => rfl⟩
      -- All of the plan is done, and what waiting adds is nothing or the cancellation.
      refine changes_prefix (changes_of_runs hcreate hseq) ?_ (List.prefix_refl _)
      rcases h.changes with hpolls | ⟨hpolls, -⟩
      · rw [hpolls]
        exact List.nil_prefix
      · exact hpolls ▸ List.prefix_rfl

/-! ### What was done -/

/-- A call that is not among the changes of a stage is not among its calls. -/
theorem not_mem_of_changes {call : Call} {v : Verdict} (hcall : call.mutates = true)
    (h : call ∉ made.changes) : ⟨call, v⟩ ∉ made :=
  fun hmem => h (History.mem_changes hmem hcall)

/-- The temporary test set is recorded as created if the tool was asked to and did so. -/
theorem Forward.created
    (h : Forward project config testCase scope request files set number made applied ok) :
    (applied.tempTestSet = some set ∧
      ⟨.createTestSet project set.name, .granted⟩ ∈ made) ∨
    (applied.tempTestSet = none ∧
      ⟨.createTestSet project set.name, .granted⟩ ∉ made) := by
  cases h with
  | data h =>
      refine .inr ⟨rfl, ?_⟩
      cases h with
      | unprepared | refused => simp
  | report hdata h =>
      refine .inr ⟨rfl, ?_⟩
      cases h with
      | unprepared | refused => simp
  | create hdirs h =>
      refine .inr ⟨rfl, fun hmem => ?_⟩
      rcases List.mem_append.mp hmem with hmem | hmem
      · exact h.undone hmem
      · simp [isolating] at hmem
  | start hdirs hcreate h htail =>
      obtain ⟨asked, rfl, -⟩ := hcreate
      exact .inl ⟨rfl, by simp⟩
  | wait hdirs hcreate hseq hg h =>
      obtain ⟨asked, rfl, -⟩ := hcreate
      exact .inl ⟨rfl, by simp⟩

/-- The run is recorded as started if the tool was asked to and did so. -/
theorem Forward.started
    (h : Forward project config testCase scope request files set number made applied ok) :
    applied.runStarted = true ↔ ⟨.run config, .granted⟩ ∈ made := by
  cases h with
  | data h =>
      cases h with
      | unprepared | refused => simp [Applied.nothing]
  | report hdata h =>
      cases h with
      | unprepared | refused => simp
  | @create made dataDir reportDir hdirs h =>
      refine iff_of_false nofun (not_mem_of_changes rfl fun hmem => ?_)
      rw [History.changes_append, changes_isolating] at hmem
      rcases List.mem_append.mp hmem with hmem | hmem
      · simp at hmem
      · simpa using h.attempted.subset hmem
  | @start made created dataDir reportDir hdirs hcreate h htail =>
      -- The run is the last call of its stage, and no call of an earlier one.
      refine iff_of_false nofun fun hmem => ?_
      rcases List.mem_append.mp hmem with hmem | hmem
      · exact h.undone hmem
      · refine not_mem_of_changes rfl ?_ hmem
        rw [changes_of_creates hcreate]
        simp
  | @wait polls started created dataDir reportDir ok hdirs hcreate hseq hg h =>
      refine iff_of_true rfl ?_
      have hrun : .run config ∈ started.sequence := by simp [hseq]
      obtain ⟨⟨_, v⟩, hrecord, rfl⟩ := List.mem_map.mp hrun
      have hv : v = .granted := hg _ (List.mem_reverse.mp hrecord)
      subst hv
      simp [List.mem_reverse.mp hrecord]

/-- If all went well, the changes are the plan. -/
theorem Forward.changes_of_ok
    (h : Forward project config testCase scope request files set number made applied true) :
    ∃ dataDir reportDir, DirsPrepared files request dataDir reportDir ∧
      made.changes =
        plan project config testCase scope set dataDir reportDir := by
  cases h with
  | @wait polls started created dataDir reportDir _ hdirs hcreate hseq hg h =>
      refine ⟨dataDir, reportDir, hdirs, ?_⟩
      rw [History.changes_append, changes_of_runs hcreate hseq]
      rcases h.changes with hpolls | ⟨-, hok⟩
      · rw [hpolls, List.append_nil]
      · cases hok

/-- All goes well if both directories are prepared, all calls are granted and the run is not
cancelled. -/
theorem Forward.complete
    (h : Forward project config testCase scope request files set number made applied ok) :
    ok = true ↔ (∃ dataDir reportDir, DirsPrepared files request dataDir reportDir) ∧
      made.Granted ∧ .cancel number ∉ made.changes := by
  cases h with
  | data h =>
      refine iff_of_false Bool.false_ne_true ?_
      rintro ⟨⟨dataDir, _, _, _, hdata, _⟩, hg, _⟩
      cases h with
      | unprepared h => exact h ⟨dataDir, _, hdata⟩
      | refused habs hv => exact hv (History.granted_cons.mp hg).1
  | report hdata h =>
      refine iff_of_false Bool.false_ne_true ?_
      rintro ⟨⟨_, reportDir, _, _, hdata', hreport⟩, hg, _⟩
      cases h with
      -- The files the report directory is prepared in are the ones the data directory left.
      | unprepared h =>
          obtain ⟨-, rfl⟩ := hdata.unique hdata'
          exact h ⟨reportDir, _, hreport⟩
      | refused habs hv => exact hv (History.granted_cons.mp hg).1
  | create hdirs h | start hdirs hcreate h htail =>
      refine iff_of_false Bool.false_ne_true ?_
      rintro ⟨_, hg, _⟩
      exact h.fault (History.granted_append.mp hg).1
  | @wait polls started created dataDir reportDir ok hdirs hcreate hseq hg h =>
      cases h with
      -- Only here all is granted and the run goes to its end, so this is the way that goes well.
      | done hq hpolls =>
          have hwaits : Waits number polls true := .done hq hpolls
          refine iff_of_true rfl ⟨⟨dataDir, reportDir, hdirs⟩, ?_, ?_⟩
          · exact History.granted_append.mpr ⟨hpolls, History.granted_append.mpr
              ⟨hg, hcreate.granted config dataDir reportDir⟩⟩
          · obtain ⟨_, _, -, hchanges⟩ := (Forward.wait hdirs hcreate hseq hg hwaits).changes_of_ok
            rw [hchanges]
            simp [plan, beforeRun, preparing]
      | failed hq hpolls =>
          refine iff_of_false Bool.false_ne_true ?_
          rintro ⟨_, hg, _⟩
          exact hpolls (History.granted_append.mp hg).1
      | @interrupted polls hq v =>
          refine iff_of_false Bool.false_ne_true ?_
          rintro ⟨_, _, hcancel⟩
          have hmem : (⟨.cancel number, v⟩ : CallRecord) ∈
              ⟨.cancel number, v⟩ :: polls ++ (started ++ (created ++
                isolating config dataDir reportDir)) := by simp
          exact hcancel (History.mem_changes hmem rfl)

/-! ### When the run is started -/

/-- A place in a list that has two parts is in one of them. -/
theorem append_eq_append_cons {α : Type} {first rest later earlier : List α} {x : α}
    (h : first ++ rest = later ++ x :: earlier) :
    (∃ more, later = first ++ more ∧ rest = more ++ x :: earlier) ∨
      ∃ more, first = later ++ x :: more ∧ earlier = more ++ rest := by
  rcases List.append_eq_append_iff.mp h with ⟨middle, hlater, hrest⟩ | ⟨middle, hfirst, hrest⟩
  · exact .inl ⟨middle, hlater, hrest⟩
  · cases middle with
    | nil => exact .inl ⟨[], by rw [hfirst, List.append_nil, List.append_nil], hrest.symm⟩
    | cons y middle =>
        obtain ⟨rfl, rfl⟩ := List.cons.inj hrest
        exact .inr ⟨middle, hfirst, rfl⟩

/-- In a list with one element of a kind, a place of an element of this kind is the place of
that one. -/
theorem split_unique {α : Type} {p : α → Prop} {a b before after : List α} {x y : α}
    (h : a ++ x :: b <+: before ++ y :: after) (hx : p x) (hbefore : ∀ z ∈ before, ¬p z)
    (hafter : ∀ z ∈ after, ¬p z) : a = before ∧ x = y ∧ b <+: after := by
  obtain ⟨rest, h⟩ := h
  rw [List.append_assoc, List.cons_append] at h
  -- The place of `x` is before that of `y`, at it, or after it.
  rcases append_eq_append_cons h.symm with ⟨more, -, hmore⟩ | ⟨more, hmore, -⟩
  · cases more with
    | nil =>
        obtain ⟨rfl, rfl⟩ := List.cons.inj hmore
        exact ⟨(List.append_cancel_right h), rfl, rest, rfl⟩
    | cons z more =>
        obtain ⟨rfl, rfl⟩ := List.cons.inj hmore
        exact absurd hx (hafter x (by simp))
  · exact absurd hx (hbefore x (by simp [hmore]))

/-- Whether a call starts a run. -/
def StartsRun (call : Call) : Prop := ∃ config, call = .run config

/-- Nothing that is planned before the run starts one. -/
theorem not_startsRun_of_mem_beforeRun {set : TestSetRef} {dataDir reportDir : FilePath}
    {call : Call} (h : call ∈ beforeRun project config testCase scope set dataDir reportDir) :
    ¬StartsRun call := by
  rintro ⟨c, rfl⟩
  simp [beforeRun, preparing] at h

/-- When a run is started, all calls before have been granted and the directories are
prepared. -/
theorem Forward.granted_before_run
    (h : Forward project config testCase scope request files set number made applied ok)
    {later earlier : History} {c : ConfigRef} {v : Verdict}
    (hmade : made = later ++ ⟨.run c, v⟩ :: earlier) :
    earlier.Granted ∧ ∃ dataDir reportDir, DirsPrepared files request dataDir reportDir := by
  have hrun : .run c ∈ made.changes :=
    History.mem_changes (show (⟨.run c, v⟩ : CallRecord) ∈ made by simp [hmade]) rfl
  cases h with
  | data h =>
      cases h with
      | unprepared => cases hrun
      | refused => cases List.mem_singleton.mp hrun
  | report hdata h =>
      rw [History.changes_append] at hrun
      cases h with
      | unprepared | refused => simp [History.changes, History.mutations, Call.mutates] at hrun
  | create hdirs h =>
      rw [History.changes_append, changes_isolating] at hrun
      rcases List.mem_append.mp hrun with hrun | hrun
      · simp at hrun
      · simpa using h.attempted.subset hrun
  | @start made created dataDir reportDir hdirs hcreate h htail =>
      refine ⟨?_, dataDir, reportDir, hdirs⟩
      rcases append_eq_append_cons hmade with ⟨more, -, hmore⟩ | ⟨more, hmore, rfl⟩
      -- No run is started while the test set is created, and in the stage of the start all
      -- calls but the newest were granted.
      · have hmem : (⟨.run c, v⟩ : CallRecord) ∈ created ++ isolating config dataDir reportDir := by
          rw [hmore]
          exact List.mem_append_right more List.mem_cons_self
        have hchange := History.mem_changes hmem rfl
        rw [changes_of_creates hcreate] at hchange
        simp at hchange
      · refine History.granted_append.mpr
          ⟨fun record hr => htail record ?_, hcreate.granted config _ _⟩
        rw [hmore]
        cases later with
        | nil => exact hr
        | cons newest later => exact List.mem_append_right later (List.mem_cons_of_mem _ hr)
  | @wait polls started created dataDir reportDir ok hdirs hcreate hseq hg h =>
      refine ⟨?_, dataDir, reportDir, hdirs⟩
      have hall : History.Granted (started ++ (created ++ isolating config dataDir reportDir)) :=
        History.granted_append.mpr ⟨hg, hcreate.granted config _ _⟩
      -- Waiting starts no run, so the run is among the calls that were all granted.
      rcases append_eq_append_cons hmade with ⟨more, -, hmore⟩ | ⟨more, rfl, -⟩
      · rw [hmore] at hall
        exact (History.granted_cons.mp (History.granted_append.mp hall).2).2
      · have hmem : (⟨.run c, v⟩ : CallRecord) ∈ later ++ ⟨.run c, v⟩ :: more :=
          List.mem_append_right later List.mem_cons_self
        have hchange := History.mem_changes hmem rfl
        rcases h.changes with hpolls | ⟨hpolls, -⟩
        · rw [hpolls] at hchange
          cases hchange
        · rw [hpolls] at hchange
          cases List.mem_singleton.mp hchange

/-- A run is asked for at most once, and it is the run of the configuration. All calls before
have been granted, and the changes so far are what is planned before the run. -/
theorem Forward.atRun
    (h : Forward project config testCase scope request files set number made applied ok)
    {later earlier : History} {c : ConfigRef} {v : Verdict}
    (hmade : made = later ++ ⟨.run c, v⟩ :: earlier) :
    c = config ∧ earlier.Granted ∧ (∀ call ∈ later.changes, ¬StartsRun call) ∧
      ∃ dataDir reportDir, DirsPrepared files request dataDir reportDir ∧
        earlier.changes = beforeRun project config testCase scope set
          dataDir reportDir := by
  obtain ⟨hgranted, dataDir, reportDir, hdirs⟩ := h.granted_before_run hmade
  obtain ⟨dataDir', reportDir', hbegun, hplans, -⟩ := h.attempted
  have hchanges : made.changes = earlier.changes ++ .run c :: later.changes := by
    rw [hmade, ← List.singleton_append, History.changes_append, History.changes_append,
      List.append_assoc]
    rfl
  have hnot (call : Call) (hcall : call ∈ [Call.cancel number]) : ¬StartsRun call := by
    rintro ⟨d, rfl⟩
    cases List.mem_singleton.mp hcall
  -- The plan has one run, so it is cut at the same place.
  rw [hchanges, plan, List.append_assoc] at hbegun
  obtain ⟨hbefore, hrun, hafter⟩ := split_unique hbegun ⟨c, rfl⟩
    (fun _ => not_startsRun_of_mem_beforeRun) hnot
  -- The directories of the plan are those that were prepared.
  obtain ⟨files₁, files₂, hdata, hreport⟩ := hdirs
  obtain ⟨files₁', hdata', habs'⟩ := hplans.report (by rw [hchanges, hbefore]; simp [beforeRun])
  obtain ⟨rfl, rfl⟩ := hdata.unique hdata'
  have hreportDir : reportDir' = reportDir := by
    rw [hreport.absolute] at habs'
    cases habs'
    rfl
  subst hreportDir
  exact ⟨by cases hrun; rfl, hgranted, fun call hcall => hnot call (hafter.subset hcall),
    dataDir, reportDir', ⟨files₁, files₂, hdata, hreport⟩, hbefore⟩

end CaseRunner.Isolation

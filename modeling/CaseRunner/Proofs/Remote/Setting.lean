import CaseRunner.Proofs.Remote.Replay

/-!
# `CaseRunner.Proofs.Remote.Setting`: the settings of a configuration

A configuration has two directories and a test set for each item. Each of these is a
`Setting`, which calls of one kind change. The tool knows a configuration by the number of
its project and its own number, so two references are to the same configuration if these
agree (`ConfigRef.place`).

* `setting?_obey`: a call changes the setting it is for, and no other one.
* `setting?_replay`: after some calls a setting has the value that the last granted one of
  those for it gave it, and the old value if there was none.
-/

set_option autoImplicit false

namespace CaseRunner.Remote

/-- Where the tool keeps a configuration: the number of its project and its own. -/
def ConfigRef.place (c : ConfigRef) : Nat × Nat := (c.project.number, c.number)

/-- Something that is set in a configuration. -/
inductive Setting where
  /-- The data directory. -/
  | dataDir
  /-- The report directory. -/
  | reportDir
  /-- The test set of an item. -/
  | testSet (index : Nat)
  deriving DecidableEq, Repr

/-- What a setting can be. -/
inductive SettingValue where
  /-- A directory. -/
  | directory (path : String)
  /-- A test set, or none. -/
  | testSet (set : Option TestSetRef)
  deriving DecidableEq, Repr

/-- The value of a setting, if the configuration has it. -/
def Configuration.setting? (c : Configuration) : Setting → Option SettingValue
  | .dataDir => some (.directory c.dataDir)
  | .reportDir => some (.directory c.reportDir)
  | .testSet index => c.items[index]?.map .testSet

/-- The configuration, the setting and the value of a call that changes a setting. -/
def Call.settingChange? : Call → Option (ConfigRef × Setting × SettingValue)
  | .setDataDir c path => some (c, .dataDir, .directory path)
  | .setReportDir c path => some (c, .reportDir, .directory path)
  | .setTestSet item set => some (item.config, .testSet item.index, .testSet set)
  | _ => none

/-- The value that a call gives to a setting of a configuration, if it is for that one. -/
def Call.valueFor? (call : Call) (c : ConfigRef) (setting : Setting) : Option SettingValue :=
  match call.settingChange? with
  | some (c', setting', value) =>
    if c'.place = c.place ∧ setting' = setting then some value else none
  | none => none

/-- Whether a call is for a setting of a configuration. -/
def Call.isFor (call : Call) (c : ConfigRef) (setting : Setting) : Bool :=
  (call.valueFor? c setting).isSome

/-- The last call for a setting. -/
def History.last? (history : History) (c : ConfigRef) (setting : Setting) : Option CallRecord :=
  history.find? (·.call.isFor c setting)

/-- The value that the last granted call for a setting gave it. -/
def History.lastValue? (history : History) (c : ConfigRef) (setting : Setting) :
    Option SettingValue :=
  history.findSome? fun record =>
    if record.verdict = .granted then record.call.valueFor? c setting else none

namespace History

variable {history : History} {c : ConfigRef} {setting : Setting} {record : CallRecord}

theorem lastValue?_cons (record : CallRecord) (history : History) (c : ConfigRef)
    (setting : Setting) :
    lastValue? (record :: history) c setting =
      (if record.verdict = .granted then record.call.valueFor? c setting else none).or
        (history.lastValue? c setting) := by
  rw [lastValue?, List.findSome?_cons]
  cases if record.verdict = .granted then record.call.valueFor? c setting else none <;> rfl

/-- Calls for other things give a setting no value. -/
theorem lastValue?_eq_none (h : ∀ record ∈ history, record.call.isFor c setting = false) :
    history.lastValue? c setting = none := by
  rw [lastValue?, List.findSome?_eq_none_iff]
  intro record hr
  have hfor := h record hr
  simp only [Call.isFor, Option.isSome_eq_false_iff, Option.isNone_iff_eq_none] at hfor
  simp [hfor]

/-- If the last call for a setting was granted, it is the one that counts. -/
theorem lastValue?_of_last (hlast : history.last? c setting = some record)
    (hgranted : record.verdict = .granted) :
    history.lastValue? c setting = record.call.valueFor? c setting := by
  induction history with
  | nil => simp [last?] at hlast
  | cons first history ih =>
      rw [lastValue?_cons]
      by_cases hfor : first.call.isFor c setting = true
      -- The history has its last call in front: the first one found is the last one made.
      · simp only [last?, List.find?_cons, hfor, Option.some.injEq] at hlast
        subst hlast
        obtain ⟨value, hvalue⟩ := Option.isSome_iff_exists.mp hfor
        simp [hgranted, hvalue]
      · simp only [last?, List.find?_cons, hfor] at hlast
        simp only [Call.isFor, Bool.not_eq_true, Option.isSome_eq_false_iff,
          Option.isNone_iff_eq_none] at hfor
        simp [hfor, ih hlast]

end History

/-- The value of a call for a setting of a configuration, by any reference to that one. -/
theorem Call.valueFor?_of_settingChange? {call : Call} {c d : ConfigRef} {setting : Setting}
    {value : SettingValue} (h : call.settingChange? = some (d, setting, value))
    (hplace : d.place = c.place) : call.valueFor? c setting = some value := by
  simp [Call.valueFor?, h, hplace]

/-- A call that has a value for a setting gives it that value. -/
theorem Call.settingChange?_of_valueFor? {call : Call} {c : ConfigRef} {setting : Setting}
    {value : SettingValue} (h : call.valueFor? c setting = some value) :
    ∃ d, call.settingChange? = some (d, setting, value) ∧ d.place = c.place := by
  cases hchange : call.settingChange? with
  | none => simp [Call.valueFor?, hchange] at h
  | some change =>
      obtain ⟨d, setting', value'⟩ := change
      simp only [Call.valueFor?, hchange, Option.ite_none_right_eq_some, Option.some.injEq] at h
      obtain ⟨⟨hplace, rfl⟩, rfl⟩ := h
      exact ⟨d, rfl, hplace⟩

/-- A call is for a setting if it changes that setting of the configuration. -/
theorem Call.isFor_iff {call : Call} {c : ConfigRef} {setting : Setting} :
    call.isFor c setting = true ↔
      ∃ d value, call.settingChange? = some (d, setting, value) ∧ d.place = c.place := by
  constructor
  · intro h
    obtain ⟨value, hvalue⟩ := Option.isSome_iff_exists.mp h
    obtain ⟨d, hchange, hplace⟩ := Call.settingChange?_of_valueFor? hvalue
    exact ⟨d, value, hchange, hplace⟩
  · rintro ⟨d, value, hchange, hplace⟩
    simp [Call.isFor, Call.valueFor?_of_settingChange? hchange hplace]

/-- A call for a setting asks for a change. -/
theorem Call.mutates_of_isFor {call : Call} {c : ConfigRef} {setting : Setting}
    (h : call.isFor c setting = true) : call.mutates = true := by
  obtain ⟨d, value, hchange, -⟩ := Call.isFor_iff.mp h
  cases call <;> first | rfl | cases hchange

/-- A call that is for no setting has no value for any. -/
theorem Call.valueFor?_of_settingChange?_eq_none {call : Call} (h : call.settingChange? = none)
    (c : ConfigRef) (setting : Setting) : call.valueFor? c setting = none := by
  simp [Call.valueFor?, h]

/-- Two configurations of one name with the same settings are equal. -/
theorem Configuration.eq_of_setting? {c d : Configuration} (hname : c.name = d.name)
    (h : ∀ setting, c.setting? setting = d.setting? setting) : c = d := by
  have hdata := h .dataDir
  have hreport := h .reportDir
  have hitems : c.items = d.items := by
    -- The settings include each item by its index, so the lists agree at every index.
    apply List.ext_getElem?
    intro index
    have hindex := h (.testSet index)
    simp only [Configuration.setting?] at hindex
    cases hc : c.items[index]? <;> cases hd : d.items[index]? <;> simp_all
  obtain ⟨name, dataDir, reportDir, items⟩ := c
  simp only [Configuration.setting?, Option.some.injEq,
    SettingValue.directory.injEq] at hdata hreport
  simp_all

namespace World

variable {σ τ : Type}

/-- A configuration, if the tool has it. -/
def configuration? (w : World σ) (c : ConfigRef) : Option Configuration :=
  w.projects[c.project.number]?.bind fun p => p.configurations[c.number]?

/-- The value of a setting of a configuration, if there is one. -/
def setting? (w : World σ) (c : ConfigRef) (setting : Setting) : Option SettingValue :=
  (w.configuration? c).bind (·.setting? setting)

/-- A configuration that the tool has is the one that is read. -/
theorem configuration_eq_of_configuration? {w : World σ} {c : ConfigRef} {config : Configuration}
    (h : w.configuration? c = some config) : w.configuration c = config := by
  obtain ⟨p, hp, hc⟩ := Option.bind_eq_some_iff.mp h
  simp [configuration, project, List.getD, hp, hc]

/-- Two references to one place are to the same configuration. -/
theorem setting?_of_place (w : World σ) {c d : ConfigRef} (h : d.place = c.place)
    (setting : Setting) : w.setting? d setting = w.setting? c setting := by
  simp only [ConfigRef.place, Prod.mk.injEq] at h
  simp only [setting?, configuration?, h]

theorem SameTool.configuration? {w : World σ} {v : World τ} (h : w.SameTool v) (c : ConfigRef) :
    w.configuration? c = v.configuration? c := by
  simp only [World.configuration?, h.projects]

theorem SameTool.setting? {w : World σ} {v : World τ} (h : w.SameTool v) (c : ConfigRef)
    (setting : Setting) : w.setting? c setting = v.setting? c setting := by
  simp only [World.setting?, h.configuration?]

/-- Changing a configuration changes that one alone. -/
theorem configuration?_updateConfiguration (w : World σ) (c d : ConfigRef)
    (change : Configuration → Configuration) :
    (w.updateConfiguration d change).configuration? c =
      if d.place = c.place then (w.configuration? c).map change else w.configuration? c := by
  simp only [configuration?, updateConfiguration, updateProject, ConfigRef.place, Prod.mk.injEq,
    List.getElem?_modify]
  cases w.projects[c.project.number]? with
  | none => simp
  | some p =>
      -- A place is a project and a number in it; the change is elsewhere if either differs.
      by_cases hp : d.project.number = c.project.number
      · by_cases hc : d.number = c.number <;> simp [hp, hc]
      · simp [hp]

/-- Changing a project without its configurations changes no configuration. -/
theorem configuration?_updateProject (w : World σ) (number : Nat) (change : Project → Project)
    (h : ∀ p, (change p).configurations = p.configurations) (c : ConfigRef) :
    (w.updateProject number change).configuration? c = w.configuration? c := by
  simp only [configuration?, updateProject, List.getElem?_modify]
  cases w.projects[c.project.number]? with
  | none => simp
  | some p =>
      by_cases hp : number = c.project.number
      · simp [hp, h]
      · simp [hp]

/-- A call that is for no setting changes no configuration. -/
theorem configuration?_obey (w : World σ) {call : Call} (h : call.settingChange? = none)
    (c : ConfigRef) : (w.obey call).configuration? c = w.configuration? c := by
  cases call with
  | createTestSet p name =>
      exact configuration?_updateProject w p.number (fun project =>
        { project with
          testSets := project.testSets ++ [⟨w.contents.length, name⟩]
          created := project.created ++ [⟨w.contents.length, name⟩] }) (fun _ => rfl) c
  | deleteTestSet p set => exact configuration?_updateProject w p.number _ (fun _ => by rfl) c
  | close p => exact configuration?_updateProject w p.number _ (fun _ => by rfl) c
  | setDataDir | setReportDir | setTestSet => simp [Call.settingChange?] at h
  | _ => rfl

/-- A change of one setting of a configuration, as it shows in the settings of all. -/
theorem setting?_updateConfiguration (w : World σ) (c d : ConfigRef)
    (change : Configuration → Configuration) (changed : Setting) (value : SettingValue)
    (h : ∀ config setting, (change config).setting? setting =
      if changed = setting then (config.setting? setting).map fun _ => value
      else config.setting? setting)
    (setting : Setting) :
    (w.updateConfiguration d change).setting? c setting =
      if d.place = c.place ∧ changed = setting then (w.setting? c setting).map fun _ => value
      else w.setting? c setting := by
  simp only [setting?, configuration?_updateConfiguration]
  by_cases hplace : d.place = c.place
  · cases w.configuration? c with
    | none => simp
    | some config => simp [hplace, h]
  · simp [hplace]

/-- A call changes the setting it is for, and no other one. -/
theorem setting?_obey (w : World σ) (call : Call) (c : ConfigRef) (setting : Setting) :
    (w.obey call).setting? c setting =
      match call.valueFor? c setting with
      | some value => (w.setting? c setting).map fun _ => value
      | none => w.setting? c setting := by
  -- The three setters are one case each; all other calls leave every configuration alone.
  have hother : call.settingChange? = none → (w.obey call).setting? c setting =
      match call.valueFor? c setting with
      | some value => (w.setting? c setting).map fun _ => value
      | none => w.setting? c setting := fun h => by
    rw [Call.valueFor?_of_settingChange?_eq_none h]
    simp only [setting?, configuration?_obey w h]
  cases call with
  | setDataDir d path =>
      have h := setting?_updateConfiguration w c d (fun config => { config with dataDir := path })
        .dataDir (.directory path) (fun config k => by cases k <;> rfl) setting
      simp only [obey, h, Call.valueFor?, Call.settingChange?]
      split <;> rfl
  | setReportDir d path =>
      have h := setting?_updateConfiguration w c d (fun config => { config with reportDir := path })
        .reportDir (.directory path) (fun config k => by cases k <;> rfl) setting
      simp only [obey, h, Call.valueFor?, Call.settingChange?]
      split <;> rfl
  | setTestSet item set =>
      have h := setting?_updateConfiguration w c item.config
        (fun config => { config with items := config.items.set item.index set })
        (.testSet item.index) (.testSet set) (fun config k => by
          cases k with
          | dataDir | reportDir => rfl
          | testSet index =>
              simp only [Configuration.setting?, Setting.testSet.injEq, List.getElem?_set]
              by_cases hi : item.index = index
              · by_cases hlen : index < config.items.length <;> simp [hi, hlen]
              · simp [hi]) setting
      simp only [obey, h, Call.valueFor?, Call.settingChange?]
      split <;> rfl
  | _ => exact hother rfl

/-- After some calls, a setting has the value that they last gave it. -/
theorem setting?_replay (w : World σ) (history : History) (c : ConfigRef) (setting : Setting) :
    (w.replay history).setting? c setting =
      match history.lastValue? c setting with
      | some value => (w.setting? c setting).map fun _ => value
      | none => w.setting? c setting := by
  induction history with
  | nil => rfl
  | cons record history ih =>
      rw [History.lastValue?_cons]
      by_cases hg : record.verdict = .granted
      -- A value of this call replaces what the earlier ones gave.
      · simp only [replay, hg, if_true, setting?_obey, ih]
        cases record.call.valueFor? c setting with
        | none => simp
        | some value => cases History.lastValue? history c setting <;> simp [Function.comp_def]
      · simp only [replay, hg, if_false, ih, Option.none_or]

/-- No call changes the name of a configuration, or which configurations there are. -/
theorem configuration?_replay_name (w : World σ) (history : History) (c : ConfigRef) :
    ((w.replay history).configuration? c).map (·.name) = (w.configuration? c).map (·.name) := by
  -- The setters go through `updateConfiguration`, with changes that keep the name.
  have hchange (w : World σ) (d : ConfigRef) (change : Configuration → Configuration)
      (h : ∀ config, (change config).name = config.name) :
      ((w.updateConfiguration d change).configuration? c).map (·.name)
        = (w.configuration? c).map (·.name) := by
    rw [configuration?_updateConfiguration]
    split
    · rw [Option.map_map]
      simp [Function.comp_def, h]
    · rfl
  induction history with
  | nil => rfl
  | cons record history ih =>
      rw [replay]
      split
      · rw [← ih]
        cases hcall : record.call with
        | setDataDir d path => exact hchange _ d _ fun _ => rfl
        | setReportDir d path => exact hchange _ d _ fun _ => rfl
        | setTestSet item set => exact hchange _ item.config _ fun _ => rfl
        | _ => rw [configuration?_obey _ rfl]
      · exact ih

/-- A configuration whose settings are the same after some calls is the same. -/
theorem configuration?_eq_of_setting? {w : World σ} {v : World τ} {history : History}
    {c : ConfigRef} (htool : v.SameTool (w.replay history))
    (h : ∀ setting, v.setting? c setting = w.setting? c setting) :
    v.configuration? c = w.configuration? c := by
  have hname := w.configuration?_replay_name history c
  rw [← htool.configuration?] at hname
  simp only [setting?] at h
  -- The names agree by the replay, so the configuration exists after the calls if before.
  cases hbefore : w.configuration? c with
  | none => simpa [hbefore] using hname
  | some before =>
      rw [hbefore, Option.map_some, Option.map_eq_some_iff] at hname
      obtain ⟨after, hafter, hname⟩ := hname
      rw [hafter, Configuration.eq_of_setting? hname fun setting => by
        simpa [hafter, hbefore] using h setting]

/-- A setting that no call was for is as it was. -/
theorem setting?_replay_of_not_isFor (w : World σ) {history : History} {c : ConfigRef}
    {setting : Setting} (h : ∀ record ∈ history, record.call.isFor c setting = false) :
    (w.replay history).setting? c setting = w.setting? c setting := by
  rw [setting?_replay, History.lastValue?_eq_none h]

/-- A setting for which the last call was granted has the value of that call. -/
theorem setting?_replay_of_last (w : World σ) {history : History} {c : ConfigRef}
    {setting : Setting} {record : CallRecord} {value : SettingValue}
    (hlast : history.last? c setting = some record)
    (hgranted : record.verdict = .granted) (hvalue : record.call.valueFor? c setting = some value) :
    (w.replay history).setting? c setting = (w.setting? c setting).map fun _ => value := by
  rw [setting?_replay, History.lastValue?_of_last hlast hgranted, hvalue]

/-- If all calls for a setting gave it one value, and there was one, the setting has it. -/
theorem setting?_of_granted (w : World σ) {history : History} {c : ConfigRef}
    {setting : Setting} {value : SettingValue} (h : history.Granted)
    (hsome : ∃ call ∈ history.changes, call.isFor c setting = true)
    (hall : ∀ call ∈ history.changes, ∀ value', call.valueFor? c setting = some value' →
      value' = value) :
    (w.replay history).setting? c setting = (w.setting? c setting).map fun _ => value := by
  obtain ⟨call, hcall, hfor⟩ := hsome
  obtain ⟨v, hmem, -⟩ := History.exists_of_mem_changes hcall
  -- There is a last call for the setting; it was granted like all, and gave the one value.
  have hlast : (history.last? c setting).isSome := by
    rw [History.last?, List.find?_isSome]
    exact ⟨_, hmem, hfor⟩
  obtain ⟨last, hlast⟩ := Option.isSome_iff_exists.mp hlast
  have hmem := List.mem_of_find?_eq_some hlast
  have hfor : last.call.isFor c setting = true := by simpa using List.find?_some hlast
  obtain ⟨value', hvalue⟩ := Option.isSome_iff_exists.mp hfor
  obtain rfl := hall _ (History.mem_changes hmem (Call.mutates_of_isFor hfor)) _ hvalue
  exact w.setting?_replay_of_last hlast (h last hmem) hvalue

/-- Changing settings leaves the contents of all test sets as they are. -/
theorem contents_foldl_obey (w : World σ) {calls : List Call}
    (h : ∀ call ∈ calls, call.settingChange?.isSome) :
    (calls.foldl obey w).contents = w.contents := by
  induction calls generalizing w with
  | nil => rfl
  | cons call calls ih =>
      rw [List.foldl_cons, ih _ fun call' hcall' => h call' (List.mem_cons_of_mem call hcall')]
      have hcall := h call List.mem_cons_self
      cases call with
      | setDataDir | setReportDir | setTestSet => rfl
      | _ => cases hcall

end World

end CaseRunner.Remote

import CaseRunner.Proofs.Config.Accepted

/-!
# `CaseRunner.Proofs.Config.Acceptance`: which configurations are accepted, and as what

The rules for a configuration are told here one by one. `Source.Breaks` says which fault stands
for which broken rule, and `ConfigFault.place` in which order the rules count. A configuration is
accepted if and only if it breaks none of them, and else it is refused for the first one
(`Source.check_accepts_iff`). What it is accepted as (`Source.UsedAs`) is what was written, field
by field, with the durations read and a host that is never blank.

The check itself looks at one rule after the other. `Source.findings` has one entry for each rule
in that order, so the check refuses for the first entry that is a fault (`Source.check_cases`),
and that is the first rule that is broken (`Source.findings_eq_some_iff`).
-/

set_option autoImplicit false

namespace CaseRunner.Config

open CaseRunner.Text (isBlankText)

variable {env : Environment} {s : Source} {fault : ConfigFault} {settings : Settings}

/-! ### The rules -/

/-- The fields about the execution that must not be empty or blank, in order. -/
def requiredFields : List String :=
  ["project", "execution_config", "test_case", "data_dir", "report_dir", "temp_test_set"]

/-- The place of a rule among all rules: those about the tool come first, then those about the
execution, then the two durations. -/
def ConfigFault.place : ConfigFault → Nat
  | .noExecutable => 0
  | .zeroPort => 1
  | .blankBindingName => 2
  | .blankHost => 3
  | .emptyField field => 4 + requiredFields.idxOf field
  | .sameDirectories _ => 10
  | .sameFinalNames .. => 11
  | .badStartupTimeout _ => 12
  | .badReadinessTimeout _ => 13

/-- The configuration breaks the rule that the fault stands for. -/
inductive Source.Breaks (s : Source) : ConfigFault → Prop
  /-- There is no executable to try. -/
  | executables (h : s.tool.executables = []) : Breaks s .noExecutable
  /-- The port is zero. -/
  | port (h : s.tool.port = 0) : Breaks s .zeroPort
  /-- The name of the tool is blank. -/
  | bindingName (h : isBlankText s.tool.bindingName = true) : Breaks s .blankBindingName
  /-- A host is given and is blank. -/
  | host {host : String} (given : s.tool.host = some host) (h : isBlankText host = true) :
    Breaks s .blankHost
  /-- The project is no path. -/
  | project (h : s.execution.project.isEmpty = true) : Breaks s (.emptyField "project")
  /-- The name of the execution configuration is blank. -/
  | executionConfig (h : isBlankText s.execution.executionConfig = true) :
    Breaks s (.emptyField "execution_config")
  /-- The name of the test case is blank. -/
  | testCase (h : isBlankText s.execution.testCase = true) : Breaks s (.emptyField "test_case")
  /-- The data directory is no path. -/
  | dataDir (h : s.execution.dataDir.isEmpty = true) : Breaks s (.emptyField "data_dir")
  /-- The report directory is no path. -/
  | reportDir (h : s.execution.reportDir.isEmpty = true) : Breaks s (.emptyField "report_dir")
  /-- The name of the temporary test set is blank. -/
  | tempTestSet (h : isBlankText s.execution.tempTestSet = true) :
    Breaks s (.emptyField "temp_test_set")
  /-- The two directories have the same components. -/
  | directories (h : s.execution.dataDir.components = s.execution.reportDir.components) :
    Breaks s (.sameDirectories s.execution.dataDir)
  /-- Artifacts are copied, and the two directories have the same final name or none. -/
  | finalNames {dir : FilePath} (copied : s.execution.artifactDir = some dir)
    (h : s.execution.dataDir.fileName = s.execution.reportDir.fileName) :
    Breaks s (.sameFinalNames s.execution.dataDir s.execution.reportDir)
  /-- The time to register is no duration. -/
  | startupTimeout {fault : DurationFault} (h : readDuration s.tool.startupTimeout = .error fault) :
    Breaks s (.badStartupTimeout fault)
  /-- The time to get ready is no duration. -/
  | readinessTimeout {fault : DurationFault}
    (h : readDuration s.tool.readinessTimeout = .error fault) : Breaks s (.badReadinessTimeout fault)

/-- The fault stands for the first rule that the configuration breaks. -/
structure Source.FirstBroken (s : Source) (fault : ConfigFault) : Prop where
  broken : s.Breaks fault
  first : ∀ other, s.Breaks other → fault.place ≤ other.place

/-- The rules about the tool. -/
structure ToolSource.Accepted (t : ToolSource) : Prop where
  executables : t.executables ≠ []
  port : t.port ≠ 0
  bindingName : isBlankText t.bindingName = false
  host : ∀ host, t.host = some host → isBlankText host = false

/-- All rules are obeyed. -/
structure Source.Accepted (s : Source) : Prop where
  tool : s.tool.Accepted
  execution : s.execution.Accepted
  startupTimeout : ∃ startup, readDuration s.tool.startupTimeout = .ok startup
  readinessTimeout : ∃ readiness, readDuration s.tool.readinessTimeout = .ok readiness

/-! ### The finding of each rule -/

/-- The fault if there is a reason for it. -/
def ConfigFault.ifSo (fault : ConfigFault) (reason : Bool) : Option ConfigFault :=
  if reason then some fault else none

/-- The fault that comes of a text that is no duration. -/
def ConfigFault.ofDuration (make : DurationFault → ConfigFault) (text : String) :
    Option ConfigFault :=
  match readDuration text with
  | .ok _ => none
  | .error fault => some (make fault)

/-- The finding of each rule about the tool, in order. -/
def ToolSource.findings (t : ToolSource) : List (Option ConfigFault) := [
  ConfigFault.noExecutable.ifSo t.executables.isEmpty,
  ConfigFault.zeroPort.ifSo (t.port = 0),
  ConfigFault.blankBindingName.ifSo (isBlankText t.bindingName),
  ConfigFault.blankHost.ifSo (t.host.any isBlankText)]

/-- The finding of each rule about the execution, in order. -/
def Execution.findings (e : Execution) : List (Option ConfigFault) := [
  (ConfigFault.emptyField "project").ifSo e.project.isEmpty,
  (ConfigFault.emptyField "execution_config").ifSo (isBlankText e.executionConfig),
  (ConfigFault.emptyField "test_case").ifSo (isBlankText e.testCase),
  (ConfigFault.emptyField "data_dir").ifSo e.dataDir.isEmpty,
  (ConfigFault.emptyField "report_dir").ifSo e.reportDir.isEmpty,
  (ConfigFault.emptyField "temp_test_set").ifSo (isBlankText e.tempTestSet),
  (ConfigFault.sameDirectories e.dataDir).ifSo (e.dataDir.same e.reportDir),
  (ConfigFault.sameFinalNames e.dataDir e.reportDir).ifSo
    (e.artifactDir.isSome && e.dataDir.fileName = e.reportDir.fileName)]

/-- The finding of each rule, in order. -/
def Source.findings (s : Source) : List (Option ConfigFault) :=
  s.tool.findings ++ (s.execution.findings ++ [
    ConfigFault.ofDuration .badStartupTimeout s.tool.startupTimeout,
    ConfigFault.ofDuration .badReadinessTimeout s.tool.readinessTimeout])

@[simp] theorem ConfigFault.some_eq_ifSo {other : ConfigFault} {reason : Bool} :
    some other = fault.ifSo reason ↔ reason = true ∧ other = fault := by
  cases reason <;> simp [ifSo]

@[simp] theorem ConfigFault.some_eq_ofDuration {make : DurationFault → ConfigFault}
    {text : String} :
    some fault = ofDuration make text ↔ ∃ f, readDuration text = .error f ∧ fault = make f := by
  unfold ofDuration
  cases readDuration text <;> simp

/-- A rule that is broken counts before all that come after it. -/
theorem ConfigFault.findSome?_ifSo_cons (reason : Bool) (rest : List (Option ConfigFault)) :
    (fault.ifSo reason :: rest).findSome? id =
      if reason then some fault else rest.findSome? id := by
  cases reason <;> rfl

/-- The findings are the broken rules. -/
theorem Source.mem_findings : some fault ∈ s.findings ↔ s.Breaks fault := by
  simp only [findings, ToolSource.findings, Execution.findings, List.cons_append, List.nil_append,
    List.mem_cons, List.not_mem_nil, or_false, ConfigFault.some_eq_ifSo,
    ConfigFault.some_eq_ofDuration]
  constructor
  · rintro (⟨h, rfl⟩ | ⟨h, rfl⟩ | ⟨h, rfl⟩ | ⟨h, rfl⟩ | ⟨h, rfl⟩ | ⟨h, rfl⟩ | ⟨h, rfl⟩ | ⟨h, rfl⟩ |
      ⟨h, rfl⟩ | ⟨h, rfl⟩ | ⟨h, rfl⟩ | ⟨h, rfl⟩ | ⟨f, h, rfl⟩ | ⟨f, h, rfl⟩)
    · exact .executables (List.isEmpty_iff.mp h)
    · exact .port (of_decide_eq_true h)
    · exact .bindingName h
    · cases hhost : s.tool.host with
      | none => simp [hhost] at h
      | some host => exact .host hhost (by simpa [hhost] using h)
    · exact .project h
    · exact .executionConfig h
    · exact .testCase h
    · exact .dataDir h
    · exact .reportDir h
    · exact .tempTestSet h
    · exact .directories (of_decide_eq_true h)
    · obtain ⟨hcopied, hnames⟩ := Bool.and_eq_true_iff.mp h
      obtain ⟨dir, hcopied⟩ := Option.isSome_iff_exists.mp hcopied
      exact .finalNames hcopied (of_decide_eq_true hnames)
    · exact .startupTimeout h
    · exact .readinessTimeout h
  · intro h
    cases h <;> simp_all [FilePath.same]

/-- Each finding stands at the place of its rule. -/
theorem Source.place_of_findings {index : Nat} (h : s.findings[index]? = some (some fault)) :
    fault.place = index := by
  have hmem : (some fault, index) ∈ s.findings.zipIdx := List.mem_zipIdx_iff_getElem?.mpr h
  simp only [findings, ToolSource.findings, Execution.findings, List.cons_append,
    List.nil_append, List.zipIdx_cons, List.zipIdx_nil, List.mem_cons, List.not_mem_nil, or_false,
    Prod.mk.injEq, ConfigFault.some_eq_ifSo, ConfigFault.some_eq_ofDuration] at hmem
  rcases hmem with ⟨⟨-, rfl⟩, rfl⟩ | ⟨⟨-, rfl⟩, rfl⟩ | ⟨⟨-, rfl⟩, rfl⟩ | ⟨⟨-, rfl⟩, rfl⟩ |
    ⟨⟨-, rfl⟩, rfl⟩ | ⟨⟨-, rfl⟩, rfl⟩ | ⟨⟨-, rfl⟩, rfl⟩ | ⟨⟨-, rfl⟩, rfl⟩ | ⟨⟨-, rfl⟩, rfl⟩ |
    ⟨⟨-, rfl⟩, rfl⟩ | ⟨⟨-, rfl⟩, rfl⟩ | ⟨⟨-, rfl⟩, rfl⟩ | ⟨⟨f, -, rfl⟩, rfl⟩ | ⟨⟨f, -, rfl⟩, rfl⟩
  all_goals rfl

/-- The head of the findings stands for the first broken rule. -/
theorem Source.firstBroken_of_findings (h : s.findings.findSome? id = some fault) :
    s.FirstBroken fault := by
  obtain ⟨before, finding, after, hsplit, hfinding, hbefore⟩ :=
    List.findSome?_eq_some_iff.mp h
  obtain rfl : finding = some fault := hfinding
  have hplace : fault.place = before.length :=
    s.place_of_findings (by rw [hsplit, List.getElem?_append_right (Nat.le_refl _)]; simp)
  refine ⟨s.mem_findings.mp (by simp [hsplit]), fun other hbroken => ?_⟩
  obtain ⟨index, hindex⟩ := List.getElem?_of_mem (s.mem_findings.mpr hbroken)
  rw [hplace, s.place_of_findings hindex]
  -- All findings before this one are empty.
  refine Nat.le_of_not_lt fun hlt => ?_
  rw [hsplit, List.getElem?_append_left hlt] at hindex
  cases hbefore _ (List.mem_of_getElem? hindex)

theorem Source.findings_eq_some_iff :
    s.findings.findSome? id = some fault ↔ s.FirstBroken fault := by
  refine ⟨firstBroken_of_findings, fun h => ?_⟩
  cases hfound : s.findings.findSome? id with
  | none =>
      cases List.findSome?_eq_none_iff.mp hfound _ (s.mem_findings.mpr h.broken)
  | some found =>
      have hfirst := firstBroken_of_findings hfound
      have hplace : found.place = fault.place :=
        Nat.le_antisymm (hfirst.first _ h.broken) (h.first _ hfirst.broken)
      obtain ⟨index, hindex⟩ := List.getElem?_of_mem (s.mem_findings.mpr h.broken)
      obtain ⟨other, hother⟩ := List.getElem?_of_mem (s.mem_findings.mpr hfirst.broken)
      rw [s.place_of_findings hindex, s.place_of_findings hother] at hplace
      rw [hplace, hindex] at hother
      simpa using hother.symm

/-! ### What the check does -/

theorem ToolSource.fault?_eq (t : ToolSource) : t.fault? = t.findings.findSome? id := by
  simp only [findings, ConfigFault.findSome?_ifSo_cons, List.findSome?_nil]
  simp [fault?]

theorem Execution.fault?_eq (e : Execution) : e.fault? = e.findings.findSome? id := by
  simp only [findings, ConfigFault.findSome?_ifSo_cons, List.findSome?_nil]
  rfl

/-- The settings that come of a configuration once its two durations are read. -/
def Source.usedWith (s : Source) (env : Environment) (startup readiness : Millis) : Settings where
  tool := {
    executables := s.tool.executables
    host := s.tool.host.getD (defaultHost env)
    port := s.tool.port
    bindingName := s.tool.bindingName
    arguments := s.tool.arguments
    startupTimeout := startup
    readinessTimeout := readiness }
  execution := s.execution

/-- The check refuses for the first finding, and else uses the durations it has read. -/
theorem Source.check_cases (env : Environment) (s : Source) :
    (∃ fault, s.findings.findSome? id = some fault ∧ s.check env = .error fault) ∨
      ∃ startup readiness, s.findings.findSome? id = none ∧
        readDuration s.tool.startupTimeout = .ok startup ∧
        readDuration s.tool.readinessTimeout = .ok readiness ∧
        s.check env = .ok (s.usedWith env startup readiness) := by
  unfold check
  rw [findings, List.findSome?_append, List.findSome?_append, ← ToolSource.fault?_eq,
    ← Execution.fault?_eq]
  cases htool : s.tool.fault? with
  | some fault => exact .inl ⟨fault, rfl, rfl⟩
  | none =>
      cases hexecution : s.execution.fault? with
      | some fault => exact .inl ⟨fault, rfl, rfl⟩
      | none =>
          simp only [ConfigFault.ofDuration]
          cases readDuration s.tool.startupTimeout with
          | error fault => exact .inl ⟨_, rfl, rfl⟩
          | ok startup =>
              cases readDuration s.tool.readinessTimeout with
              | error fault => exact .inl ⟨_, rfl, rfl⟩
              | ok readiness => exact .inr ⟨startup, readiness, rfl, rfl, rfl, rfl⟩

/-! ### Accepted configurations -/

theorem Source.Accepted.not_breaks (h : s.Accepted) : ¬s.Breaks fault := by
  intro hbreaks
  obtain ⟨startup, hstartup⟩ := h.startupTimeout
  obtain ⟨readiness, hreadiness⟩ := h.readinessTimeout
  obtain ⟨hexecutables, hport, hname, hhost⟩ := h.tool
  obtain ⟨hproject, hconfig, hcase, hdata, hreport, hset, hdiffer, hnames⟩ := h.execution
  cases hbreaks <;> simp_all [FilePath.same]

theorem Source.accepted_of_not_breaks (h : ∀ fault, ¬s.Breaks fault) : s.Accepted where
  tool := {
    executables := fun hbroken => h _ (.executables hbroken)
    port := fun hbroken => h _ (.port hbroken)
    bindingName := Bool.eq_false_iff.mpr fun hbroken => h _ (.bindingName hbroken)
    host := fun _ given => Bool.eq_false_iff.mpr fun hbroken => h _ (.host given hbroken) }
  execution := {
    project := Bool.eq_false_iff.mpr fun hbroken => h _ (.project hbroken)
    executionConfig := Bool.eq_false_iff.mpr fun hbroken => h _ (.executionConfig hbroken)
    testCase := Bool.eq_false_iff.mpr fun hbroken => h _ (.testCase hbroken)
    dataDir := Bool.eq_false_iff.mpr fun hbroken => h _ (.dataDir hbroken)
    reportDir := Bool.eq_false_iff.mpr fun hbroken => h _ (.reportDir hbroken)
    tempTestSet := Bool.eq_false_iff.mpr fun hbroken => h _ (.tempTestSet hbroken)
    differ := Bool.eq_false_iff.mpr fun hbroken => h _ (.directories (of_decide_eq_true hbroken))
    finalNames := fun hcopied hbroken =>
      have ⟨_, hdir⟩ := Option.isSome_iff_exists.mp hcopied
      h _ (.finalNames hdir hbroken) }
  startupTimeout := by
    cases hread : readDuration s.tool.startupTimeout with
    | ok startup => exact ⟨startup, rfl⟩
    | error fault => exact absurd (.startupTimeout hread) (h _)
  readinessTimeout := by
    cases hread : readDuration s.tool.readinessTimeout with
    | ok readiness => exact ⟨readiness, rfl⟩
    | error fault => exact absurd (.readinessTimeout hread) (h _)

/-- All rules are obeyed if and only if there is no finding. -/
theorem Source.accepted_iff : s.Accepted ↔ s.findings.findSome? id = none := by
  rw [List.findSome?_eq_none_iff]
  constructor
  · rintro h (_ | fault) hmem
    · rfl
    · exact absurd (s.mem_findings.mp hmem) h.not_breaks
  · intro h
    refine accepted_of_not_breaks fun fault hbreaks => ?_
    cases h _ (s.mem_findings.mpr hbreaks)

/-- The host in use if this one is given, or none. -/
inductive HostFor (env : Environment) : Option String → String → Prop
  | given (host : String) : HostFor env (some host) host
  /-- The environment names one that is not blank. -/
  | named {host : String} (h : env.get? "HOSTNAME" = some host) (shown : isBlankText host = false) :
    HostFor env none host
  /-- The environment names none or a blank one. -/
  | fallback (h : ∀ host, env.get? "HOSTNAME" = some host → isBlankText host = true) :
    HostFor env none "localhost"

theorem hostFor_defaultHost (env : Environment) : HostFor env none (defaultHost env) := by
  unfold defaultHost
  split
  next host hnamed =>
    split
    next hblank =>
      refine .fallback fun other h => ?_
      obtain rfl : host = other := Option.some.inj (hnamed.symm.trans h)
      exact hblank
    next hshown => exact .named hnamed (Bool.eq_false_iff.mpr hshown)
  next hnone => exact .fallback fun _ h => absurd (hnone.symm.trans h) (by simp)

theorem hostFor_getD (env : Environment) (host : Option String) :
    HostFor env host (host.getD (defaultHost env)) := by
  cases host with
  | some host => exact .given host
  | none => exact hostFor_defaultHost env

/-- The host in use is blank only if a blank one is given. -/
theorem HostFor.shown {given : Option String} {host : String} (h : HostFor env given host)
    (hgiven : ∀ text, given = some text → isBlankText text = false) : isBlankText host = false := by
  cases h with
  | given host => exact hgiven host rfl
  | named _ shown => exact shown
  | fallback _ => decide

/-- The settings carry the configuration as it was written, and both views of them do. -/
structure Source.UsedAs (env : Environment) (s : Source) (settings : Settings) : Prop where
  host : HostFor env s.tool.host settings.acquireOptions.host
  hostShown : isBlankText settings.acquireOptions.host = false
  port : settings.acquireOptions.port = s.tool.port
  binding : settings.acquireOptions.binding = s.tool.bindingName
  executables : settings.acquireOptions.executables = s.tool.executables
  arguments : settings.acquireOptions.arguments = s.tool.arguments
  startupTimeout :
    readDuration s.tool.startupTimeout = .ok settings.acquireOptions.startupTimeout
  readinessTimeout :
    readDuration s.tool.readinessTimeout = .ok settings.acquireOptions.readiness.timeout
  intervals : settings.acquireOptions.lookupInterval = defaultPollInterval ∧
    settings.acquireOptions.readiness.interval = defaultPollInterval
  request : settings.caseRequest = {
    executionConfig := s.execution.executionConfig
    testCase := s.execution.testCase
    dataDir := s.execution.dataDir
    reportDir := s.execution.reportDir
    tempTestSet := s.execution.tempTestSet
    statusInterval := defaultStatusInterval }
  execution : settings.execution = s.execution

theorem Source.usedAs_usedWith {startup readiness : Millis} (h : s.Accepted)
    (hstartup : readDuration s.tool.startupTimeout = .ok startup)
    (hreadiness : readDuration s.tool.readinessTimeout = .ok readiness) :
    s.UsedAs env (s.usedWith env startup readiness) where
  host := hostFor_getD env s.tool.host
  hostShown := (hostFor_getD env s.tool.host).shown h.tool.host
  port := rfl
  binding := rfl
  executables := rfl
  arguments := rfl
  startupTimeout := hstartup
  readinessTimeout := hreadiness
  intervals := ⟨rfl, rfl⟩
  request := rfl
  execution := rfl

/-- A configuration is accepted if and only if it obeys every rule, and is then used as it was
written. Else the failure is about the configuration and says which rule is the first that it
breaks. -/
theorem Source.check_accepts_iff (env : Environment) (s : Source) :
    ((∃ settings, s.check env = .ok settings) ↔ s.Accepted) ∧
      (∀ settings, s.check env = .ok settings → s.UsedAs env settings) ∧
      ∀ failure, (s.check env).mapError ConfigFault.failure = .error failure ↔
        ∃ fault, s.FirstBroken fault ∧ failure = .badConfiguration fault.message := by
  obtain ⟨fault, hfound, hcheck⟩ | ⟨startup, readiness, hfound, hstartup, hreadiness, hcheck⟩ :=
    s.check_cases env
  · have hfirst := findings_eq_some_iff.mp hfound
    have hbroken : ¬s.Accepted := fun h => h.not_breaks hfirst.broken
    simp only [hcheck, reduceCtorEq, exists_false, hbroken,
      false_implies, implies_true, true_and]
    intro failure
    constructor
    · intro h
      exact ⟨fault, hfirst, (Except.error.inj h).symm⟩
    · rintro ⟨other, hother, rfl⟩
      obtain rfl : fault = other := by
        simpa [hfound] using findings_eq_some_iff.mpr hother
      rfl
  · have haccepted := accepted_iff.mpr hfound
    refine ⟨⟨fun _ => haccepted, fun _ => ⟨_, hcheck⟩⟩, fun settings h => ?_, fun failure => ?_⟩
    · obtain rfl : _ = settings := Except.ok.inj (hcheck.symm.trans h)
      exact usedAs_usedWith haccepted hstartup hreadiness
    · constructor
      · intro h
        rw [hcheck] at h
        cases h
      · rintro ⟨fault, hfirst, -⟩
        exact absurd hfirst.broken haccepted.not_breaks

/-- A configuration with no host. -/
def sampleSource : Source where
  tool := ⟨["/opt/tpt"], none, 1099, "TptApi", ["--nosplash"], "60s", "10m"⟩
  execution := ⟨"demo.tpt", "Nightly", "Case", "data", "report", "Temp", some "artifacts", true⟩

/-- The same with no port and a blank test case. -/
def brokenSource : Source where
  tool := { sampleSource.tool with port := 0 }
  execution := { sampleSource.execution with testCase := " " }

/-- The host is the local one if the environment names a blank one, and a missing port counts
before a blank test case. -/
theorem check_accepts_iff_small :
    (∃ settings, sampleSource.check [("HOSTNAME", " ")] = .ok settings ∧
      settings.acquireOptions.host = "localhost" ∧
      settings.acquireOptions.startupTimeout = 60000 ∧
      settings.acquireOptions.readiness.timeout = 600000) ∧
    (brokenSource.check []).mapError ConfigFault.failure =
      .error (.badConfiguration "[tool].port must be >= 1 (got 0)") := by
  obtain ⟨haccepts, hused, -⟩ := Source.check_accepts_iff [("HOSTNAME", " ")] sampleSource
  obtain ⟨-, -, hrefuses⟩ := Source.check_accepts_iff [] brokenSource
  refine ⟨?_, (hrefuses _).mpr ⟨.zeroPort, Source.findings_eq_some_iff.mp (by decide), rfl⟩⟩
  obtain ⟨settings, hcheck⟩ := haccepts.mpr (Source.accepted_iff.mpr (by decide))
  have h := hused settings hcheck
  refine ⟨settings, hcheck, ?_, ?_, ?_⟩
  · have hhost := h.host
    generalize settings.acquireOptions.host = host at hhost
    cases hhost with
    | named hnamed shown =>
        obtain rfl := Option.some.inj hnamed
        exact absurd shown (by decide)
    | fallback _ => rfl
  · exact Except.ok.inj (h.startupTimeout.symm.trans rfl)
  · exact Except.ok.inj (h.readinessTimeout.symm.trans rfl)

end CaseRunner.Config

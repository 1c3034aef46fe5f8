import CaseRunner.Isolation.CaseRun
import CaseRunner.Proofs.Remote.Course
import CaseRunner.Proofs.Remote.Setting

/-!
# `CaseRunner.Proofs.Isolation.Finding`: what is found by asking

Before anything is changed, the tool is asked for the configuration, the test case and the
scope of the configuration, and later for the names of the test sets. What comes of it is
told here from the world alone:

* `configurationNamed_answers`: the first configuration of the name.
* `caseNamed_answers`: the first test case of the name among the leaves of the tree, which
  `CaseTree.leaves` lists depth first.
* `capture_answers`: the scope as the world has it (`World.scopeOf`).
* `uniqueTestSetName_answers`: a free name for the names that are taken.
* `resolve_cases`: how the search for the configuration and the test case can end.
-/

set_option autoImplicit false

namespace CaseRunner.Remote

mutual

/-- The test cases of a part of the tree, depth first. -/
def CaseTree.leaves : CaseTree → List TestCase
  | .leaf testCase => [testCase]
  | .group _ _ children => CaseTree.leavesOf children

/-- The test cases of parts of the tree, depth first. -/
def CaseTree.leavesOf : List CaseTree → List TestCase
  | [] => []
  | tree :: rest => tree.leaves ++ CaseTree.leavesOf rest

end

namespace World

variable {σ : Type}

/-- The first configuration of a project that has a name. -/
def configNamed? (w : World σ) (p : ProjectRef) (name : String) : Option ConfigRef :=
  (w.configRefs p).find? (·.name = name)

/-- The first test case of a project, depth first, that has a name. -/
def caseNamed? (w : World σ) (p : ProjectRef) (name : String) : Option TestCase :=
  (CaseTree.leavesOf (w.project p.number).cases).find? (·.name = name)

/-- The names of the test sets of a project. -/
def takenNames (w : World σ) (p : ProjectRef) : List String :=
  (w.project p.number).testSets.map (·.name)

/-- A reference to a configuration of a project leads to that configuration. -/
theorem mem_configRefs {w : World σ} {p : ProjectRef} {c : ConfigRef} (h : c ∈ w.configRefs p) :
    c.project = p ∧ ∃ config, w.configuration? c = some config ∧ config.name = c.name := by
  simp only [configRefs, List.mem_mapIdx] at h
  obtain ⟨index, hindex, rfl⟩ := h
  refine ⟨rfl, (w.project p.number).configurations[index], ?_, rfl⟩
  cases hp : w.projects[p.number]? with
  | none =>
      have hnone : (w.project p.number).configurations = [] := by
        simp [project, List.getD, hp, default, instInhabitedProject.default]
      simp [hnone] at hindex
  | some project =>
      have hproject : w.project p.number = project := by simp [World.project, List.getD, hp]
      simp only [configuration?, hp, Option.bind_some, List.getElem?_eq_some_iff]
      rw [hproject] at hindex
      exact ⟨hindex, by simp only [hproject]⟩

/-- The configuration that is found by its name. -/
theorem configNamed?_eq_some {w : World σ} {p : ProjectRef} {name : String} {c : ConfigRef}
    (h : w.configNamed? p name = some c) :
    c.project = p ∧ c.name = name ∧ w.configuration? c = some (w.configuration c) := by
  obtain ⟨hp, config, hconfig, -⟩ := mem_configRefs (List.mem_of_find?_eq_some h)
  refine ⟨hp, by simpa using List.find?_some h, ?_⟩
  rw [configuration_eq_of_configuration? hconfig, hconfig]

end World

end CaseRunner.Remote

namespace CaseRunner.Isolation

open CaseRunner.Config (CaseRequest)
open CaseRunner.Remote
open CaseRunner.Remote.Action

variable {σ : Type} {s : Surroundings} {w w₁ w' : World σ} {made : History}

/-- The scope of a configuration as the world has it. -/
def scopeOf (w : World σ) (config : ConfigRef) : Scope where
  dataDir := (w.configuration config).dataDir
  reportDir := (w.configuration config).reportDir
  assignments := (w.configuration config).items.mapIdx fun index set => ⟨⟨config, index⟩, set⟩

/-! ### Answers -/

/-- Asking configurations for their names finds the first one of a name. -/
theorem firstNamed_answers (w : World σ) (name : String) {configs : List ConfigRef}
    (h : ∀ c ∈ configs, (w.configuration c).name = c.name) :
    Answers (firstNamed name configs) w (configs.find? (·.name = name)) := by
  induction configs with
  | nil => exact .pure w none
  | cons c rest ih =>
      have hc : (w.configuration c).name = c.name := h c List.mem_cons_self
      have hask : Answers (configName c) w c.name :=
        .query rfl fun _ w₁ hasks => by rw [hasks.sameTool.configuration, hc]
      have hrest := ih fun d hd => h d (List.mem_cons_of_mem c hd)
      refine hask.bind ?_
      -- The search stops at the name, and so does `find?`.
      by_cases hname : c.name = name
      · simpa [hname] using Answers.pure w (some c)
      · simpa [hname] using hrest

/-- The configuration found by asking is the first one of its name. -/
theorem configurationNamed_answers (w : World σ) (p : ProjectRef) (name : String) :
    Answers (configurationNamed p name) w (w.configNamed? p name) := by
  have hask : Answers (configurations p) w (w.configRefs p) :=
    .query rfl fun _ w₁ hasks => by simp only [World.configRefs, hasks.sameTool.project]
  refine hask.bind (firstNamed_answers w name fun c hc => ?_)
  obtain ⟨-, config, hconfig, hname⟩ := World.mem_configRefs hc
  rw [World.configuration_eq_of_configuration? hconfig, hname]

mutual

/-- A part of the tree gives its first leaf of a name. -/
theorem findInTree_answers (w : World σ) (name : String) :
    ∀ tree : CaseTree, Answers (findInTree name tree) w (tree.leaves.find? (·.name = name))
  | .leaf testCase => by
      have hask : Answers (caseName testCase) w testCase.name := .query rfl fun _ _ _ => rfl
      rw [findInTree, CaseTree.leaves]
      refine hask.bind ?_
      by_cases hname : testCase.name = name
      · simpa [hname] using Answers.pure w (some testCase)
      · simpa [hname] using Answers.pure w none
  | .group label number children => by
      have hask : Answers (groupItems ⟨number, label⟩ children) w children :=
        .query rfl fun _ _ _ => rfl
      rw [findInTree, CaseTree.leaves]
      exact hask.bind (findInForest_answers w name children)

/-- Parts of the tree give their first leaf of a name. -/
theorem findInForest_answers (w : World σ) (name : String) :
    ∀ forest : List CaseTree,
      Answers (findInForest name forest) w ((CaseTree.leavesOf forest).find? (·.name = name))
  | [] => by
      rw [findInForest, CaseTree.leavesOf]
      exact .pure w none
  | tree :: rest => by
      rw [findInForest, CaseTree.leavesOf, List.find?_append]
      refine (findInTree_answers w name tree).bind ?_
      -- The rest is asked only if the first part has no such leaf.
      cases tree.leaves.find? (·.name = name) with
      | none => exact findInForest_answers w name rest
      | some testCase => exact .pure w (some testCase)

end

/-- The test case found by asking is the first one of its name, depth first. -/
theorem caseNamed_answers (w : World σ) (p : ProjectRef) (name : String) :
    Answers (caseNamed p name) w (w.caseNamed? p name) := by
  have hask : Answers (topLevel p) w (w.project p.number).cases :=
    .query rfl fun _ w₁ hasks => by rw [hasks.sameTool.project]
  exact hask.bind (findInForest_answers w name _)

/-- The name for a new test set is free for the names that are taken. -/
theorem uniqueTestSetName_answers (w : World σ) (p : ProjectRef) (base : String) :
    Answers (uniqueTestSetName p base) w (freeName (w.takenNames p) base) := by
  have hask : Answers (testSets p) w (w.project p.number).testSets :=
    .query rfl fun _ w₁ hasks => by rw [hasks.sameTool.project]
  have hnames : Answers ((w.project p.number).testSets.mapM setName) w (w.takenNames p) :=
    .mapM fun _ _ => .query rfl fun _ _ _ => rfl
  exact hask.bind (hnames.bind (.pure w _))

/-- The scope that is captured is that of the world. -/
theorem capture_answers (w : World σ) (config : ConfigRef) :
    Answers (Scope.capture config) w (scopeOf w config) := by
  have hdata : Answers (dataDir config) w (w.configuration config).dataDir :=
    .query rfl fun _ w₁ hasks => by rw [hasks.sameTool.configuration]
  have hreport : Answers (reportDir config) w (w.configuration config).reportDir :=
    .query rfl fun _ w₁ hasks => by rw [hasks.sameTool.configuration]
  have hitems : Answers (items config) w
      ((w.configuration config).items.mapIdx fun index _ => ⟨config, index⟩) :=
    .query rfl fun _ w₁ hasks => by rw [hasks.sameTool.configuration]
  have hset (item : ItemRef) : Answers (Scope.assignmentOf item) w
      ⟨item, (w.configuration item.config).items.getD item.index none⟩ := by
    have hask : Answers (testSet item) w
        ((w.configuration item.config).items.getD item.index none) :=
      .query rfl fun _ w₁ hasks => by rw [hasks.sameTool.configuration]
    exact hask.bind (.pure w _)
  have hassign :
      ((w.configuration config).items.mapIdx fun index _ => (⟨config, index⟩ : ItemRef)).map
      (fun item => (⟨item, (w.configuration item.config).items.getD item.index none⟩ : Assignment))
      = (scopeOf w config).assignments := by
    -- At each index the set is read back from the list that the index comes from.
    apply List.ext_getElem?
    intro index
    cases h : (w.configuration config).items[index]? <;> simp [scopeOf, List.getD, h]
  have hall : Answers (((w.configuration config).items.mapIdx fun index _ =>
      (⟨config, index⟩ : ItemRef)).mapM Scope.assignmentOf) w (scopeOf w config).assignments := by
    rw [← hassign]
    exact .mapM fun item _ => hset item
  exact hdata.bind (hreport.bind (hitems.bind (hall.bind (.pure w _))))

/-! ### How the questions of a case run end -/

/-- The configuration and the test case are found if the project has them and all calls are
granted, and not found otherwise. -/
theorem resolve_cases {project : ProjectRef} {request : CaseRequest}
    {r : Except Failure (ConfigRef × TestCase)}
    (h : (resolve project request).outcome s w = some (r, w')) :
    ∃ made, Asks w made w' ∧
      ((∃ config testCase, r = .ok (config, testCase) ∧ made.Granted ∧
          w.configNamed? project request.executionConfig = some config ∧
          w.caseNamed? project request.testCase = some testCase) ∨
        ((∃ failure, r = .error failure) ∧
          ¬(made.Granted ∧ (w.configNamed? project request.executionConfig).isSome ∧
            (w.caseNamed? project request.testCase).isSome))) := by
  unfold resolve at h
  have hconfig := configurationNamed_answers w project request.executionConfig
  rcases bind_cases h with ⟨found, w₁, h₁, h⟩ | ⟨failure, h₁, rfl⟩
  · obtain ⟨made₁, hasks₁, ⟨hr, hg₁⟩ | ⟨⟨_, hr⟩, -⟩⟩ := hconfig.mapFailure_cases (.refl w) h₁
    · cases hr
      cases hfound : w.configNamed? project request.executionConfig with
      | none =>
          simp only [hfound, outcome_throw, Option.some.injEq, Prod.mk.injEq] at h
          obtain ⟨rfl, rfl⟩ := h
          exact ⟨made₁, hasks₁, .inr ⟨⟨_, rfl⟩, by simp⟩⟩
      | some config =>
          simp only [hfound] at h
          have hcase := caseNamed_answers w project request.testCase
          -- The test case is asked for in the world after the first questions, and answered
          -- as in the world before them.
          rcases bind_cases h with ⟨found, w₂, h₂, h⟩ | ⟨failure, h₂, rfl⟩
          · obtain ⟨made₂, hasks₂, ⟨hr, hg₂⟩ | ⟨⟨_, hr⟩, -⟩⟩ := hcase.mapFailure_cases hasks₁ h₂
            · cases hr
              cases hfound : w.caseNamed? project request.testCase with
              | none =>
                  simp only [hfound, outcome_throw, Option.some.injEq, Prod.mk.injEq] at h
                  obtain ⟨rfl, rfl⟩ := h
                  exact ⟨_, hasks₁.trans hasks₂, .inr ⟨⟨_, rfl⟩, by simp⟩⟩
              | some testCase =>
                  simp only [hfound, outcome_pure, Option.some.injEq, Prod.mk.injEq] at h
                  obtain ⟨rfl, rfl⟩ := h
                  exact ⟨_, hasks₁.trans hasks₂, .inl ⟨config, testCase, rfl,
                    History.granted_append.mpr ⟨hg₂, hg₁⟩, rfl, rfl⟩⟩
            · cases hr
          · obtain ⟨made₂, hasks₂, ⟨hr, -⟩ | ⟨_, hg₂⟩⟩ := hcase.mapFailure_cases hasks₁ h₂
            · cases hr
            · refine ⟨_, hasks₁.trans hasks₂, .inr ⟨⟨_, rfl⟩, fun hg => ?_⟩⟩
              exact hg₂ (History.granted_append.mp hg.1).1
    · cases hr
  · obtain ⟨made, hasks, ⟨hr, -⟩ | ⟨_, hg⟩⟩ := hconfig.mapFailure_cases (.refl w) h₁
    · cases hr
    · exact ⟨made, hasks, .inr ⟨⟨_, rfl⟩, fun h => hg h.1⟩⟩

end CaseRunner.Isolation

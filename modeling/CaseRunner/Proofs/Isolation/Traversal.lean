import CaseRunner.Proofs.Isolation.CaseCourse

/-!
# `CaseRunner.Proofs.Isolation.Traversal`: the search for a test case, node by node

`CaseTree.nodesOf` lists the test cases and the groups of a forest in document order: a group, then
everything below it, then what comes after it. The search makes one call for each node, for the
name of a test case or for the items of a group, and stops at the first test case of the name and
at the first group that does not give its items (`CaseNode.stop?`).

* `findInForest_outcome`: the recursion over the forest comes to what going through the list
  comes to. It asks the nodes up to the one where it stops, and no other ones.
* `findInForest_first`: so the answer is known from the list, whatever groups are at fault, and
  what stands behind a test case of the name is of no account.
-/

set_option autoImplicit false

namespace CaseRunner.Remote

/-! ### Document order -/

/-- What the search meets in the tree of test cases. -/
inductive CaseNode where
  /-- A test case. -/
  | testCase (c : TestCase)
  /-- A group. -/
  | group (g : GroupRef)
  deriving DecidableEq, Repr

mutual

/-- The nodes of a part of the tree, in document order. -/
def CaseTree.nodes : CaseTree → List CaseNode
  | .leaf testCase => [.testCase testCase]
  | .group label number children => .group ⟨number, label⟩ :: CaseTree.nodesOf children

/-- The nodes of parts of the tree, in document order. -/
def CaseTree.nodesOf : List CaseTree → List CaseNode
  | [] => []
  | tree :: rest => tree.nodes ++ CaseTree.nodesOf rest

end

namespace CaseNode

variable {name : String} {items items' : GroupRef → Verdict} {nodes : List CaseNode}

/-- The call that the search makes for a node, and what becomes of it: test cases give their names,
and `items` says which groups give their items. -/
def record (items : GroupRef → Verdict) : CaseNode → CallRecord
  | .testCase c => ⟨.caseName c, .granted⟩
  | .group g => ⟨.groupItems g, items g⟩

/-- What the search comes to at a node, if it stops there. -/
def stop? (name : String) (items : GroupRef → Verdict) :
    CaseNode → Option (Except RemoteFault (Option TestCase))
  | .testCase c => if c.name = name then some (.ok (some c)) else none
  | .group g => (items g).fault?.map .error

/-- What the search of some nodes comes to. -/
def answer (name : String) (items : GroupRef → Verdict) (nodes : List CaseNode) :
    Except RemoteFault (Option TestCase) :=
  (nodes.findSome? (stop? name items)).getD (.ok none)

/-- The nodes up to the first one where the search stops. -/
def asked (name : String) (items : GroupRef → Verdict) : List CaseNode → List CaseNode
  | [] => []
  | node :: rest => node :: if (node.stop? name items).isSome then [] else asked name items rest

/-- The search goes past these nodes: no test case has the name, and all groups give their
items. -/
structure Passes (name : String) (items : GroupRef → Verdict) (nodes : List CaseNode) : Prop where
  otherName : ∀ c, .testCase c ∈ nodes → c.name ≠ name
  noFault : ∀ g, .group g ∈ nodes → (items g).fault? = none

/-! ### Where the search stops -/

theorem passes_iff : Passes name items nodes ↔ ∀ node ∈ nodes, node.stop? name items = none := by
  constructor
  · intro h node hnode
    cases node with
    | testCase c => simpa [stop?] using h.otherName c hnode
    | group g => simpa [stop?] using h.noFault g hnode
  · intro h
    constructor
    · intro c hc
      simpa [stop?] using h _ hc
    · intro g hg
      simpa [stop?] using h _ hg

/-- The search stops with what it was looking for only at a test case, and that has the name. -/
theorem stop?_eq_ok_iff {node : CaseNode} {found : Option TestCase} :
    node.stop? name items = some (.ok found) ↔
      ∃ c, found = some c ∧ node = .testCase c ∧ c.name = name := by
  cases node with
  | group g => simp [stop?]
  | testCase c =>
      simp only [stop?, Option.ite_none_right_eq_some, Option.some.injEq, Except.ok.injEq,
        testCase.injEq]
      constructor
      · rintro ⟨hname, rfl⟩
        exact ⟨c, rfl, rfl, hname⟩
      · rintro ⟨c', rfl, rfl, hname⟩
        exact ⟨hname, rfl⟩

/-- The search stops with a fault only at a group, and that has the fault. -/
theorem stop?_eq_error_iff {node : CaseNode} {fault : RemoteFault} :
    node.stop? name items = some (.error fault) ↔
      ∃ g, node = .group g ∧ (items g).fault? = some fault := by
  cases node <;> simp [stop?]

theorem answer_eq_found_iff {c : TestCase} :
    answer name items nodes = .ok (some c) ↔
      ∃ before after, nodes = before ++ .testCase c :: after ∧ c.name = name ∧
        Passes name items before := by
  have hfirst : answer name items nodes = .ok (some c) ↔
      nodes.findSome? (stop? name items) = some (.ok (some c)) := by
    cases h : nodes.findSome? (stop? name items) <;> simp [answer, h]
  rw [hfirst, List.findSome?_eq_some_iff]
  constructor
  · rintro ⟨before, node, after, hnodes, hstop, hbefore⟩
    obtain ⟨c', hc', rfl, hname⟩ := stop?_eq_ok_iff.mp hstop
    cases hc'
    exact ⟨before, after, hnodes, hname, passes_iff.mpr hbefore⟩
  · rintro ⟨before, after, hnodes, hname, hbefore⟩
    exact ⟨before, .testCase c, after, hnodes, stop?_eq_ok_iff.mpr ⟨c, rfl, rfl, hname⟩,
      passes_iff.mp hbefore⟩

theorem answer_eq_error_iff {fault : RemoteFault} :
    answer name items nodes = .error fault ↔
      ∃ before g after, nodes = before ++ .group g :: after ∧ (items g).fault? = some fault ∧
        Passes name items before := by
  have hfirst : answer name items nodes = .error fault ↔
      nodes.findSome? (stop? name items) = some (.error fault) := by
    cases h : nodes.findSome? (stop? name items) <;> simp [answer, h]
  rw [hfirst, List.findSome?_eq_some_iff]
  constructor
  · rintro ⟨before, node, after, hnodes, hstop, hbefore⟩
    obtain ⟨g, rfl, hfault⟩ := stop?_eq_error_iff.mp hstop
    exact ⟨before, g, after, hnodes, hfault, passes_iff.mpr hbefore⟩
  · rintro ⟨before, g, after, hnodes, hfault, hbefore⟩
    exact ⟨before, .group g, after, hnodes, stop?_eq_error_iff.mpr ⟨g, rfl, hfault⟩,
      passes_iff.mp hbefore⟩

theorem answer_eq_none_iff : answer name items nodes = .ok none ↔ Passes name items nodes := by
  rw [passes_iff, ← List.findSome?_eq_none_iff, answer]
  cases h : nodes.findSome? (stop? name items) with
  | none => simp
  | some r =>
      -- Where the search stops it has a test case or a fault.
      obtain ⟨node, -, hstop⟩ := List.exists_of_findSome?_eq_some h
      constructor
      · rintro rfl
        obtain ⟨c, hc, -⟩ := stop?_eq_ok_iff.mp hstop
        cases hc
      · intro h
        cases h

/-! ### Nodes one after the other -/

theorem answer_append (before after : List CaseNode) :
    answer name items (before ++ after) =
      match before.findSome? (stop? name items) with
      | some r => r
      | none => answer name items after := by
  rw [answer, List.findSome?_append]
  cases before.findSome? (stop? name items) <;> rfl

/-- Nodes behind the one where the search stops are not asked. -/
theorem asked_append (before after : List CaseNode) :
    asked name items (before ++ after) =
      asked name items before ++
        if (before.findSome? (stop? name items)).isSome then [] else asked name items after := by
  induction before with
  | nil => rfl
  | cons node rest ih =>
      cases h : node.stop? name items with
      | none => simp [asked, h, ih]
      | some r => simp [asked, h]

theorem asked_isPrefix (nodes : List CaseNode) : asked name items nodes <+: nodes := by
  induction nodes with
  | nil => exact List.prefix_rfl
  | cons node rest ih =>
      rw [asked, List.prefix_cons_inj]
      split
      · exact List.nil_prefix
      · exact ih

/-- What stands behind a test case of the name does not count. -/
theorem search_cut {before : List CaseNode} {c : TestCase} (hname : c.name = name)
    (after : List CaseNode) :
    answer name items (before ++ .testCase c :: after) =
        answer name items (before ++ [.testCase c]) ∧
      asked name items (before ++ .testCase c :: after) =
        asked name items (before ++ [.testCase c]) := by
  simp [asked_append, answer, asked, stop?, hname]

/-- The search depends on the groups among the nodes alone. -/
theorem search_congr (h : ∀ g, .group g ∈ nodes → items' g = items g) :
    answer name items' nodes = answer name items nodes ∧
      (asked name items' nodes).map (record items') =
        (asked name items nodes).map (record items) := by
  induction nodes with
  | nil => exact ⟨rfl, rfl⟩
  | cons node rest ih =>
      have hnode : node.stop? name items' = node.stop? name items ∧
          node.record items' = node.record items := by
        cases node with
        | testCase c => exact ⟨rfl, rfl⟩
        | group g => simp [stop?, record, h g List.mem_cons_self]
      obtain ⟨hanswer, hasked⟩ := ih fun g hg => h g (List.mem_cons_of_mem node hg)
      rw [← List.singleton_append, answer_append, answer_append, asked_append, asked_append]
      simp only [List.findSome?_singleton, asked, hnode.1, hanswer, true_and]
      split <;> simp [hnode.2, hasked]

end CaseNode

/-- The world in which the search has asked some nodes, one after the other. -/
def World.asking {σ : Type} (w : World σ) (items : GroupRef → Verdict) (nodes : List CaseNode) :
    World σ :=
  { w with calls := (nodes.map (CaseNode.record items)).reverse ++ w.calls }

theorem World.asking_append {σ : Type} (w : World σ) (items : GroupRef → Verdict)
    (first second : List CaseNode) :
    (w.asking items first).asking items second = w.asking items (first ++ second) := by
  simp [World.asking]

end CaseRunner.Remote

namespace CaseRunner.Isolation

open CaseRunner.Remote
open CaseRunner.Remote.Action
open CaseRunner.Remote.CaseNode

variable {σ : Type} {s : Surroundings} {items : GroupRef → Verdict}

/-! ### The search -/

/-- Each test case gives its name whenever it is asked, and each group always gives its items or
never does. -/
structure Steady (s : Surroundings) (items : GroupRef → Verdict) : Prop where
  names : ∀ history c, s.verdict history (.caseName c) = .granted
  groups : ∀ history g, s.verdict history (.groupItems g) = items g

theorem Steady.caseName_outcome (hs : Steady s items) (c : TestCase) (w : World σ) :
    (caseName c).outcome s w = some (.ok c.name, w.asking items [.testCase c]) := by
  rw [caseName, query, outcome_perform, hs.names]
  rfl

theorem Steady.groupItems_outcome (hs : Steady s items) (g : GroupRef) (children : List CaseTree)
    (w : World σ) :
    (groupItems g children).outcome s w =
      match (items g).fault? with
      | none => some (.ok children, w.asking items [.group g])
      | some fault => some (.error fault, w.asking items [.group g]) := by
  rw [groupItems, query, outcome_perform, hs.groups]
  cases h : (items g).fault? with
  | some fault => rfl
  | none =>
      have hgranted : w.asking items [.group g] = w.withCall ⟨.groupItems g, .granted⟩ := by
        show w.withCall ⟨.groupItems g, items g⟩ = _
        rw [Verdict.fault?_eq_none.mp h]
      rw [hgranted]
      rfl

mutual

/-- Searching a part of the tree is going through its nodes. -/
theorem findInTree_outcome (hs : Steady s items) (name : String) :
    ∀ (tree : CaseTree) (w : World σ), (findInTree name tree).outcome s w =
      some (answer name items tree.nodes, w.asking items (asked name items tree.nodes))
  | .leaf c, w => by
      rw [findInTree, outcome_bind, hs.caseName_outcome]
      by_cases hname : c.name = name <;> simp [hname, CaseTree.nodes, answer, asked, stop?]
  | .group label number children, w => by
      rw [findInTree, outcome_bind, hs.groupItems_outcome]
      cases h : (items ⟨number, label⟩).fault? with
      | some fault => simp [CaseTree.nodes, answer, asked, stop?, h]
      | none =>
          show (findInForest name children).outcome s _ = _
          rw [findInForest_outcome hs name children, World.asking_append]
          simp [CaseTree.nodes, answer, asked, stop?, h]

/-- Searching parts of the tree is going through their nodes. -/
theorem findInForest_outcome (hs : Steady s items) (name : String) :
    ∀ (forest : List CaseTree) (w : World σ), (findInForest name forest).outcome s w =
      some (answer name items (CaseTree.nodesOf forest),
        w.asking items (asked name items (CaseTree.nodesOf forest)))
  | [], w => by
      rw [findInForest]
      rfl
  | tree :: rest, w => by
      rw [findInForest, outcome_bind, findInTree_outcome hs name tree, CaseTree.nodesOf,
        answer_append, asked_append, answer]
      cases h : tree.nodes.findSome? (stop? name items) with
      | none =>
          show (findInForest name rest).outcome s _ = _
          rw [findInForest_outcome hs name rest, World.asking_append]
          rfl
      | some r =>
          -- A search that stops has a test case or a fault, so the rest is not searched.
          cases r with
          | error fault => simp
          | ok found =>
              obtain ⟨node, -, hstop⟩ := List.exists_of_findSome?_eq_some h
              obtain ⟨c, rfl, -⟩ := stop?_eq_ok_iff.mp hstop
              simp

end

/-- The search of a forest gives the first test case of the name in document order, unless there is
a group before it that does not give its items. The first such group gives the fault if no test
case of the name is before it. Where there is neither, nothing is found. Behind a test case of the
name nothing is asked, and groups there may be at fault or not. -/
theorem findInForest_first (hs : Steady s items) (w : World σ) (name : String)
    (forest : List CaseTree) :
    ∃ r nodes, (findInForest name forest).outcome s w = some (r, w.asking items nodes) ∧
      nodes <+: CaseTree.nodesOf forest ∧
      (∀ c, r = .ok (some c) ↔
        ∃ before after, CaseTree.nodesOf forest = before ++ .testCase c :: after ∧
          c.name = name ∧ Passes name items before) ∧
      (∀ fault, r = .error fault ↔
        ∃ before g after, CaseTree.nodesOf forest = before ++ .group g :: after ∧
          (items g).fault? = some fault ∧ Passes name items before) ∧
      (r = .ok none ↔ Passes name items (CaseTree.nodesOf forest)) ∧
      ∀ before c after, CaseTree.nodesOf forest = before ++ .testCase c :: after →
        c.name = name →
        nodes <+: before ++ [.testCase c] ∧
        ∀ s' items', Steady s' items' → (∀ g, .group g ∈ before → items' g = items g) →
          (findInForest name forest).outcome s' w = (findInForest name forest).outcome s w := by
  refine ⟨_, _, findInForest_outcome hs name forest w, asked_isPrefix _,
    fun c => answer_eq_found_iff, fun fault => answer_eq_error_iff, answer_eq_none_iff, ?_⟩
  intro before c after hnodes hname
  constructor
  · rw [hnodes, (search_cut hname after).2]
    exact asked_isPrefix _
  · intro s' items' hs' hsame
    have hgroups : ∀ g, .group g ∈ before ++ [.testCase c] → items' g = items g := by
      intro g hg
      exact hsame g (by simpa using hg)
    obtain ⟨hanswer, hasked⟩ := search_congr hgroups
    rw [findInForest_outcome hs', findInForest_outcome hs, hnodes, (search_cut hname after).1,
      (search_cut hname after).1, (search_cut hname after).2, (search_cut hname after).2,
      World.asking, World.asking, hanswer, hasked]

/-- The second group never gives its items. -/
def brokenGroup (g : GroupRef) : Verdict :=
  if g.number = 1 then .refused (.api "group items") else .granted

/-- A tool with such a group. -/
def brokenTool : Surroundings :=
  promptTool fun _ call =>
    match call with
    | .groupItems g => brokenGroup g
    | _ => .granted

/-- A group of the name that is looked for, a test case of the name, and one in the broken group. -/
def smallForest : List CaseTree :=
  [.group "Brake" 0 [.leaf ⟨"Stop", "1"⟩], .leaf ⟨"Brake", "2"⟩,
    .group "Broken" 1 [.leaf ⟨"Brake", "3"⟩, .leaf ⟨"Park", "4"⟩]]

theorem brokenTool_steady : Steady brokenTool brokenGroup where
  names _ _ := rfl
  groups _ _ := rfl

/-- The group of the name is not taken for the test case, and behind that the broken group is not
asked. If the name is nowhere else, the broken group is asked, and the search fails. -/
theorem findInForest_first_smallForest :
    (∃ w', (findInForest "Brake" smallForest).outcome brokenTool smallWorld =
        some (.ok (some ⟨"Brake", "2"⟩), w') ∧
      ∀ record ∈ w'.calls, record.call ≠ .groupItems ⟨1, "Broken"⟩) ∧
    ∃ w', (findInForest "Park" smallForest).outcome brokenTool smallWorld =
      some (.error (.api "group items"), w') := by
  have hgiven : (brokenGroup ⟨0, "Brake"⟩).fault? = none := rfl
  constructor
  · obtain ⟨r, nodes, h, -, hfound, -, -, hlazy⟩ :=
      findInForest_first brokenTool_steady smallWorld "Brake" smallForest
    let before : List CaseNode := [.group ⟨0, "Brake"⟩, .testCase ⟨"Stop", "1"⟩]
    have hpasses : Passes "Brake" brokenGroup before := ⟨by simp [before], by simp [before, hgiven]⟩
    have hr : r = .ok (some ⟨"Brake", "2"⟩) :=
      (hfound _).mpr ⟨before, _, rfl, rfl, hpasses⟩
    refine ⟨_, hr ▸ h, ?_⟩
    intro record hrecord hbroken
    obtain ⟨hbegins, -⟩ := hlazy before ⟨"Brake", "2"⟩ _ rfl rfl
    have hcalls : record ∈ (nodes.map (CaseNode.record brokenGroup)).reverse := by
      simpa [World.asking, smallWorld, World.initial] using hrecord
    obtain ⟨node, hnode, rfl⟩ := List.mem_map.mp (List.mem_reverse.mp hcalls)
    have hmem : node ∈ before ++ [.testCase ⟨"Brake", "2"⟩] := hbegins.subset hnode
    simp only [before, List.cons_append, List.nil_append, List.mem_cons, List.not_mem_nil,
      or_false] at hmem
    rcases hmem with rfl | rfl | rfl <;> simp [CaseNode.record] at hbroken
  · obtain ⟨r, nodes, h, -, -, hfault, -⟩ :=
      findInForest_first brokenTool_steady smallWorld "Park" smallForest
    let before : List CaseNode :=
      [.group ⟨0, "Brake"⟩, .testCase ⟨"Stop", "1"⟩, .testCase ⟨"Brake", "2"⟩]
    have hpasses : Passes "Park" brokenGroup before := ⟨by simp [before], by simp [before, hgiven]⟩
    have hr : r = .error (.api "group items") :=
      (hfault _).mpr ⟨before, ⟨1, "Broken"⟩, _, rfl, rfl, hpasses⟩
    exact ⟨_, hr ▸ h⟩

end CaseRunner.Isolation

import CaseRunner.Text.Quoted

/-!
# `CaseRunner.FilePath`: names of files and directories

A path is kept as it is spelled: whether it begins at the root, and its segments, the
stretches between slashes, empty ones included. What it means are its components. Empty
segments mean nothing, nor does a segment of one dot, unless a relative path begins with
it; two dots stay, since what they lead to is known to the file system alone.

Paths that differ in spelling only are `same`. Everything that follows the structure of
paths (the parent, the final name, what lies below a path) is said in components:

* `components_trimmed`: the segments without meaning at the end of a path can go.
* `parent_segments_length`: a parent has fewer segments, so going up comes to an end.
* `isBefore_trans`, `isBefore_of_not`: paths are sorted by the ways that they describe.
-/

set_option autoImplicit false

namespace CaseRunner

/-- A stretch of a path between slashes. -/
abbrev Segment := List Char

/-- A step on the way that a path describes. -/
inductive Component where
  /-- The root of the file system. -/
  | root
  /-- The place a relative path begins at, if the path says so. -/
  | here
  /-- One directory up. -/
  | up
  /-- The entry of the given name. -/
  | name (name : Segment)
  deriving DecidableEq, Repr

/-- A step as a list of numbers that sorts steps: the root, the place itself, the place
above, then names by their characters. -/
def Component.orderKey : Component → List Nat
  | .root => [0]
  | .here => [1]
  | .up => [2]
  | .name s => 3 :: s.map Char.toNat

/-- A path as it is spelled. -/
structure FilePath where
  /-- Whether the path begins at the root. -/
  rooted : Bool
  /-- What stands between the slashes, after the one at the beginning. -/
  segments : List Segment
  deriving DecidableEq, Repr

namespace FilePath

/-- The stretches of a text between slashes. -/
def splitSlash : List Char → List Segment
  | [] => [[]]
  | c :: rest =>
    if c = '/' then [] :: splitSlash rest
    else
      match splitSlash rest with
      | [] => [[c]]
      | s :: others => (c :: s) :: others

/-- The stretches with slashes between them. -/
def joinSlash : List Segment → List Char
  | [] => []
  | [s] => s
  | s :: others => s ++ '/' :: joinSlash others

/-- The path spelled by a string. -/
def ofString (s : String) : FilePath :=
  match s.toList with
  | '/' :: rest => ⟨true, splitSlash rest⟩
  | text => ⟨false, splitSlash text⟩

/-- The spelling of a path. -/
def text (p : FilePath) : String :=
  String.ofList ((if p.rooted then ['/'] else []) ++ joinSlash p.segments)

/-- The spelling in quotation marks. -/
def shown (p : FilePath) : String := Text.quoted p.text

/-- Whether nothing is spelled. -/
def isEmpty (p : FilePath) : Bool := !p.rooted && (p.segments = [] || p.segments = [[]])

/-- The step that a segment stands for, if it stands for one wherever it occurs. -/
def stepOf (s : Segment) : Option Component :=
  if s = [] ∨ s = ['.'] then none
  else if s = ['.', '.'] then some .up
  else some (.name s)

/-- The step that a path's beginning stands for: the root, or the place where it begins. -/
def headComponents (p : FilePath) : List Component :=
  if p.rooted then [.root]
  else if p.segments.head? = some ['.'] then [.here]
  else []

/-- The way that a path describes. -/
def components (p : FilePath) : List Component :=
  p.headComponents ++ p.segments.filterMap stepOf

/-- Whether two spellings describe the same way. -/
def same (p q : FilePath) : Bool := p.components = q.components

/-- Whether `p` is at or below `ancestor`. -/
def isAtOrBelow (p ancestor : FilePath) : Bool := ancestor.components.isPrefixOf p.components

/-- The final name, if the way ends in one. -/
def fileName (p : FilePath) : Option Segment :=
  match p.components.getLast? with
  | some (.name name) => some name
  | _ => none

/-- The segments without those at the end that mean nothing. A dot at the front of a
relative path means something. -/
def trimSegments (hereCounts : Bool) : List Segment → List Segment
  | [] => []
  | s :: others =>
    let kept := trimSegments false others
    if kept = [] ∧ stepOf s = none ∧ ¬(hereCounts = true ∧ s = ['.']) then [] else s :: kept

/-- The path without the segments at its end that mean nothing. -/
def trimmed (p : FilePath) : FilePath := ⟨p.rooted, trimSegments (!p.rooted) p.segments⟩

/-- The path one step up; a path of no steps, and the root, have none. -/
def parent? (p : FilePath) : Option FilePath :=
  match p.trimmed.segments with
  | [] => none
  | s :: others => some (trimmed ⟨p.rooted, (s :: others).dropLast⟩)

/-- Whether the spelling ends in a slash. -/
def endsInSlash (p : FilePath) : Bool :=
  match p.segments with
  | [] => p.rooted
  | [s] => p.rooted && s.isEmpty
  | segments => segments.getLast? = some []

/-- The path `q` as seen from `p`: below `p` if it is relative. -/
def join (p q : FilePath) : FilePath :=
  if q.rooted then q
  else if p.isEmpty then q
  else
    ⟨p.rooted, (if p.endsInSlash then p.segments.dropLast else p.segments)
      ++ (if q.segments.isEmpty then [[]] else q.segments)⟩

/-- The path of the given name below `p`. -/
def child (p : FilePath) (name : Segment) : FilePath := p.join ⟨false, [name]⟩

/-- The segments after the first `n` steps, from the next one that means something. -/
def dropSteps : Nat → List Segment → List Segment
  | _, [] => []
  | 0, s :: others => if stepOf s = none then dropSteps 0 others else s :: others
  | n + 1, s :: others =>
    if stepOf s = none then dropSteps (n + 1) others else dropSteps n others

/-- The way from `base` on to `p`, if `p` is at or below `base`. -/
def relativeTo? (p base : FilePath) : Option FilePath :=
  if p.isAtOrBelow base then
    if base.components = [] then some p.trimmed
    else
      let steps := base.components.length - p.headComponents.length
      some (trimmed ⟨false, dropSteps steps p.segments⟩)
  else
    none

/-- A path as lists of numbers that sort paths, step by step. -/
def orderKey (p : FilePath) : List (List Nat) := p.components.map Component.orderKey

/-- Whether `p` stands before `q` in the order of paths. -/
def isBefore (p q : FilePath) : Bool := decide (p.orderKey < q.orderKey)

/-! ### The order of paths -/

section

variable {p q r : FilePath}

theorem same_iff : p.same q = true ↔ p.components = q.components := decide_eq_true_iff

theorem isBefore_iff : p.isBefore q = true ↔ p.orderKey < q.orderKey := decide_eq_true_iff

/-- Different steps are sorted differently. -/
theorem eq_of_stepKey {a b : Component} (h : a.orderKey = b.orderKey) : a = b := by
  cases a <;> cases b <;>
    simp_all [Component.orderKey, List.map_inj_right fun _ _ => Char.toNat_inj.mp]

/-- Paths of different ways are sorted differently. -/
theorem same_of_orderKey (h : p.orderKey = q.orderKey) : p.same q = true :=
  same_iff.mpr ((List.map_inj_right fun _ _ => eq_of_stepKey).mp h)

theorem isBefore_trans (hpq : p.isBefore q = true) (hqr : q.isBefore r = true) :
    p.isBefore r = true :=
  isBefore_iff.mpr (List.lt_trans (isBefore_iff.mp hpq) (isBefore_iff.mp hqr))

/-- Of two paths of different ways one is before the other. -/
theorem isBefore_of_not (hother : ¬p.same q = true) (h : ¬p.isBefore q = true) :
    q.isBefore p = true := by
  rw [isBefore_iff] at h ⊢
  refine Decidable.byContradiction fun hnot => hother ?_
  exact same_of_orderKey (List.le_antisymm (List.not_lt.mp hnot) (List.not_lt.mp h))

/-- A path is not before another spelling of its way. -/
theorem components_ne_of_isBefore (h : p.isBefore q = true) : p.components ≠ q.components := by
  intro heq
  rw [isBefore_iff, orderKey, orderKey, heq] at h
  exact List.lt_irrefl _ h

end

/-! ### Trimming and going up -/

/-- Trimming adds no segment. -/
theorem trimSegments_length (hereCounts : Bool) (segments : List Segment) :
    (trimSegments hereCounts segments).length ≤ segments.length := by
  induction segments generalizing hereCounts with
  | nil => simp [trimSegments]
  | cons s others ih =>
      simp only [trimSegments]
      split
      · simp
      · simpa using ih false

/-- Trimming drops no step. -/
theorem filterMap_trimSegments (hereCounts : Bool) (segments : List Segment) :
    (trimSegments hereCounts segments).filterMap stepOf = segments.filterMap stepOf := by
  induction segments generalizing hereCounts with
  | nil => simp [trimSegments]
  | cons s others ih =>
      have h := ih false
      simp only [trimSegments]
      split
      · rename_i hs
        rw [hs.1] at h
        simp only [List.filterMap_nil] at h
        simp [hs.2.1, ← h]
      · simp [List.filterMap_cons, h]

/-- Trimming a relative path leaves the dot at its front. -/
theorem head?_trimSegments (segments : List Segment) :
    (trimSegments true segments).head? = some ['.'] ↔ segments.head? = some ['.'] := by
  cases segments with
  | nil => simp [trimSegments]
  | cons s others =>
      simp only [trimSegments, List.head?_cons, Option.some.injEq]
      split
      · rename_i hs
        simp only [List.head?_nil, reduceCtorEq, false_iff]
        intro h
        exact hs.2.2 ⟨trivial, h⟩
      · simp

/-- The segments without meaning at the end of a path can go. -/
theorem components_trimmed (p : FilePath) : p.trimmed.components = p.components := by
  have hhead : p.trimmed.headComponents = p.headComponents := by
    obtain ⟨rooted, segments⟩ := p
    cases rooted with
    | true => simp [headComponents, trimmed]
    | false => simp [headComponents, trimmed, head?_trimSegments]
  rw [components, components, hhead]
  simp [trimmed, filterMap_trimSegments]

/-- A parent has fewer segments. -/
theorem parent_segments_length {p q : FilePath} (h : p.parent? = some q) :
    q.segments.length < p.segments.length := by
  have htrim := trimSegments_length (!p.rooted) p.segments
  unfold parent? at h
  split at h
  · simp at h
  · rename_i s others heq
    simp only [trimmed] at heq
    rw [heq] at htrim
    simp only [Option.some.injEq] at h
    rw [← h]
    have := trimSegments_length (!p.rooted) ((s :: others).dropLast)
    simp only [trimmed]
    simp only [List.length_cons, List.length_dropLast] at *
    omega

/-- The path itself, its parent, and so on up. -/
def ancestors (p : FilePath) : List FilePath :=
  match _h : p.parent? with
  | none => [p]
  | some q => p :: ancestors q
termination_by p.segments.length
decreasing_by exact parent_segments_length _h

end FilePath

/-- A string stands for the path it spells. -/
instance : Coe String FilePath := ⟨FilePath.ofString⟩

end CaseRunner

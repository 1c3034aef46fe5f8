import CaseRunner.FilePath
import Mathlib.Data.List.Induction
import Mathlib.Data.List.Lex
import Mathlib.Tactic.ByContra

/-!
# `CaseRunner.Proofs.Files.Path`: the ways that paths describe

What a path leads to depends on its components alone, and so does what is said of paths here:

* `components_join`, `components_child`: a path that goes on from another one has the steps of
  that one and then its own.
* `relativeTo?_steps`: the way from a base on to a path has the steps that the path has more.
* `exists_step_of_parent?`, `parent?_of_last`: a path has one step more than its parent.
* `isEmpty_ofString`: a string that spells no steps is empty.
* `isBefore_of_append`: two entries of a directory are in the order of their last steps.
-/

set_option autoImplicit false

namespace CaseRunner

namespace FilePath

variable {p q above : FilePath}

theorem isAtOrBelow_iff : p.isAtOrBelow q = true ↔ q.components <+: p.components :=
  List.isPrefixOf_iff_prefix

/-- A spelling of the same way is below the same paths. -/
theorem isAtOrBelow_congr (h : p.same q = true) (base : FilePath) :
    p.isAtOrBelow base = q.isAtOrBelow base := by
  rw [isAtOrBelow, isAtOrBelow, same_iff.mp h]

theorem same_congr (h : p.same q = true) (other : FilePath) : p.same other = q.same other := by
  rw [same, same, same_iff.mp h]

theorem same_congr_right (h : p.same q = true) (other : FilePath) :
    other.same p = other.same q := by
  rw [same, same, same_iff.mp h]

/-- The beginning of a path is the same after the slash at its end has gone. -/
theorem headComponents_dropLast (hp : p.isEmpty = false) (segments : List Segment) :
    headComponents ⟨p.rooted, (if p.endsInSlash then p.segments.dropLast else p.segments)
      ++ segments⟩ = p.headComponents := by
  obtain ⟨rooted, stretches⟩ := p
  cases rooted with
  | true => rfl
  | false =>
      -- A relative path that ends in a slash has something before the slash.
      match stretches with
      | [] => cases hp
      | [s] => simp [headComponents, endsInSlash]
      | s :: s' :: rest => split <;> simp [headComponents]

theorem getLast?_of_endsInSlash (h : p.endsInSlash = true) (hp : p.segments ≠ []) :
    p.segments.getLast? = some [] := by
  unfold endsInSlash at h
  split at h
  · contradiction
  · rename_i s hsegments
    rw [hsegments]
    simpa using And.right (by simpa using h : p.rooted = true ∧ s = [])
  · exact of_decide_eq_true h

/-- A slash at the end of a path means nothing. -/
theorem filterMap_dropLast (p : FilePath) :
    (if p.endsInSlash then p.segments.dropLast else p.segments).filterMap stepOf =
      p.segments.filterMap stepOf := by
  split
  · rename_i hslash
    by_cases hnil : p.segments = []
    · rw [hnil]
      rfl
    · have hlast := List.dropLast_concat_getLast hnil
      have hempty := getLast?_of_endsInSlash hslash hnil
      rw [List.getLast?_eq_some_getLast hnil, Option.some.injEq] at hempty
      rw [hempty] at hlast
      rw [← hlast]
      simp [stepOf]
  · rfl

/-- A path that goes on from another one begins where that one does. -/
theorem rooted_join (hp : p.isEmpty = false) (hq : q.rooted = false) :
    (p.join q).rooted = p.rooted := by
  rw [join, if_neg (by simp [hq]), if_neg (by simp [hp])]

/-- A path that goes on from another one has the steps of that one and then its own. -/
theorem steps_join (hp : p.isEmpty = false) (hq : q.rooted = false) :
    (p.join q).segments.filterMap stepOf =
      p.segments.filterMap stepOf ++ q.segments.filterMap stepOf := by
  have hsegments : (if q.segments.isEmpty then [[]] else q.segments).filterMap stepOf =
      q.segments.filterMap stepOf := by
    split
    · rename_i hnil
      rw [List.isEmpty_iff.mp hnil]
      rfl
    · rfl
  rw [join, if_neg (by simp [hq]), if_neg (by simp [hp]), List.filterMap_append,
    filterMap_dropLast, hsegments]

theorem components_join (hp : p.isEmpty = false) (hq : q.rooted = false) :
    (p.join q).components = p.components ++ q.segments.filterMap stepOf := by
  have hhead : (p.join q).headComponents = p.headComponents := by
    rw [join, if_neg (by simp [hq]), if_neg (by simp [hp]), headComponents_dropLast hp]
  rw [components, components, hhead, steps_join hp hq, List.append_assoc]

/-- A segment stands for its own name. -/
theorem eq_of_stepOf {s name : Segment} (h : stepOf s = some (.name name)) : s = name := by
  unfold stepOf at h
  (repeat' split at h) <;> cases h
  rfl

theorem headComponents_length_le (p : FilePath) : p.headComponents.length ≤ 1 := by
  unfold headComponents
  (repeat' split) <;> simp

/-- A final name is one that a directory entry can have. -/
theorem stepOf_fileName {name : Segment} (h : p.fileName = some name) :
    stepOf name = some (.name name) := by
  unfold fileName at h
  split at h
  case h_1 other hlast =>
    cases h
    rcases List.mem_append.mp (List.mem_of_getLast? hlast) with hmem | hmem
    · unfold headComponents at hmem
      (repeat' split at hmem) <;> simp at hmem
    · obtain ⟨s, -, hs⟩ := List.mem_filterMap.mp hmem
      rwa [eq_of_stepOf hs] at hs
  case h_2 => cases h

theorem components_of_isEmpty (h : p.isEmpty = true) : p.components = [] := by
  obtain ⟨rooted, segments⟩ := p
  rw [isEmpty, Bool.and_eq_true, Bool.not_eq_true'] at h
  obtain ⟨rfl, hsegments⟩ := h
  rcases (by simpa using hsegments : segments = [] ∨ segments = [[]]) with rfl | rfl <;> rfl

theorem isEmpty_of_components (h : p.components ≠ []) : p.isEmpty = false := by
  rw [← Bool.not_eq_true]
  intro hempty
  exact h (components_of_isEmpty hempty)

/-- Below a path there is one step more, if the name is one that a directory entry can have. -/
theorem components_child (hp : p.isEmpty = false) {name : Segment}
    (hname : stepOf name = some (.name name)) :
    (p.child name).components = p.components ++ [.name name] := by
  rw [child, components_join hp rfl]
  simp [hname]

/-- A path with a name at its end is not empty. -/
theorem components_child_ne_nil (p : FilePath) {name : Segment}
    (hname : stepOf name = some (.name name)) : (p.child name).components ≠ [] := by
  cases hp : p.isEmpty with
  | false =>
      rw [components_child hp hname]
      exact List.concat_ne_nil _ _
  | true =>
      rw [child, join, if_neg (by simp), if_pos hp]
      simp [components, hname]

theorem filterMap_dropSteps (n : Nat) (segments : List Segment) :
    (dropSteps n segments).filterMap stepOf = (segments.filterMap stepOf).drop n := by
  fun_induction dropSteps n segments with
  | case1 => simp
  | case2 s others hnone ih => simpa [hnone] using ih
  | case3 s others hsome => simp
  | case4 n s others hnone ih => simpa [hnone] using ih
  | case5 n s others hsome ih =>
      obtain ⟨step, hstep⟩ := Option.ne_none_iff_exists'.mp hsome
      simpa [hstep] using ih

/-- The way from a base on to a path is what the path has more. -/
theorem relativeTo?_steps {base relative : FilePath} (hbase : base.components ≠ [])
    (h : p.relativeTo? base = some relative) : relative.rooted = false ∧
      p.components = base.components ++ relative.segments.filterMap stepOf := by
  unfold relativeTo? at h
  split at h
  case isFalse => cases h
  case isTrue hbelow =>
    obtain ⟨steps, hsteps⟩ := isAtOrBelow_iff.mp hbelow
    cases h
    refine ⟨rfl, ?_⟩
    have hhead : p.headComponents.length ≤ base.components.length :=
      Nat.le_trans p.headComponents_length_le (List.length_pos_iff.mpr hbase)
    -- The steps of the base are counted from the beginning, those of the segments after it.
    have hdrop : p.components.drop base.components.length =
        (p.segments.filterMap stepOf).drop
          (base.components.length - p.headComponents.length) := by
      rw [show p.components = p.headComponents ++ p.segments.filterMap stepOf from rfl,
        List.drop_append, List.drop_eq_nil_of_le hhead, List.nil_append]
    rw [← hsteps, List.drop_left] at hdrop
    rw [trimmed, filterMap_trimSegments, filterMap_dropSteps, ← hdrop, hsteps]

theorem relativeTo?_isSome {base : FilePath} (h : p.isAtOrBelow base = true) :
    (p.relativeTo? base).isSome = true := by
  unfold relativeTo?
  rw [if_pos h]
  split <;> rfl

/-! ### The path above -/

/-- What is left when segments without meaning have gone ends in one that means something. -/
theorem stepOf_of_trimSegments {hereCounts : Bool} {segments before : List Segment} {s : Segment}
    (h : trimSegments hereCounts segments = before ++ [s]) :
    (∃ step, stepOf s = some step) ∨ hereCounts = true ∧ before = [] ∧ s = ['.'] := by
  induction segments generalizing hereCounts before with
  | nil => simp [trimSegments] at h
  | cons first others ih =>
      simp only [trimSegments] at h
      split at h
      · simp at h
      · rename_i hkept
        cases before with
        | nil =>
            simp only [List.nil_append, List.cons.injEq] at h
            obtain ⟨rfl, hnil⟩ := h
            cases hstep : stepOf first with
            | some step => exact .inl ⟨step, rfl⟩
            | none =>
                have hhere := Classical.not_not.mp fun hno => hkept ⟨hnil, hstep, hno⟩
                exact .inr ⟨hhere.1, rfl, hhere.2⟩
        | cons b before =>
            simp only [List.cons_append, List.cons.injEq] at h
            rcases ih h.2 with hstep | ⟨hfalse, -⟩
            · exact .inl hstep
            · cases hfalse

theorem stepOf_ne_root (s : Segment) : stepOf s ≠ some .root := by
  unfold stepOf
  (repeat' split) <;> simp

/-- A path has one step more than its parent, which is not the one to the root. -/
theorem exists_step_of_parent? (h : p.parent? = some q) :
    ∃ step, step ≠ .root ∧ p.components = q.components ++ [step] := by
  unfold parent? at h
  split at h
  · cases h
  · rename_i first others hsegments
    simp only [Option.some.injEq] at h
    obtain ⟨before, s, hlast⟩ := List.eq_nil_or_concat (first :: others) |>.resolve_left (by simp)
    rw [List.concat_eq_append] at hlast
    rw [← h, components_trimmed, hlast, ← components_trimmed p, List.dropLast_concat]
    have hrooted : p.trimmed.rooted = p.rooted := rfl
    rw [components, components, headComponents, headComponents, hsegments, hlast, hrooted]
    rw [trimmed] at hsegments
    rcases stepOf_of_trimSegments (hsegments.trans hlast) with ⟨step, hstep⟩ | ⟨hhere, rfl, rfl⟩
    · refine ⟨step, fun hroot => stepOf_ne_root s (hroot ▸ hstep), ?_⟩
      -- A segment that means something wherever it stands is no dot.
      have hdot : s ≠ ['.'] := by
        rintro rfl
        cases hstep
      have hsteps : (before ++ [s]).filterMap stepOf = before.filterMap stepOf ++ [step] := by
        simp [hstep]
      rw [hsteps, ← List.append_assoc]
      cases before <;> simp [hdot]
    · have hrelative : p.rooted = false := by simpa using hhere
      exact ⟨.here, by simp, by simp [hrelative, stepOf]⟩

theorem components_parent (h : p.parent? = some q) :
    ∃ step, p.components = q.components ++ [step] := by
  obtain ⟨step, -, hstep⟩ := exists_step_of_parent? h
  exact ⟨step, hstep⟩

/-- A path whose last step is not the one to the root has a parent, which is without that step. -/
theorem parent?_of_last {steps : List Component} {step : Component}
    (h : p.components = steps ++ [step]) (hstep : step ≠ .root) :
    ∃ q, p.parent? = some q ∧ q.components = steps := by
  cases hparent : p.parent? with
  | none =>
      have hnone : p.trimmed.segments = [] := by
        unfold parent? at hparent
        split at hparent
        · assumption
        · cases hparent
      -- Without segments there is no step but the one to the root.
      rw [← components_trimmed, components, headComponents, hnone] at h
      have hlast := congrArg List.getLast? h
      cases hrooted : p.trimmed.rooted with
      | false => simp [hrooted] at hlast
      | true =>
          have hroot : .root = step := by simpa [hrooted] using hlast
          exact absurd hroot.symm hstep
  | some q =>
      obtain ⟨last, hlast⟩ := components_parent hparent
      exact ⟨q, rfl, (List.append_inj' (hlast.symm.trans h) rfl).1⟩

/-- Only the first step of a way can be the one to the root. -/
theorem last_ne_root {steps : List Component} {step : Component}
    (h : p.components = steps ++ [step]) (hsteps : steps ≠ []) : step ≠ .root := by
  rintro rfl
  have hsegments : .root ∉ p.segments.filterMap stepOf := by
    intro hmem
    obtain ⟨s, -, hs⟩ := List.mem_filterMap.mp hmem
    exact stepOf_ne_root s hs
  have hlast : p.components.getLast? = some .root := by simp [h]
  have hhead := p.headComponents_length_le
  rw [components] at h hlast
  rcases List.eq_nil_or_concat (p.segments.filterMap stepOf) with hnil | ⟨before, last, hconcat⟩
  · rw [hnil, List.append_nil] at h
    have hlength := congrArg List.length h
    have hpos := List.length_pos_iff.mpr hsteps
    simp only [List.length_append, List.length_singleton] at hlength
    omega
  · rw [hconcat, List.concat_eq_append, ← List.append_assoc, List.getLast?_concat] at hlast
    cases hlast
    exact hsegments (by simp [hconcat])

/-- A path of several steps has a parent, which is without the last step. -/
theorem parent?_of_components {steps : List Component} {step : Component}
    (h : p.components = steps ++ [step]) (hsteps : steps ≠ []) :
    ∃ q, p.parent? = some q ∧ q.components = steps :=
  parent?_of_last h (last_ne_root h hsteps)

/-- Above a path without a parent there is no other one. -/
theorem eq_of_parent?_eq_none (h : p.parent? = none) (hq : q.components ≠ [])
    (hbegins : q.components <+: p.components) : q.components = p.components := by
  obtain ⟨rest, hrest⟩ := hbegins
  rcases List.eq_nil_or_concat rest with rfl | ⟨steps, step, rfl⟩
  · rw [← hrest, List.append_nil]
  · rw [List.concat_eq_append, ← List.append_assoc] at hrest
    obtain ⟨parent, hsome, -⟩ := parent?_of_components hrest.symm (by simp [hq])
    rw [h] at hsome
    cases hsome

/-- Going up from a path drops steps at its end. -/
theorem components_prefix_of_mem_ancestors (h : q ∈ p.ancestors) :
    q.components <+: p.components := by
  fun_induction ancestors p with
  | case1 p hparent =>
      obtain rfl := List.mem_singleton.mp h
      exact List.prefix_rfl
  | case2 p parent hparent ih =>
      rcases List.mem_cons.mp h with rfl | h
      · exact List.prefix_rfl
      · obtain ⟨step, hstep⟩ := components_parent hparent
        rw [hstep]
        exact (ih h).trans (List.prefix_append _ _)

/-- A beginning of a way is a way that some path describes. -/
theorem exists_components {steps rest : List Component} (h : p.components = steps ++ rest)
    (hsteps : steps ≠ []) : ∃ q : FilePath, q.components = steps := by
  induction rest using List.reverseRecOn generalizing p with
  | nil => exact ⟨p, by simpa using h⟩
  | append_singleton rest last ih =>
      rw [← List.append_assoc] at h
      obtain ⟨q, -, hq⟩ := parent?_of_components h (by simp [hsteps])
      exact ih hq

/-! ### The empty path -/

theorem isEmpty_trimmed (h : p.trimmed.components = []) : p.trimmed.isEmpty = true := by
  obtain ⟨rooted, segments⟩ := p
  rw [components, List.append_eq_nil_iff, headComponents] at h
  obtain ⟨hhead, hsteps⟩ := h
  cases rooted with
  | true => simp [trimmed] at hhead
  | false =>
      -- The last segment that is left would mean something.
      have hnil : trimSegments true segments = [] := by
        by_contra hne
        obtain ⟨before, s, hlast⟩ := List.eq_nil_or_concat _ |>.resolve_left hne
        rw [List.concat_eq_append] at hlast
        rcases stepOf_of_trimSegments hlast with ⟨step, hstep⟩ | ⟨-, rfl, rfl⟩
        · simp [trimmed, hlast, hstep] at hsteps
        · simp [trimmed, hlast] at hhead
      simp [trimmed, isEmpty, hnil]

/-- The only string that spells a way of no steps is the empty one. -/
theorem isEmpty_ofString {s : String} (h : (ofString s).components = []) :
    (ofString s).isEmpty = true := by
  unfold ofString at h ⊢
  split at h
  · simp [components, headComponents] at h
  · rename_i text hslash
    cases htext : s.toList with
    | nil => rfl
    | cons c rest =>
        have hc : c ≠ '/' := by
          rintro rfl
          exact hslash rest htext
        obtain ⟨first, others, hfirst⟩ : ∃ first others,
            splitSlash (c :: rest) = (c :: first) :: others := by
          rw [splitSlash, if_neg hc]
          split <;> exact ⟨_, _, rfl⟩
        rw [htext, hfirst, components, List.append_eq_nil_iff, headComponents,
          List.filterMap_cons] at h
        obtain ⟨hhead, hsteps⟩ := h
        cases hstep : stepOf (c :: first) with
        | some step => simp [hstep] at hsteps
        | none =>
            have hdot : c :: first = ['.'] := by
              by_contra hdot
              simp only [stepOf, hdot, reduceCtorEq, or_self, if_false] at hstep
              split at hstep <;> cases hstep
            simp [hdot] at hhead

theorem isEmpty_of_parent? (h : p.parent? = some q) (hq : q.components = []) :
    q.isEmpty = true := by
  unfold parent? at h
  split at h
  · cases h
  · cases h
    exact isEmpty_trimmed hq

/-- On the way up from what a string spells, only the empty path has no steps. -/
theorem isEmpty_of_mem_ancestors (hp : p.components = [] → p.isEmpty = true)
    (hq : q ∈ p.ancestors) (hnil : q.components = []) : q.isEmpty = true := by
  fun_induction ancestors p with
  | case1 p hparent =>
      obtain rfl := List.mem_singleton.mp hq
      exact hp hnil
  | case2 p parent hparent ih =>
      rcases List.mem_cons.mp hq with rfl | hq
      · exact hp hnil
      · exact ih (isEmpty_of_parent? hparent) hq

/-! ### Paths above a path -/

/-- The way to `p` goes through `above`, and on from there. -/
def IsAbove (above p : FilePath) : Prop :=
  above.components ≠ [] ∧ above.components <+: p.components ∧ above.components ≠ p.components

instance (above p : FilePath) : Decidable (above.IsAbove p) :=
  inferInstanceAs (Decidable (_ ∧ _ ∧ _))

/-- The way to `p` goes through `q` or ends there. -/
def LeadsTo (q p : FilePath) : Prop := q.components ≠ [] ∧ q.components <+: p.components

instance (q p : FilePath) : Decidable (q.LeadsTo p) := inferInstanceAs (Decidable (_ ∧ _))

/-- The path is an entry of the directory: its way has one step more, not the one to the root. -/
def IsEntryOf (p dir : FilePath) : Prop :=
  ∃ step, step ≠ .root ∧ p.components = dir.components ++ [step]

theorem IsAbove.components_ne (h : above.IsAbove p) : p.components ≠ [] := by
  intro hnil
  exact h.1 (List.prefix_nil.mp (hnil ▸ h.2.1))

theorem IsAbove.length_lt (h : above.IsAbove p) : above.components.length < p.components.length :=
  lt_of_le_of_ne h.2.1.length_le fun heq => h.2.2 (h.2.1.eq_of_length heq)

theorem IsAbove.extend (h : above.IsAbove p) (hpq : p.components <+: q.components) :
    above.IsAbove q := by
  refine ⟨h.1, h.2.1.trans hpq, ?_⟩
  intro heq
  have hlt := h.length_lt
  have hle := hpq.length_le
  rw [heq] at hlt
  omega

theorem IsAbove.same_eq_false (h : above.IsAbove p) : above.same p = false := by
  rw [← Bool.not_eq_true, same_iff]
  exact h.2.2

theorem IsAbove.congr_left (hsame : q.same above = true) (h : above.IsAbove p) : q.IsAbove p := by
  rw [same_iff] at hsame
  rw [IsAbove, hsame]
  exact h

/-! ### The order of paths -/

/-- Two entries of a directory are in the order of their last steps. -/
theorem isBefore_of_append {steps : List Component} {a b : Component}
    (hp : p.components = steps ++ [a]) (hq : q.components = steps ++ [b])
    (h : a.orderKey < b.orderKey) : p.isBefore q = true := by
  rw [isBefore_iff, orderKey, orderKey, hp, hq, List.map_append, List.map_append]
  exact List.append_left_lt (List.Lex.rel h)

end FilePath

end CaseRunner

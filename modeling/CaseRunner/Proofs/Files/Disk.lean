import CaseRunner.Files.Disk
import CaseRunner.Proofs.Files.Activity
import CaseRunner.Proofs.Files.Path

/-!
# `CaseRunner.Proofs.Files.Disk`: what copying does at each place of a disk

A disk has no links, so a path that leads anywhere leads to the place that it spells: names lead
down and two dots lead up (`placeOf`). What copying a file does is told by what there is at a
place afterwards (`find?`), for all places at once:

* `makeDirs_changedAt`: directories are added only where there was nothing.
* `copyFile_changedAt`: a file is copied to one place, whether that goes well or not, and what
  there is at all other places stays.
-/

set_option autoImplicit false

namespace CaseRunner.Files.Disk

open FilePath (stepOf)

variable {d next : Disk} {path source target : FilePath} {place above q : Place} {name : Segment}

/-! ### Places -/

/-- Where a step leads from a place. -/
def stepTo (place : Place) : Component → Place
  | .up => place.dropLast
  | .name name => place ++ [name]
  | _ => place

/-- The place that a path spells. -/
def placeOf (d : Disk) (path : FilePath) : Place :=
  (path.segments.filterMap stepOf).foldl stepTo (d.start path)

/-- The place that a path spells depends on the working directory alone. -/
theorem placeOf_congr (h : next.working = d.working) (path : FilePath) :
    next.placeOf path = d.placeOf path := by
  rw [placeOf, placeOf, start, start, h]

/-- Names lead down. -/
theorem foldl_stepTo_names (names : List Segment) (place : Place) :
    (names.map Component.name).foldl stepTo place = place ++ names := by
  induction names generalizing place with
  | nil => simp
  | cons name names ih => simp [stepTo, ih]

/-- A path that goes on from another one with names leads further down. -/
theorem placeOf_join {relative : FilePath} {names : List Segment} (htarget : target.isEmpty = false)
    (hrelative : relative.rooted = false)
    (hnames : relative.segments.filterMap stepOf = names.map Component.name) :
    d.placeOf (target.join relative) = d.placeOf target ++ names := by
  rw [placeOf, FilePath.steps_join htarget hrelative, start,
    FilePath.rooted_join htarget hrelative, List.foldl_append, hnames, foldl_stepTo_names]
  rfl

theorem eq_of_checkedName {checked : Segment} (h : checkedName name = .ok checked) :
    checked = name := by
  unfold checkedName at h
  split at h <;> cases h
  rfl

/-- A step leads where it is spelled to lead, or nowhere. -/
theorem eq_of_step {segment : Segment} (h : d.step place segment = .ok q) :
    q = (stepOf segment).toList.foldl stepTo place := by
  unfold step at h
  split at h
  case isFalse => cases h
  case isTrue =>
    split at h
    case h_1 hup =>
      cases h
      rw [hup]
      rfl
    case h_2 name hname =>
      obtain ⟨checked, hchecked, hfound⟩ := ok_of_bind h
      obtain rfl := eq_of_checkedName hchecked
      rw [hname]
      split at hfound <;> cases hfound
      rfl
    case h_3 hup hname =>
      -- An empty segment or a dot: the walk stays where it is.
      cases h
      cases hstep : stepOf segment with
      | none => rfl
      | some step =>
          cases step with
          | up => exact absurd hstep hup
          | name name => exact absurd hstep (hname name)
          | root | here => rfl

/-- A walk leads where it is spelled to lead, or nowhere. -/
theorem eq_of_steps {segments : List Segment} (h : segments.foldlM d.step place = .ok q) :
    q = (segments.filterMap stepOf).foldl stepTo place := by
  induction segments generalizing place with
  | nil =>
      cases h
      rfl
  | cons segment segments ih =>
      rw [List.foldlM_cons] at h
      obtain ⟨reached, hstep, hsteps⟩ := ok_of_bind h
      rw [ih hsteps, eq_of_step hstep, List.filterMap_cons]
      cases stepOf segment <;> rfl

/-- Empty segments are no steps. -/
theorem filterMap_filter_stepOf (segments : List Segment) :
    (segments.filter (!·.isEmpty)).filterMap stepOf = segments.filterMap stepOf := by
  rw [List.filterMap_filter]
  congr 1
  funext s
  cases s <;> rfl

/-- A new entry has the place that its path spells. It is in a directory, and its name is one
that an entry can have. -/
theorem placeOf_eq_of_newPlace (h : d.newPlace path = .ok (some (above, name))) :
    d.placeOf path = above ++ [name] ∧ d.hasDir above = true ∧
      stepOf name = some (.name name) := by
  unfold newPlace at h
  split at h
  · cases h
  split at h
  · cases h
  obtain ⟨reached, hreached, h⟩ := ok_of_bind h
  split at h
  case h_1 last hlast =>
    split at h
    case isFalse => cases h
    case isTrue hdir =>
      obtain ⟨checked, hchecked, h⟩ := ok_of_bind h
      cases h
      obtain rfl := eq_of_checkedName hchecked
      -- The last segment is the name, and those before it lead to the directory.
      obtain ⟨segment, hsegment, hname⟩ := Option.bind_eq_some_iff.mp hlast
      obtain rfl := FilePath.eq_of_stepOf hname
      obtain ⟨front, hfront⟩ := List.getLast?_eq_some_iff.mp hsegment
      refine ⟨?_, hdir, hname⟩
      rw [eq_of_steps hreached, placeOf, ← filterMap_filter_stepOf, hfront]
      simp [hname, stepTo]
  case h_2 =>
    obtain ⟨there, hthere, h⟩ := ok_of_bind h
    cases h

/-! ### Changes -/

/-- All entries have names that entries can have. -/
def Proper (d : Disk) : Prop :=
  ∀ entry ∈ d.entries, ∀ name ∈ entry.1, stepOf name = some (.name name)

theorem Proper.of_hasDir (h : d.Proper) (hdir : d.hasDir place = true) :
    ∀ name ∈ place, stepOf name = some (.name name) := by
  have hfind : d.find? place = some none := of_decide_eq_true hdir
  unfold find? at hfind
  split at hfind
  case isTrue hroot =>
    rw [hroot]
    simp
  case isFalse =>
    obtain ⟨entry, hentry, -⟩ := Option.map_eq_some_iff.mp hfind
    have hat : entry.1 = place := by simpa using List.find?_some hentry
    exact hat ▸ h entry (List.mem_of_find?_eq_some hentry)

theorem find?_put_of_ne (contents : Option Bytes) (hq : q ≠ place) :
    (d.put place contents).find? q = d.find? q := by
  have hother : ¬place = q := fun heq => hq heq.symm
  rw [find?, find?, put, List.find?_cons_of_neg (by simpa using hother), List.find?_filter]
  congr 3
  funext entry
  by_cases hentry : entry.1 = q <;> simp [hentry, hq]

/-- Of two things put at one place the second one stays. -/
theorem put_put (d : Disk) (place : Place) (first second : Option Bytes) :
    (d.put place first).put place second = d.put place second := by
  simp [put]

theorem Proper.put (h : d.Proper) (contents : Option Bytes)
    (hplace : ∀ name ∈ place, stepOf name = some (.name name)) : (d.put place contents).Proper := by
  intro entry hentry
  rcases List.mem_cons.mp hentry with rfl | hentry
  · exact hplace
  · exact h entry (List.mem_filter.mp hentry).1

/-- The disk `next` is `d` with changes at one place, and with more entries. -/
structure ChangedAt (place : Place) (d next : Disk) : Prop where
  /-- The working directory is the same. -/
  working : next.working = d.working
  /-- The names are still such that entries can have them. -/
  proper : d.Proper → next.Proper
  /-- What there was at another place is still there. -/
  kept : ∀ q, q ≠ place → ∀ there, d.find? q = some there → next.find? q = some there

theorem ChangedAt.refl (place : Place) (d : Disk) : ChangedAt place d d :=
  ⟨rfl, id, fun _ _ _ => id⟩

theorem ChangedAt.trans {between : Disk} (h : ChangedAt place d between)
    (hnext : ChangedAt place between next) : ChangedAt place d next where
  working := hnext.working.trans h.working
  proper hd := hnext.proper (h.proper hd)
  kept q hq there hthere := hnext.kept q hq there (h.kept q hq there hthere)

/-- What is put where a new entry would be changes that place. -/
theorem changedAt_put (h : d.newPlace path = .ok (some (above, name)))
    (contents : Option Bytes) :
    ChangedAt (above ++ [name]) d (d.put (above ++ [name]) contents) := by
  obtain ⟨-, hdir, hname⟩ := placeOf_eq_of_newPlace h
  refine ⟨rfl, fun hd => hd.put contents fun s hs => ?_, fun q hq there hthere => ?_⟩
  · rcases List.mem_append.mp hs with habove | hlast
    · exact hd.of_hasDir hdir s habove
    · rwa [List.mem_singleton.mp hlast]
  · rwa [find?_put_of_ne contents hq]

/-- A directory is made where there is nothing. -/
theorem makeDir_changedAt (h : d.makeDir path = .ok next) (place : Place) :
    ChangedAt place d next := by
  obtain ⟨_ | ⟨above, name⟩, hnew, h⟩ := ok_of_bind h
  · cases h
  · dsimp only at h
    split at h
    · cases h
    · rename_i hnone
      cases h
      -- There was nothing at the new place, so what there was is elsewhere.
      have hput := changedAt_put hnew none
      refine ⟨hput.working, hput.proper, fun q _ there hthere => hput.kept q ?_ there hthere⟩
      rintro rfl
      rw [hnone] at hthere
      cases hthere

/-- Making directories leaves all that there is, also if it fails half way. -/
theorem makeDirs_changedAt (d : Disk) (path : FilePath) (place : Place) :
    ChangedAt place d (d.makeDirs path).2 := by
  fun_induction makeDirs d path with
  | case2 path hpath next hmake => exact makeDir_changedAt hmake place
  | case4 path hpath hmissing parent hparent cause next habove ih =>
      rw [habove] at ih
      exact ih
  | case5 path hpath hmissing parent hparent done above habove next hmake ih =>
      rw [habove] at ih
      exact ih.trans (makeDir_changedAt hmake place)
  | case6 path hpath hmissing parent hparent done above habove cause hmake ih =>
      rw [habove] at ih
      exact ih
  | _ => exact .refl place _

/-- A file that is opened for writing is at the place that its path spells. -/
theorem openNew_cases (h : d.openNew path = .ok (place, next)) :
    place = d.placeOf path ∧ ∃ above name, d.newPlace path = .ok (some (above, name)) ∧
      place = above ++ [name] ∧ next = d.put place (some []) := by
  obtain ⟨_ | ⟨above, name⟩, hnew, h⟩ := ok_of_bind h
  · cases h
  · dsimp only at h
    split at h
    · cases h
    · cases h
      exact ⟨(placeOf_eq_of_newPlace hnew).1.symm, above, name, hnew, rfl, rfl⟩

theorem copyContents_changedAt (source target : FilePath) (d : Disk) :
    ChangedAt (d.placeOf target) d (copyContents source target d).2 := by
  unfold copyContents
  split
  · exact .refl _ d
  · split
    · exact .refl _ d
    · split
      · exact .refl _ d
      · rename_i place opened hopen
        obtain ⟨hplace, above, name, hnew, rfl, rfl⟩ := openNew_cases hopen
        rw [← hplace]
        -- The file is empty now, and stays so if the source cannot be read.
        split
        · exact changedAt_put hnew _
        · rw [put_put]
          exact changedAt_put hnew _

theorem run_createDir (path : FilePath) (d : Disk) : (createDir path).run.run d =
    ((d.makeDirs path).1.mapError (.system (some (.createDir path))), (d.makeDirs path).2) := rfl

/-- Copying a file changes the place that its target spells, and no other. -/
theorem copyFile_changedAt (source target : FilePath) (d : Disk) :
    ChangedAt (d.placeOf target) d ((copyFile source target).run.run d).2 := by
  cases hparent : target.parent? with
  | none =>
      have hrun : ((copyFile source target).run.run d).2 = (copyContents source target d).2 := by
        rw [copyFile, hparent]
        rfl
      rw [hrun]
      exact copyContents_changedAt source target d
  | some parent =>
      have habove := makeDirs_changedAt d parent (d.placeOf target)
      have hrun : ((copyFile source target).run.run d).2 =
          match (d.makeDirs parent).1 with
          | .error _ => (d.makeDirs parent).2
          | .ok _ => (copyContents source target (d.makeDirs parent).2).2 := by
        rw [copyFile, hparent]
        show ((createDir parent >>= _).run.run d).2 = _
        rw [Change.run_bind, run_createDir]
        cases (d.makeDirs parent).1 <;> rfl
      rw [hrun]
      split
      · exact habove
      · have hcopy := copyContents_changedAt source target (d.makeDirs parent).2
        rw [placeOf_congr habove.working] at hcopy
        exact habove.trans hcopy

/-- What is listed in a directory is below it. -/
theorem list_below {entries : List FilePath} (hd : d.Proper) (h : d.list path = .ok entries) :
    ∀ entry ∈ entries, ∃ name, entry = path.child name ∧ stepOf name = some (.name name) := by
  obtain ⟨place, -, h⟩ := ok_of_bind h
  cases h
  intro entry hentry
  obtain ⟨name, hname, rfl⟩ := List.mem_map.mp hentry
  refine ⟨name, rfl, ?_⟩
  rw [namesIn, List.mem_mergeSort, List.mem_filterMap] at hname
  obtain ⟨there, hthere, hlast⟩ := hname
  split at hlast
  · exact hd there hthere name (List.mem_of_getLast? hlast)
  · cases hlast

end CaseRunner.Files.Disk

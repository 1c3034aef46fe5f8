import CaseRunner.Proofs.Files.Footprint
import CaseRunner.Proofs.Isolation.Directories
import CaseRunner.Proofs.Isolation.Keeping

/-!
# `CaseRunner.Proofs.Isolation.Footprint`: which files a case run has to do with

A case run empties its two directories and copies them to their targets. Whatever becomes of its
calls and of the changes of files, and whenever the user interrupts, all other files stay, and
none comes (`runCase_touches`). A run that the tool starts may write files of its own, which are
told apart by the record of that run. If the case run ends before it has captured the scope, it
has not changed the files at all.

`Touches` says this of two worlds. It holds of a whole activity if it holds of its parts
(`Affects`), and the parts that deal with neither files nor runs are known by the views that
they keep.
-/

set_option autoImplicit false

namespace CaseRunner.Isolation

open CaseRunner.Config (CaseRequest)
open CaseRunner.Files (CopyBack FileStore Outside Tree copyPlaces)
open CaseRunner.Remote
open CaseRunner.Remote.Action

/-! ### Places -/

/-- Where runs with these records write files. -/
def written (s : Surroundings) (records : List RunRecord) : List FilePath :=
  records.flatMap fun record => s.products.map (Product.place record)

/-- The directories of a case run. -/
def ownDirs (request : CaseRequest) : List FilePath :=
  [Tree.absolute request.dataDir, Tree.absolute request.reportDir]

/-- The way to keep artifacts: they are copied to a destination if there is one. -/
def copyBackTo (depth : Nat) : Option FilePath → CopyBack Tree
  | none => .skip
  | some destination => .into depth destination

/-- The places of a case run: its directories, and where they are copied. -/
def ownPlaces (destination : Option FilePath) (request : CaseRequest) : List FilePath :=
  ownDirs request ++ destination.toList.flatMap fun destination =>
    copyPlaces destination (ownDirs request)

variable {s : Surroundings} {places others : List FilePath} {w w₁ w' : World Tree}

/-- Between two worlds files are altered only at the places, and where the runs write that have
been started. -/
def Touches (s : Surroundings) (places : List FilePath) (w w' : World Tree) : Prop :=
  ∃ records, w'.runs = w.runs ++ records ∧
    Tree.AltersOnly (places ++ written s records) w.files w'.files

theorem touches_of_files (hruns : w'.runs = w.runs)
    (h : Tree.AltersOnly places w.files w'.files) : Touches s places w w' :=
  ⟨[], by rw [hruns, List.append_nil], h.mono (List.subset_append_left _ _)⟩

theorem Touches.refl (s : Surroundings) (places : List FilePath) (w : World Tree) :
    Touches s places w w := touches_of_files rfl (.refl places w.files)

theorem Touches.trans (h : Touches s places w w₁) (hnext : Touches s places w₁ w') :
    Touches s places w w' := by
  obtain ⟨records, hruns, halters⟩ := h
  obtain ⟨more, hruns', halters'⟩ := hnext
  refine ⟨records ++ more, by rw [hruns', hruns, List.append_assoc], ?_⟩
  have hwritten : written s (records ++ more) = written s records ++ written s more :=
    List.flatMap_append
  rw [hwritten]
  refine (halters.mono ?_).trans (halters'.mono ?_)
  · rw [← List.append_assoc]
    exact List.subset_append_left _ _
  · exact List.append_subset.mpr ⟨List.subset_append_left _ _,
      List.Subset.trans (List.subset_append_right _ _) (List.subset_append_right _ _)⟩

theorem Touches.mono (h : Touches s places w w') (hsubset : places ⊆ others) :
    Touches s others w w' := by
  obtain ⟨records, hruns, halters⟩ := h
  refine ⟨records, hruns, halters.mono (List.append_subset.mpr ⟨?_, ?_⟩)⟩
  · exact List.Subset.trans hsubset (List.subset_append_left _ _)
  · exact List.subset_append_right _ _

/-- A run that is started touches only what it writes itself. -/
theorem touches_run (s : Surroundings) (places : List FilePath) (record : RunRecord)
    (w : World Tree) :
    Touches s places w
      (s.products.foldl (World.produce record) { w with runs := w.runs ++ [record] }) := by
  have hwrites (products : List Product) (hproducts : products ⊆ s.products) (t : Tree) :
      Tree.AltersOnly (written s [record]) t (deposited record products t) := by
    induction products generalizing t with
    | nil => exact .refl _ _
    | cons product products ih =>
        obtain ⟨hproduct, hrest⟩ := List.cons_subset.mp hproducts
        have hplace : product.place record ∈ written s [record] := by
          simpa [written] using ⟨product, hproduct, rfl⟩
        refine .trans ?_ (ih hrest _)
        exact t.altersOnly_addFile hplace (FilePath.isAtOrBelow_iff.mpr List.prefix_rfl) _
  rw [foldl_produce]
  refine ⟨[record], rfl, ?_⟩
  exact (hwrites s.products (List.Subset.refl _) _).mono (List.subset_append_right _ _)

/-! ### Activities -/

/-- Whatever comes of the activity, it touches only the places, and if it gives a value, that is
as `Q` says. -/
def Affects {ε α : Type} (s : Surroundings) (places : List FilePath) (Q : α → Prop)
    (x : Action Tree ε α) : Prop :=
  ∀ ⦃w r w'⦄, x.outcome s w = some (r, w') → Touches s places w w' ∧ ∀ a, r = .ok a → Q a

section
variable {ε ε' α β : Type} {Q : α → Prop} {R : β → Prop} {x : Action Tree ε α}

theorem affects_of_keeps (h : Keeps filesAndRuns x) : Affects s places (fun _ => True) x := by
  intro w r w' houtcome
  have hsame := h houtcome
  refine ⟨touches_of_files (congrArg Prod.snd hsame) ?_, fun _ _ => trivial⟩
  rw [show w'.files = w.files from congrArg Prod.fst hsame]
  exact .refl _ _

theorem affects_pure {a : α} (h : Q a) : Affects s places Q (pure a : Action Tree ε α) := by
  intro w r w' houtcome
  cases houtcome
  exact ⟨.refl s places w, fun b hb => Except.ok.inj hb ▸ h⟩

theorem Affects.bind {f : α → Action Tree ε β} (hx : Affects s places Q x)
    (hf : ∀ a, Q a → Affects s places R (f a)) : Affects s places R (x >>= f) := by
  intro w r w' houtcome
  rcases bind_cases houtcome with ⟨a, w₁, hfirst, hsecond⟩ | ⟨e, hfirst, rfl⟩
  · obtain ⟨htouches, ha⟩ := hx hfirst
    obtain ⟨htouches', hr⟩ := hf a (ha a rfl) hsecond
    exact ⟨htouches.trans htouches', hr⟩
  · exact ⟨(hx hfirst).1, nofun⟩

/-- What is done on a condition only, and then what is done in any case. -/
theorem Affects.sometimes {condition : Prop} [Decidable condition] {y : Action Tree ε Unit}
    {f : Unit → Action Tree ε β} (hy : Affects s places (fun _ => True) y)
    (hf : ∀ u, Affects s places R (f u)) :
    Affects s places R (if condition then y >>= f else f ()) := by
  split
  · exact hy.bind fun u _ => hf u
  · exact hf ()

theorem Affects.attempt (hx : Affects s places Q x) :
    Affects s places (fun result => ∀ a, result = .ok a → Q a)
      (Action.attempt x : Action Tree ε' (Except ε α)) := by
  intro w r w' houtcome
  rw [outcome_attempt, Option.map_eq_some_iff] at houtcome
  obtain ⟨⟨result, w₁⟩, hresult, heq⟩ := houtcome
  cases heq
  obtain ⟨htouches, hq⟩ := hx hresult
  exact ⟨htouches, fun _ heq => Except.ok.inj heq ▸ hq⟩

theorem Affects.mapFailure {g : ε → ε'} (hx : Affects s places Q x) :
    Affects s places Q (Action.mapFailure g x) := by
  intro w r w' houtcome
  obtain ⟨result, hresult, rfl⟩ := mapFailure_cases houtcome
  obtain ⟨htouches, hq⟩ := hx hresult
  refine ⟨htouches, fun a ha => hq a ?_⟩
  cases result with
  | error e => cases ha
  | ok b =>
      cases ha
      rfl

theorem Affects.mono (h : Affects s places Q x) (hsubset : places ⊆ others) :
    Affects s others Q x := fun _ _ _ houtcome =>
  ⟨(h houtcome).1.mono hsubset, (h houtcome).2⟩

theorem affects_note {severity : Journal.Severity} {origin : Journal.Origin} {message : String}
    {fields : List (String × String)} :
    Affects s places (fun _ => True)
      (note severity origin message fields : Action Tree ε Unit) :=
  affects_of_keeps (keeps_note detached_filesAndRuns.timeless _ _ _ _)

end

theorem affects_ofFiles {α : Type} {x : FileAction Tree α}
    (h : ∀ before, FileAction.Keeps (Tree.AltersOnly places before) x) :
    Affects s places (fun _ => True) (ofFiles x) := by
  intro w r w' houtcome
  rw [outcome_ofFiles, Option.map_eq_some_iff] at houtcome
  obtain ⟨⟨result, workspace⟩, hrun, heq⟩ := houtcome
  cases heq
  exact ⟨touches_of_files rfl (h w.files (.refl _ _) hrun), fun _ _ => trivial⟩

/-! ### The parts of a case run -/

variable {project : ProjectRef} {config : ConfigRef} {testCase : TestCase} {scope : Scope}
  {request : CaseRequest}

/-- A directory is emptied, and is the absolute path. -/
theorem affects_prepareDir (dir : FilePath) (what : String) (hdir : Tree.absolute dir ∈ places) :
    Affects s places (· = Tree.absolute dir) (ofFiles (prepareDir dir what)) := by
  have hfiles (before : Tree) : FileAction.Keeps (Tree.AltersOnly places before)
      (prepareDir dir what) := by
    refine FileAction.keeps_tryAsk_bind fun files path _ habsolute => ?_
    obtain rfl : Tree.absolute dir = path := Except.ok.inj habsolute
    refine (FileAction.keeps_note ..).bind fun _ => ?_
    refine (FileAction.keeps_change fun t ht => ?_).bind fun _ => ?_
    · exact ht.change fun next => Tree.altersOnly_createDir
    refine (FileAction.keeps_change fun t ht => ?_).bind fun _ => FileAction.keeps_pure _
    exact ht.change fun next hnext => Tree.altersOnly_clearDir hnext hdir
  intro w r w' houtcome
  refine ⟨(affects_ofFiles hfiles houtcome).1, ?_⟩
  rintro path rfl
  obtain ⟨-, ⟨_, heq, hprepared⟩ | ⟨⟨_, heq⟩, -⟩⟩ := prepareDir_cases houtcome
  · cases heq
    exact hprepared.find?.1
  · cases heq

theorem affects_isolateData (hdir : Tree.absolute request.dataDir ∈ places) :
    Affects s places (· = Tree.absolute request.dataDir) (isolateData config request) := by
  refine (affects_prepareDir request.dataDir _ hdir).bind fun dir hq => ?_
  refine affects_note.bind fun _ _ => ?_
  have hset : Affects s places (fun _ => True)
      (setDataDir config dir.text : Action Tree RemoteFault Unit) :=
    affects_of_keeps (keeps_setDataDir detached_filesAndRuns config dir.text)
  exact hset.mapFailure.bind fun _ _ => affects_pure hq

theorem affects_isolateReport (hdir : Tree.absolute request.reportDir ∈ places) :
    Affects s places (· = Tree.absolute request.reportDir) (isolateReport config request) := by
  refine (affects_prepareDir request.reportDir _ hdir).bind fun dir hq => ?_
  refine affects_note.bind fun _ _ => ?_
  have hset : Affects s places (fun _ => True)
      (setReportDir config dir.text : Action Tree RemoteFault Unit) :=
    affects_of_keeps (keeps_setReportDir detached_filesAndRuns config dir.text)
  exact hset.mapFailure.bind fun _ _ => affects_pure hq

theorem affects_run : Affects s places (fun _ => True) (run config : Action Tree RemoteFault Nat) := by
  intro w r w' houtcome
  refine ⟨?_, fun _ _ => trivial⟩
  rcases perform_cases houtcome with heffect | ⟨v, fault, -, -, rfl⟩
  · simp only [outcome_bind, outcome_get, outcome_read, outcome_modify, outcome_pure,
      Option.bind_some, Option.some.injEq, Prod.mk.injEq] at heffect
    rw [← heffect.2]
    exact touches_run s places _ (w.withCall _)
  · exact touches_of_files rfl (.refl _ _)

theorem affects_startRun (set : TestSetRef) :
    Affects s places (fun _ => True) (startRun config testCase scope set request) := by
  have hadd : Affects s places (fun _ => True)
      (addTestCase set testCase : Action Tree RemoteFault Unit) :=
    affects_of_keeps (keeps_addTestCase detached_filesAndRuns set testCase)
  have hassign : Affects s places (fun _ => True)
      (assignAll set scope.items : Action Tree RemoteFault Unit) :=
    affects_of_keeps (keeps_assignAll detached_filesAndRuns set scope.items)
  refine Affects.mapFailure (hadd.bind fun _ _ => hassign.bind fun _ _ => ?_)
  exact affects_note.bind fun _ _ => affects_run

/-- The directories that were set are those of the request. -/
def SetsOwnDirs (request : CaseRequest) (progress : Progress) : Prop :=
  progress.applied.dirs ⊆ ownDirs request

theorem affects_orStop {α : Type} {applied : Applied} {Q : α → Prop}
    {step : Action Tree Failure α} {next : α → Action Tree Failure Progress}
    (happlied : applied.dirs ⊆ ownDirs request) (hstep : Affects s places Q step)
    (hnext : ∀ a, Q a → Affects s places (SetsOwnDirs request) (next a)) :
    Affects s places (SetsOwnDirs request) (orStop applied step next) := by
  refine hstep.attempt.bind fun result hresult => ?_
  cases result with
  | ok a => exact hnext a (hresult a rfl)
  | error failure => exact affects_pure happlied

theorem affects_changeAndRun :
    Affects s (ownDirs request) (SetsOwnDirs request)
      (changeAndRun project config testCase scope request) := by
  have hdata : Tree.absolute request.dataDir ∈ ownDirs request := by simp [ownDirs]
  have hreport : Tree.absolute request.reportDir ∈ ownDirs request := by simp [ownDirs]
  refine affects_orStop (by simp [Applied.dirs, Applied.nothing]) (affects_isolateData hdata) ?_
  rintro dataDir rfl
  have hfirst : [Tree.absolute request.dataDir] ⊆ ownDirs request := by simpa using hdata
  refine affects_orStop (by simpa [Applied.dirs, Applied.nothing] using hdata)
    (affects_isolateReport hreport) ?_
  rintro reportDir rfl
  have hboth : [Tree.absolute request.dataDir, Tree.absolute request.reportDir] ⊆
      ownDirs request := List.Subset.refl _
  refine affects_orStop hboth
    (affects_of_keeps (keeps_createTempSet detached_filesAndRuns project request)) fun set _ => ?_
  refine affects_orStop hboth (affects_startRun set) fun number _ => ?_
  refine (affects_of_keeps keeps_read).bind fun surroundings _ => ?_
  exact affects_orStop hboth
    (affects_of_keeps (keeps_awaitCompletion detached_filesAndRuns _ _ _)) fun _ _ =>
      affects_pure hboth

/-- Copying to a destination, or not at all. -/
theorem affects_copyBackTo (depth : Nat) (destination : Option FilePath) {dirs : List FilePath}
    (hdirs : dirs ⊆ ownDirs request) :
    Affects s (ownPlaces destination request) (fun _ => True)
      (ofFiles (copyBackTo depth destination dirs)) := by
  cases destination with
  | none => exact affects_ofFiles fun before => FileAction.keeps_note _ _ _ _
  | some destination =>
      refine Affects.mono (affects_ofFiles fun before =>
        Files.keeps_altersOnly_into before depth destination dirs) ?_
      have hplaces : copyPlaces destination dirs ⊆ copyPlaces destination (ownDirs request) :=
        List.filterMap_subset _ hdirs
      refine List.Subset.trans hplaces (List.Subset.trans ?_ (List.subset_append_right _ _))
      simp

theorem affects_compensate (depth : Nat) (destination : Option FilePath) {applied : Applied}
    (hdirs : applied.dirs ⊆ ownDirs request) :
    Affects s (ownPlaces destination request) (fun _ => True)
      (compensate (copyBackTo depth destination) project config scope applied) := by
  have hkeep : Affects s (ownPlaces destination request) (fun _ => True)
      (keepArtifacts (copyBackTo depth destination) applied.dirs) := by
    refine (affects_of_keeps (keeps_modify ?_)).bind fun _ _ => ?_
    · exact fun _ => rfl
    refine (affects_copyBackTo depth destination hdirs).attempt.bind fun result _ => ?_
    cases result with
    | ok => exact affects_pure trivial
    | error failure => exact affects_note
  refine (affects_of_keeps (keeps_restoreItems detached_filesAndRuns _ _)).bind fun _ _ => ?_
  refine hkeep.sometimes fun _ => ?_
  refine (affects_of_keeps (keeps_restoreDirectories detached_filesAndRuns scope config)).bind
    fun _ _ => ?_
  cases applied.tempTestSet with
  | none => exact affects_pure trivial
  | some set =>
      exact (affects_of_keeps (keeps_deleteTempSet detached_filesAndRuns project set)).bind
        fun _ _ => affects_pure trivial

theorem affects_runCase (depth : Nat) (destination : Option FilePath) :
    Affects s (ownPlaces destination request) (fun _ => True)
      (runCase (copyBackTo depth destination) project request) := by
  have hview := detached_filesAndRuns (σ := Tree)
  have hresolve : Affects s (ownPlaces destination request) (fun _ => True)
      (resolve project request : Action Tree Failure (ConfigRef × TestCase)) :=
    affects_of_keeps (keeps_resolve hview project request)
  refine hresolve.attempt.bind fun resolved _ => ?_
  cases resolved with
  | error failure => exact affects_note.bind fun _ _ => affects_pure trivial
  | ok found =>
      obtain ⟨config, testCase⟩ := found
      have hcapture : Affects s (ownPlaces destination request) (fun _ => True)
          (Scope.capture config : Action Tree RemoteFault Scope) :=
        affects_of_keeps (keeps_capture hview config)
      refine hcapture.attempt.bind fun captured _ => ?_
      cases captured with
      | error fault => exact affects_note.bind fun _ _ => affects_pure trivial
      | ok scope =>
          have hchange : Affects s (ownDirs request) (SetsOwnDirs request)
              (changeAndRun project config testCase scope request) := affects_changeAndRun
          refine (hchange.mono (List.subset_append_left _ _)).bind fun progress hdirs => ?_
          have hrest (ok : Bool) : Affects s (ownPlaces destination request) (fun _ => True)
              (show Action Tree Failure Bool from do
                let restored ← compensate (copyBackTo depth destination) project config scope
                  progress.applied
                return ok && restored) :=
            (affects_compensate depth destination hdirs).bind fun _ _ => affects_pure trivial
          cases progress.result with
          | ok => exact hrest true
          | error failure => exact affects_note.bind fun _ _ => hrest false

/-- Whatever comes of a case run, each file is there before if and only if it is there
afterwards, with the same bytes, and each directory that was there is there still. Excepted is
what is at or below one of the directories of the case run, or a place where one of them is
copied, and what a run has written that the tool has started. If the case run ends before the
scope is captured, the files are the same. -/
theorem runCase_touches {depth : Nat} {destination : Option FilePath} {r : Except Failure Bool}
    (h : (runCase (copyBackTo depth destination) project request).outcome s w = some (r, w')) :
    (∀ q, Outside (ownPlaces destination request) q →
      Outside (written s (w'.runs.drop w.runs.length)) q →
        (∀ contents, w'.files.find? q = some (.file contents) ↔
          w.files.find? q = some (.file contents)) ∧
        (w.files.find? q = some .dir → w'.files.find? q = some .dir)) ∧
    (¬Captures s w project request → w'.files = w.files) := by
  constructor
  · obtain ⟨⟨records, hruns, halters⟩, -⟩ := affects_runCase depth destination h
    intro q hown hwritten
    rw [hruns, List.drop_left] at hwritten
    have hq : Outside (ownPlaces destination request ++ written s records) q := fun place hplace =>
      (List.mem_append.mp hplace).elim (hown place) (hwritten place)
    exact ⟨halters.file_iff hq, halters.dir hq⟩
  · intro hnot
    rcases runCase_cases h with ⟨asked, -, hasks, -⟩ | ⟨_, _, _, _, -, hcaptures, -⟩
    · exact hasks.files
    · exact absurd hcaptures hnot

/-- The small world with a file in the data directory and one in a directory whose name begins
in the same way. -/
def litteredWorld : World Tree :=
  { smallWorld with files := (Tree.empty.addFile "/d/old" [1]).addFile "/dx/keep" [2] }

/-- The small case run in this world, with artifacts copied to `/out`. -/
def litteredOutcome : Option (Except Failure Bool × World Tree) :=
  (runCase (copyBackTo 2 (some "/out")) ⟨0, none⟩ smallRequest).outcome
    (promptTool fun _ _ => .granted) litteredWorld

/-- The directory is emptied, and the other one is not below it. -/
theorem runCase_touches_small : ∃ w', litteredOutcome = some (.ok true, w') ∧
    w'.files.find? "/d/old" = none ∧ w'.files.find? "/dx/keep" = some (.file [2]) := by
  have hends : (litteredOutcome.map fun p => (p.1.toOption, p.2.files.find? "/d/old")) =
      some (some true, none) := by decide +kernel
  obtain ⟨⟨r, w'⟩, houtcome, heq⟩ := Option.map_eq_some_iff.mp hends
  obtain ⟨hr, hold⟩ := Prod.mk.inj heq
  cases r with
  | error failure => cases hr
  | ok answer =>
      cases hr
      obtain ⟨hkept, -⟩ := runCase_touches houtcome
      have hplaces : ∀ place ∈ ownPlaces (some "/out") smallRequest,
          FilePath.isAtOrBelow "/dx/keep" place = false := by decide +kernel
      have hwritten (records : List RunRecord) :
          Outside (written (promptTool fun _ _ => .granted) records) "/dx/keep" := by
        intro place hplace
        simp [written, promptTool] at hplace
      have hfile := (hkept "/dx/keep" hplaces (hwritten _)).1 [2]
      exact ⟨w', houtcome, hold, hfile.mpr (by decide +kernel)⟩

end CaseRunner.Isolation

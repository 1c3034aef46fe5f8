import CaseRunner.Proofs.Remote.Outcome
import CaseRunner.Proofs.Remote.Replay

/-!
# `CaseRunner.Proofs.Remote.Course`: what an activity leads to, and by which calls

Two relations between the world before and after a part of an activity, with the calls
`made` in it, the last one first:

* `Course w made w'`: the calls have been noted, and the tool holds what their replay says.
* `Asks w made w'`: the calls were questions, and nothing but the notes has changed.

Both compose (`Course.trans`, `Asks.trans`). A command is a course of one call
(`command_course`). An activity that only asks has an answer that
the world fixes beforehand: `Answers x w a` says that `x` gives `a` if all its calls are
granted, and fails otherwise. Answers compose along the monad (`Answers.bind`), so the
answer of a search is found without following its calls.
-/

set_option autoImplicit false

namespace CaseRunner.Remote

open CaseRunner.Remote.Action

variable {σ α β : Type} {s : Surroundings} {w w₁ w₂ : World σ} {made later earlier : History}

/-- The calls `made` lead from one world to another. No artifacts are copied meanwhile. -/
structure Course (w : World σ) (made : History) (w' : World σ) : Prop where
  calls : w'.calls = made ++ w.calls
  tool : w'.SameTool (w.replay made)
  copies : w'.copies = w.copies

namespace Course

/-- Nothing happened. -/
theorem refl (w : World σ) : Course w [] w := ⟨rfl, .refl w, rfl⟩

/-- The files, the journal and the time have no part in a course. -/
theorem of_eq (hcalls : w₁.calls = w.calls) (htool : w₁.SameTool w)
    (hcopies : w₁.copies = w.copies) : Course w [] w₁ := ⟨hcalls, htool, hcopies⟩

/-- One course after the other. -/
theorem trans (h₁ : Course w earlier w₁) (h₂ : Course w₁ later w₂) :
    Course w (later ++ earlier) w₂ where
  calls := by rw [h₂.calls, h₁.calls, List.append_assoc]
  tool := by
    rw [World.replay_append]
    exact h₂.tool.trans (h₁.tool.replay later)
  copies := h₂.copies.trans h₁.copies

/-- Noting something in the journal has no part in a course either. -/
theorem noted (h : Course w made w₁) (entry : Journal.Entry) :
    Course w made { w₁ with toWorkspace := w₁.note entry } :=
  ⟨h.calls, ⟨h.tool.projects, h.tool.contents, h.tool.runs⟩, h.copies⟩

/-- A call that was not granted leaves the note of it. -/
theorem of_not_granted {call : Call} {v : Verdict} (h : v ≠ .granted) :
    Course w [⟨call, v⟩] (w.withCall ⟨call, v⟩) where
  calls := rfl
  tool := by
    rw [w.replay_of_not_granted ⟨call, v⟩ [] h]
    exact ⟨rfl, rfl, rfl⟩
  copies := rfl

/-- A call that was granted has been carried out. -/
theorem of_granted {call : Call} (hcalls : w₁.calls = ⟨call, .granted⟩ :: w.calls)
    (htool : w₁.SameTool (w.obey call)) (hcopies : w₁.copies = w.copies) :
    Course w [⟨call, .granted⟩] w₁ where
  calls := hcalls
  tool := by
    rw [World.replay_granted]
    exact htool
  copies := hcopies

end Course

/-- The calls `made` were questions: they have been noted, and nothing but the notes and the
journal has changed. -/
structure Asks (w : World σ) (made : History) (w' : World σ) : Prop where
  same : w' = { w with journal := w'.journal, calls := made ++ w.calls }
  quiet : made.Quiet

namespace Asks

/-- Nothing was asked. -/
theorem refl (w : World σ) : Asks w [] w := ⟨rfl, History.quiet_nil⟩

/-- Noting something in the journal is no question. -/
theorem of_note (w : World σ) (entry : Journal.Entry) :
    Asks w [] { w with toWorkspace := w.note entry } := ⟨rfl, History.quiet_nil⟩

/-- One question. -/
theorem of_call (w : World σ) {call : Call} (v : Verdict) (h : call.mutates = false) :
    Asks w [⟨call, v⟩] (w.withCall ⟨call, v⟩) := ⟨rfl, by simpa [History.Quiet] using h⟩

/-- One question after the other. -/
theorem trans (h₁ : Asks w earlier w₁) (h₂ : Asks w₁ later w₂) : Asks w (later ++ earlier) w₂ where
  same := by
    rw [h₂.same, h₁.same]
    simp
  quiet := History.quiet_append.mpr ⟨h₂.quiet, h₁.quiet⟩

theorem files (h : Asks w made w₁) : w₁.files = w.files := by rw [h.same]

theorem projects (h : Asks w made w₁) : w₁.projects = w.projects := by rw [h.same]

theorem contents (h : Asks w made w₁) : w₁.contents = w.contents := by rw [h.same]

theorem runs (h : Asks w made w₁) : w₁.runs = w.runs := by rw [h.same]

theorem sameTool (h : Asks w made w₁) : w₁.SameTool w := ⟨h.projects, h.contents, h.runs⟩

/-- Questions are a course. -/
theorem course (h : Asks w made w₁) : Course w made w₁ where
  calls := by rw [h.same]
  tool := by
    rw [w.replay_of_quiet h.quiet]
    exact h.sameTool
  copies := by rw [h.same]

end Asks

/-! ### Commands -/

/-- How a call ended that gives `a`: it was granted, or else it failed. -/
def Ended (r : Except RemoteFault α) (a : α) (v : Verdict) : Prop :=
  (r = .ok a ∧ v = .granted) ∨ ((∃ fault, r = .error fault) ∧ v ≠ .granted)

/-- A command that does what the tool does on its call is a course of that call, and leaves
the files alone. -/
theorem command_course {call : Call} {change : World σ → World σ} {r : Except RemoteFault Unit}
    (hchange : ∀ w, change w = w.obey call)
    (h : (command call change).outcome s w = some (r, w₁)) :
    ∃ v, Course w [⟨call, v⟩] w₁ ∧ w₁.files = w.files ∧ Ended r () v := by
  rcases command_cases h with ⟨rfl, rfl⟩ | ⟨v, fault, hv, rfl, rfl⟩
  -- The change was made in the world with the note of the call, in which the tool holds the
  -- same as before.
  · rw [hchange]
    obtain ⟨hcalls, hcopies, hfiles⟩ := (w.withCall ⟨call, .granted⟩).obey_rest call
    have hsame : (w.withCall ⟨call, .granted⟩).SameTool w := ⟨rfl, rfl, rfl⟩
    exact ⟨.granted, .of_granted hcalls (hsame.obey call) hcopies, hfiles, .inl ⟨rfl, rfl⟩⟩
  · exact ⟨v, .of_not_granted hv, rfl, .inr ⟨⟨fault, rfl⟩, hv⟩⟩

/-- A test set that is created gets the next number. -/
theorem createTestSet_course {p : ProjectRef} {name : String} {r : Except RemoteFault TestSetRef}
    (h : (createTestSet p name).outcome s w = some (r, w₁)) :
    ∃ v, Course w [⟨.createTestSet p name, v⟩] w₁ ∧ w₁.files = w.files ∧
      Ended r ⟨w.contents.length, name⟩ v := by
  rcases perform_cases h with h | ⟨v, fault, hv, rfl, rfl⟩
  · simp only [outcome_bind, outcome_get, outcome_modify, outcome_pure, Option.bind_some,
      Option.some.injEq, Prod.mk.injEq] at h
    obtain ⟨rfl, rfl⟩ := h
    exact ⟨.granted, .of_granted rfl ⟨rfl, rfl, rfl⟩ rfl, rfl, .inl ⟨rfl, rfl⟩⟩
  · exact ⟨v, .of_not_granted hv, rfl, .inr ⟨⟨fault, rfl⟩, hv⟩⟩

/-! ### What a run writes -/

/-- Where a run with this record writes a file. -/
def Product.place (record : RunRecord) (product : Product) : FilePath :=
  FilePath.join (.ofString <| match product.dir with
    | .data => record.dataDir
    | .report => record.reportDir) product.path

section
variable [Files.FileStore σ]

/-- The files after a run with this record has written the products. -/
def deposited (record : RunRecord) (products : List Product) (files : σ) : σ :=
  products.foldl (fun files product =>
    Files.FileStore.deposit (product.place record) product.contents files) files

/-- What a run writes changes the files alone. -/
theorem foldl_produce (record : RunRecord) (products : List Product) (w : World σ) :
    products.foldl (World.produce record) w =
      { w with files := deposited record products w.files } := by
  induction products generalizing w with
  | nil => rfl
  | cons product products ih => exact ih (w.produce record product)

/-- A run that is started gets the next number, and writes what it has to write. -/
theorem run_course {c : ConfigRef} {r : Except RemoteFault Nat}
    (h : (run c).outcome s w = some (r, w₁)) :
    ∃ v, Course w [⟨.run c, v⟩] w₁ ∧ Ended r w.runs.length v ∧
      (v = .granted → w₁.runs = w.runs ++ [w.runRecord c] ∧
        w₁.files = deposited (w.runRecord c) s.products w.files) := by
  rcases perform_cases h with h | ⟨v, fault, hv, rfl, rfl⟩
  · simp only [outcome_bind, outcome_get, outcome_read, outcome_modify, outcome_pure,
      Option.bind_some, Option.some.injEq, Prod.mk.injEq] at h
    obtain ⟨rfl, hw₁⟩ := h
    -- The artifacts are written within the call, but only to the files.
    rw [foldl_produce] at hw₁
    rw [← hw₁]
    exact ⟨.granted, .of_granted rfl ⟨rfl, rfl, rfl⟩ rfl, .inl ⟨rfl, rfl⟩, fun _ => ⟨rfl, rfl⟩⟩
  · exact ⟨v, .of_not_granted hv, .inr ⟨⟨fault, rfl⟩, hv⟩, fun hgranted => absurd hgranted hv⟩

end

/-! ### Commands in a row -/

/-- The activity makes the given calls and no others, one after the other, until one is not
granted. If all are granted it gives the value that it reads off the world at its start. -/
def Action.Tries (x : Action σ RemoteFault α) (calls : List Call) (value : World σ → α) : Prop :=
  ∀ s w r w₁, x.outcome s w = some (r, w₁) →
    ∃ made, Course w made w₁ ∧ History.Granted made.tail ∧
      ((r = .ok (value w) ∧ made.sequence = calls ∧ made.Granted) ∨
        ((∃ fault, r = .error fault) ∧ made.sequence <+: calls ∧ ¬made.Granted))

namespace Action.Tries

/-- One call. -/
theorem one {call : Call} {x : Action σ RemoteFault α} {value : World σ → α}
    (h : ∀ s w r w₁, x.outcome s w = some (r, w₁) →
      ∃ v, Course w [⟨call, v⟩] w₁ ∧ Ended r (value w) v) : Tries x [call] value := by
  intro s w r w₁ ho
  obtain ⟨v, hcourse, ⟨rfl, rfl⟩ | ⟨hr, hv⟩⟩ := h s w r w₁ ho
  · exact ⟨_, hcourse, History.granted_nil, .inl ⟨rfl, rfl, by simp [History.Granted]⟩⟩
  · exact ⟨_, hcourse, History.granted_nil,
      .inr ⟨hr, List.prefix_refl _, by simp [History.Granted, hv]⟩⟩

/-- A command. -/
theorem command {call : Call} {change : World σ → World σ}
    (hchange : ∀ w, change w = w.obey call) :
    Tries (Remote.command call change) [call] fun _ => () :=
  .one fun _ _ _ _ h => (command_course hchange h).imp fun _ hv => ⟨hv.1, hv.2.2⟩

/-- Nothing to do. -/
theorem pure (a : α) : Tries (Pure.pure a : Action σ RemoteFault α) [] fun _ => a := by
  intro s w r w₁ h
  simp only [outcome_pure, Option.some.injEq, Prod.mk.injEq] at h
  obtain ⟨rfl, rfl⟩ := h
  exact ⟨[], .refl w, History.granted_nil, .inl ⟨rfl, rfl, History.granted_nil⟩⟩

/-- Something is noted first. -/
theorem noting {x : Action σ RemoteFault α} {calls : List Call} {value : World σ → α}
    (hx : Tries x calls value) (severity : Journal.Severity) (origin : Journal.Origin)
    (message : String) (fields : List (String × String))
    (hvalue : ∀ (w : World σ) entry, value { w with toWorkspace := w.note entry } = value w) :
    Tries (note severity origin message fields >>= fun _ => x) calls value := by
  intro s w r w₁ h
  obtain ⟨made, hcourse, htail, hcases⟩ := hx s _ r w₁ (note_bind_cases h)
  rw [hvalue] at hcases
  exact ⟨made, by simpa using ((Course.refl w).noted _).trans hcourse, htail, hcases⟩

/-- Other calls first, which have no part in the value. -/
theorem bind {x : Action σ RemoteFault Unit} {y : Action σ RemoteFault α}
    {first rest : List Call} {value : World σ → α} (hx : Tries x first fun _ => ())
    (hy : Tries y rest value)
    (hvalue : ∀ (w : World σ) made w₁, Course w made w₁ → made.sequence = first →
      value w₁ = value w) :
    Tries (x >>= fun _ => y) (first ++ rest) value := by
  intro s w r w₂ h
  rcases bind_cases h with ⟨_, w₁, h₁, h⟩ | ⟨fault, h₁, rfl⟩
  · obtain ⟨made₁, hcourse₁, -, ⟨-, hseq₁, hg₁⟩ | ⟨⟨_, hr⟩, -⟩⟩ := hx s w _ w₁ h₁
    · obtain ⟨made₂, hcourse₂, htail, hcases⟩ := hy s w₁ r w₂ h
      rw [hvalue w made₁ w₁ hcourse₁ hseq₁] at hcases
      refine ⟨made₂ ++ made₁, hcourse₁.trans hcourse₂, ?_, ?_⟩
      -- Only the very last call may have been refused, and that is one of the second part
      -- if this made any.
      · cases made₂ with
        | nil => exact fun record hr => hg₁ record (List.mem_of_mem_tail hr)
        | cons record made₂ => exact History.granted_append.mpr ⟨htail, hg₁⟩
      · rw [History.sequence_append, hseq₁, History.granted_append]
        rcases hcases with ⟨hr, rfl, hg⟩ | ⟨hr, hseq, hg⟩
        · exact .inl ⟨hr, rfl, hg, hg₁⟩
        -- Where the second part stops early, all of the first part stands before it.
        · exact .inr ⟨hr, (List.prefix_append_right_inj first).mpr hseq, fun h => hg h.1⟩
    · cases hr
  · obtain ⟨made, hcourse, htail, ⟨hr, -⟩ | ⟨_, hseq, hg⟩⟩ := hx s w _ w₂ h₁
    · cases hr
    · exact ⟨made, hcourse, htail,
        .inr ⟨⟨fault, rfl⟩, hseq.trans (List.prefix_append first rest), hg⟩⟩

end Action.Tries

/-! ### Answers -/

/-- In the world `w`, whatever has been asked since, the activity only asks; it gives `a` if
all its calls are granted, and it fails if one is not. -/
def Action.Answers (x : Action σ RemoteFault α) (w : World σ) (a : α) : Prop :=
  ∀ s before w₁ r w₂, Asks w before w₁ → x.outcome s w₁ = some (r, w₂) →
    ∃ made, Asks w₁ made w₂ ∧
      ((r = .ok a ∧ made.Granted) ∨ ((∃ fault, r = .error fault) ∧ ¬made.Granted))

namespace Action.Answers

/-- A value asks nothing. -/
theorem pure (w : World σ) (a : α) : Answers (Pure.pure a : Action σ RemoteFault α) w a := by
  intro s before w₁ r w₂ _ h
  simp only [outcome_pure, Option.some.injEq, Prod.mk.injEq] at h
  obtain ⟨rfl, rfl⟩ := h
  exact ⟨[], .refl w₁, .inl ⟨rfl, History.granted_nil⟩⟩

/-- What is asked next may depend on the answer so far. -/
theorem bind {x : Action σ RemoteFault α} {f : α → Action σ RemoteFault β} {a : α} {b : β}
    (hx : Answers x w a) (hf : Answers (f a) w b) : Answers (x >>= f) w b := by
  intro s before w₁ r w₂ hbefore h
  rcases bind_cases h with ⟨a', w', hxo, hfo⟩ | ⟨fault, hxo, rfl⟩
  · obtain ⟨made₁, hasks₁, ⟨hr, hg₁⟩ | ⟨⟨_, hr⟩, -⟩⟩ := hx s before w₁ _ w' hbefore hxo
    -- The first part gave `a`, so the second is the one that is known to answer.
    · cases hr
      obtain ⟨made₂, hasks₂, hend⟩ := hf s _ w' r w₂ (hbefore.trans hasks₁) hfo
      refine ⟨made₂ ++ made₁, hasks₁.trans hasks₂, ?_⟩
      simpa [History.granted_append, hg₁] using hend
    · cases hr
  · obtain ⟨made, hasks, ⟨hr, -⟩ | ⟨_, hg⟩⟩ := hx s before w₁ _ w₂ hbefore hxo
    · cases hr
    · exact ⟨made, hasks, .inr ⟨⟨fault, rfl⟩, hg⟩⟩

/-- One question whose answer does not depend on what has been asked before. -/
theorem query {call : Call} {answer : World σ → α} {a : α} (hcall : call.mutates = false)
    (hanswer : ∀ made w₁, Asks w made w₁ → answer w₁ = a) :
    Answers (Remote.query call answer) w a := by
  intro s before w₁ r w₂ hbefore h
  rcases query_cases h with ⟨rfl, rfl⟩ | ⟨v, fault, hv, rfl, rfl⟩
  · have hasks := Asks.of_call w₁ .granted hcall
    exact ⟨_, hasks, .inl ⟨by rw [hanswer _ _ (hbefore.trans hasks)], by simp [History.Granted]⟩⟩
  · exact ⟨_, .of_call w₁ v hcall, .inr ⟨⟨fault, rfl⟩, by simpa [History.Granted] using hv⟩⟩

/-- Several activities one after the other. -/
theorem mapM {γ : Type} {f : γ → Action σ RemoteFault α} {g : γ → α} {l : List γ}
    (h : ∀ x ∈ l, Answers (f x) w (g x)) : Answers (l.mapM f) w (l.map g) := by
  induction l with
  | nil => simpa using Answers.pure w []
  | cons x l ih =>
      rw [List.mapM_cons]
      have hrest := ih fun y hy => h y (List.mem_cons_of_mem x hy)
      exact (h x List.mem_cons_self).bind (hrest.bind (.pure w (g x :: l.map g)))

/-- How an activity with an answer ended. -/
theorem cases {before : History} {x : Action σ RemoteFault α} {a : α} {r : Except RemoteFault α}
    (hx : Answers x w a) (hbefore : Asks w before w₁) (h : x.outcome s w₁ = some (r, w₂)) :
    ∃ made, Asks w₁ made w₂ ∧
      ((r = .ok a ∧ made.Granted) ∨ ((∃ fault, r = .error fault) ∧ ¬made.Granted)) :=
  hx s before w₁ r w₂ hbefore h

/-- How an activity with an answer ended, with its fault as a failure. -/
theorem mapFailure_cases {before : History} {x : Action σ RemoteFault α} {a : α}
    {r : Except Failure α} (hx : Answers x w a) (hbefore : Asks w before w₁)
    (h : (mapFailure .remote x).outcome s w₁ = some (r, w₂)) :
    ∃ made, Asks w₁ made w₂ ∧
      ((r = .ok a ∧ made.Granted) ∨ ((∃ failure, r = .error failure) ∧ ¬made.Granted)) := by
  obtain ⟨result, ho, rfl⟩ := Action.mapFailure_cases h
  obtain ⟨made, hasks, ⟨rfl, hg⟩ | ⟨⟨fault, rfl⟩, hg⟩⟩ := hx.cases hbefore ho
  · exact ⟨made, hasks, .inl ⟨rfl, hg⟩⟩
  · exact ⟨made, hasks, .inr ⟨⟨_, rfl⟩, hg⟩⟩

end Action.Answers

end CaseRunner.Remote

import CaseRunner.Proofs.Report.LogElements

/-!
# `CaseRunner.Proofs.Report.HiddenText`: the text of invisible log elements

A log element of the type "invisible" is not recorded. So two accepted documents that differ
only in the character data directly in such elements should give the same result. Nearly: the
collector adds character data to the open log entry and to the open assessment variable, and
only the log entry knows that it is invisible. An invisible log element in an assessment
variable passes its text on to the variable.

* `parse_eq_of_hidden`: the results are the same but for the texts of the assessments, and they
  are the same altogether if the documents differ only outside assessment variables.
* `parse_tells_hidden`: in an assessment variable they do differ.

The documents are compared by their events. One run through the events of a document is
compared with a run through those that are left without the hidden ones (`run_shown`); the two
documents are left with the same events, so their results are compared through that run.
-/

set_option autoImplicit false

namespace CaseRunner.Report

open CaseRunner.Text
open CaseRunner.Markup (Event Tag codes read)

/-! ### Places -/

/-- Whether the tag is that of a log element of the type "invisible", in any case of letters. -/
def isInvisible (tag : Tag) : Bool := isLog tag && (typeOf? tag).map lowered = some "invisible"

/-- A place in a document: the tags of the elements around it, the innermost first. -/
abbrev Place := List Tag

namespace Place

/-- The place after an event. -/
def after (place : Place) : Event → Place
  | .opening tag => tag :: place
  | .closing _ => place.tail
  | _ => place

/-- The names of the elements around the place. -/
def names (place : Place) : List Bytes := place.map (·.name)

/-- The place is directly in an invisible log element. -/
def hidden (place : Place) : Bool := place.head?.any isInvisible

/-- The place is directly in an invisible log element, and in no assessment variable at any
depth. -/
def unheard (place : Place) : Bool := place.hidden && !place.any isAssessment

/-- An end tag names the innermost element, and the others stay open. -/
theorem closing_innermost {tag : Tag} {outer : Place} {name : Bytes} {left : List Bytes}
    (h : Event.opened (names (tag :: outer)) (.closing name) = some left) :
    name = tag.name ∧ left = outer.names := by
  change (Markup.closeElement (tag.name :: outer.names) name).toOption = some left at h
  rw [Markup.closeElement] at h
  by_cases hname : name = tag.name
  · rw [if_pos hname] at h
    cases h
    exact ⟨hname, rfl⟩
  · rw [if_neg hname] at h
    cases h

/-- The names of the open elements are those around the place, before an event and after it. -/
theorem names_after {place : Place} {event : Event} {left : List Bytes}
    (h : Event.opened place.names event = some left) : left = (place.after event).names := by
  cases event with
  | closing name =>
      cases place with
      | nil => cases h
      | cons tag outer => exact (closing_innermost h).2
  | _ =>
      cases h
      rfl

end Place

/-- Whether the event is character data. -/
def isCharacters : Event → Bool
  | .text _ | .cdata _ => true
  | _ => false

/-- The events from a place on, less the character data at the places that are left out. -/
def shown (leftOut : Place → Bool) (place : Place) : List Event → List Event
  | [] => []
  | event :: rest =>
    if isCharacters event && leftOut place then shown leftOut (place.after event) rest
    else event :: shown leftOut (place.after event) rest

/-- The documents differ only in the character data at certain places. -/
def DifferOnlyAt (places : Place → Bool) (document other : Bytes) : Prop :=
  shown places [] (read document).events = shown places [] (read other).events

instance (places : Place → Bool) (document other : Bytes) :
    Decidable (DifferOnlyAt places document other) :=
  inferInstanceAs (Decidable (_ = _))

/-! ### Views of a result -/

/-- What is looked at in an assessment. Whether characters are added to the assessment or to
what is seen of it makes no difference to what is seen then. -/
structure View where
  /-- What is seen. -/
  see : Assessment → Assessment
  /-- More characters. -/
  see_adding : ∀ (a : Assessment) (text : String),
    see { see a with message := (see a).message ++ text } =
      see { a with message := a.message ++ text }

namespace View

/-- All of an assessment. -/
def all : View := ⟨id, fun _ _ => rfl⟩

/-- All of an assessment but its text. -/
def withoutText : View := ⟨fun a => { a with message := "" }, fun _ _ => rfl⟩

@[simp] theorem see_see (v : View) (a : Assessment) : v.see (v.see a) = v.see a := by
  simpa using v.see_adding a ""

end View

variable {v : View}

/-- The result as its assessments are looked at. -/
def CaseResult.seenBy (v : View) (r : CaseResult) : CaseResult :=
  { r with assessments := r.assessments.map v.see }

@[simp] theorem CaseResult.seenBy_seenBy (v : View) (r : CaseResult) :
    (r.seenBy v).seenBy v = r.seenBy v := by
  simp [seenBy, Function.comp_def]

theorem CaseResult.seenBy_all (r : CaseResult) : r.seenBy .all = r := by
  simp [seenBy, View.all]

/-- The entry without the text that is not to be recorded. -/
def OpenEntry.recorded (e : OpenEntry) : OpenEntry :=
  { e with text := if e.level = none then "" else e.text }

@[simp] theorem OpenEntry.recorded_recorded (e : OpenEntry) : e.recorded.recorded = e.recorded := by
  by_cases h : e.level = none <;> simp [recorded, h]

/-- More characters in an open log entry. -/
theorem OpenEntry.recorded_adding (e : OpenEntry) (text : String) :
    OpenEntry.recorded { e.recorded with text := e.recorded.text ++ text } =
      OpenEntry.recorded { e with text := e.text ++ text } := by
  by_cases h : e.level = none <;> simp [recorded, h]

namespace Collector

/-- The collector as its assessments are looked at, and without the text that is not to be
recorded. -/
def seenBy (v : View) (c : Collector) : Collector where
  result := c.result.map (·.seenBy v)
  entry := c.entry.map (·.recorded)
  assessment := c.assessment.map v.see
  notes := c.notes

@[simp] theorem seenBy_seenBy (v : View) (c : Collector) : (c.seenBy v).seenBy v = c.seenBy v := by
  simp [seenBy, Function.comp_def]

/-! ### What is seen depends on what was seen -/

theorem closeEntry_seenBy (v : View) (c : Collector) :
    (c.seenBy v).closeEntry = c.closeEntry.seenBy v := by
  -- A recorded entry has its text, and the text of another one goes nowhere.
  obtain ⟨result, entry, assessment, notes⟩ := c
  rcases entry with _ | ⟨_ | level, text⟩ <;> rcases result with _ | result <;>
    simp [closeEntry, seenBy, OpenEntry.recorded, CaseResult.seenBy]

theorem closeAssessment_seenBy (v : View) (c : Collector) :
    (c.seenBy v).closeAssessment = c.closeAssessment.seenBy v := by
  obtain ⟨result, entry, assessment, notes⟩ := c
  cases assessment <;> cases result <;> simp [closeAssessment, seenBy, CaseResult.seenBy]

theorem closeElement_seenBy (v : View) (c : Collector) (name : Bytes) :
    (c.seenBy v).closeElement name = (c.closeElement name).seenBy v := by
  rw [closeElement_eq, closeElement_eq]
  cases kindOfBytes name with
  | entry => exact c.closeEntry_seenBy v
  | assessment => exact c.closeAssessment_seenBy v
  | root | other => rfl

theorem openElement_seenBy (v : View) (c : Collector) (name : Bytes) (attributes : Attributes) :
    ((c.seenBy v).openElement name attributes).map (·.seenBy v) =
      (c.openElement name attributes).map (·.seenBy v) := by
  rw [openElement_eq, openElement_eq]
  cases kindOfBytes name with
  | root => cases rootResult attributes <;> simp [Except.map, seenBy, Function.comp_def]
  | entry | assessment | other => simp [Except.map, seenBy, Function.comp_def]

theorem addText_seenBy (v : View) (c : Collector) (text : String) :
    ((c.seenBy v).addText text).seenBy v = (c.addText text).seenBy v := by
  simp [addText, seenBy, Function.comp_def, OpenEntry.recorded_adding, v.see_adding]

/-- What is seen after an event depends only on what was seen before. -/
theorem step_seenBy (v : View) (c : Collector) (event : Event) :
    ((c.seenBy v).step event).map (·.seenBy v) = (c.step event).map (·.seenBy v) := by
  cases event with
  | opening tag =>
      simp only [step]
      cases readAttributes tag with
      | error fault => rfl
      | ok attributes => exact c.openElement_seenBy v tag.name attributes
  | empty tag =>
      simp only [step]
      cases readAttributes tag with
      | error fault => rfl
      | ok attributes =>
          -- Closing leaves what is seen as it is, so only opening has to be looked at.
          have hclose (x : Except ArtifactFault Collector) :
              (x.map (·.closeElement tag.name)).map (·.seenBy v) =
                (x.map (·.seenBy v)).map (·.closeElement tag.name) := by
            cases x with
            | error fault => rfl
            | ok m => exact congrArg Except.ok (m.closeElement_seenBy v tag.name).symm
          show (((c.seenBy v).openElement tag.name attributes).map (·.closeElement tag.name)).map
              (·.seenBy v) =
            ((c.openElement tag.name attributes).map (·.closeElement tag.name)).map (·.seenBy v)
          rw [hclose, hclose, c.openElement_seenBy v]
  | closing name => simp [step, Except.map, closeElement_seenBy]
  | text raw =>
      simp only [step]
      cases (Markup.contentText raw).mapError ArtifactFault.badText with
      | error fault => rfl
      | ok text => exact congrArg Except.ok (c.addText_seenBy v (String.ofList text))
  | cdata raw => exact congrArg Except.ok (c.addText_seenBy v (decodeStringLossy raw))

/-! ### The collector at a place -/

variable {c d opened next : Collector} {place : Place} {tag : Tag} {attributes : Attributes}

/-- The collector has read the document up to a place: an open log entry has the level of the
innermost log element around the place, and an open variable has an element around it. -/
structure StandsAt (c : Collector) (place : Place) : Prop where
  /-- The level of the open log entry. -/
  entry : ∀ e, c.entry = some e →
    (place.find? isLog).map (levelOfType <| typeOf? ·) = some e.level
  /-- The element of the open variable. -/
  assessment : c.assessment.isSome = true → place.any isAssessment = true

theorem StandsAt.initial : initial.StandsAt [] where
  entry := nofun
  assessment := nofun

/-- Character data opens and closes nothing. -/
theorem StandsAt.addText (h : c.StandsAt place) (text : String) :
    (c.addText text).StandsAt place where
  entry := by
    intro e he
    obtain ⟨e, hopen, rfl⟩ := Option.map_eq_some_iff.mp he
    exact h.entry e hopen
  assessment := by
    intro hsome
    exact h.assessment (by simpa [Collector.addText] using hsome)

/-- A start tag leads into its element. -/
theorem StandsAt.openElement (h : c.StandsAt place) (hread : readAttributes tag = .ok attributes)
    (hopen : c.openElement tag.name attributes = .ok opened) : opened.StandsAt (tag :: place) := by
  obtain ⟨hentry, hassessment⟩ := slots_openElement hread hopen
  constructor
  · intro e he
    rw [hentry] at he
    by_cases hlog : isLog tag = true
    · rw [if_pos hlog] at he
      cases he
      simp [hlog]
    · rw [if_neg hlog] at he
      simpa [hlog] using h.entry e he
  · intro hsome
    rw [hassessment] at hsome
    by_cases hvariable : isAssessment tag = true
    · simp [hvariable]
    · rw [if_neg hvariable] at hsome
      simpa [hvariable] using h.assessment hsome

/-- An end tag leads out of its element. -/
theorem StandsAt.closeElement (h : c.StandsAt (tag :: place)) :
    (c.closeElement tag.name).StandsAt place := by
  obtain ⟨hentry, hassessment⟩ := c.slots_closeElement tag
  constructor
  · intro e he
    rw [hentry] at he
    by_cases hlog : isLog tag = true
    · rw [if_pos hlog] at he
      cases he
    · rw [if_neg hlog] at he
      simpa [hlog] using h.entry e he
  · intro hsome
    rw [hassessment] at hsome
    by_cases hvariable : isAssessment tag = true
    · rw [if_pos hvariable] at hsome
      cases hsome
    · rw [if_neg hvariable] at hsome
      simpa [hvariable] using h.assessment hsome

/-- An event leads to the place after it. -/
theorem StandsAt.step {event : Event} {left : List Bytes} (h : c.StandsAt place)
    (hopened : Event.opened place.names event = some left) (hstep : c.step event = .ok next) :
    next.StandsAt (place.after event) := by
  cases event with
  | opening tag =>
      obtain ⟨attributes, hread, hopen⟩ := ok_of_bind hstep
      exact h.openElement hread hopen
  | empty tag =>
      obtain ⟨attributes, hread, hafter⟩ := ok_of_bind hstep
      obtain ⟨opened, hopen, hclose⟩ := ok_of_bind hafter
      cases hclose
      exact (h.openElement hread hopen).closeElement
  | closing name =>
      cases hstep
      cases place with
      | nil => cases hopened
      | cons tag outer =>
          -- The end tag names the element that it ends.
          rw [(Place.closing_innermost hopened).1]
          exact h.closeElement
  | text raw =>
      obtain ⟨text, -, hnext⟩ := ok_of_bind hstep
      cases hnext
      exact h.addText _
  | cdata raw =>
      cases hstep
      exact h.addText _

/-! ### What is hidden is not seen -/

/-- Directly in an invisible log element, an open log entry has no level. -/
theorem StandsAt.level_eq_none (h : c.StandsAt place) (hhidden : place.hidden = true)
    {e : OpenEntry} (he : c.entry = some e) : e.level = none := by
  cases place with
  | nil => cases hhidden
  | cons tag outer =>
      obtain ⟨hlog, htype⟩ : isLog tag = true ∧ (typeOf? tag).map lowered = some "invisible" := by
        simpa [Place.hidden, isInvisible] using hhidden
      have hlevel := h.entry e he
      rw [List.find?_cons_of_pos hlog, Option.map_some, levelOfType_eq_none.mpr htype] at hlevel
      exact (Option.some.inj hlevel).symm

/-- Character data is not seen if the open log entry is not to be recorded and nothing more is
seen of the open variable. -/
theorem addText_unseen {text : String} (hentry : ∀ e, c.entry = some e → e.level = none)
    (hassessment : ∀ a, c.assessment = some a →
      v.see { a with message := a.message ++ text } = v.see a) :
    (c.addText text).seenBy v = c.seenBy v := by
  have hrecorded : (c.addText text).entry.map (·.recorded) = c.entry.map (·.recorded) := by
    cases hopen : c.entry with
    | none => simp [addText, hopen]
    | some e => simp [addText, hopen, OpenEntry.recorded, hentry e hopen]
  have hsee : (c.addText text).assessment.map v.see = c.assessment.map v.see := by
    cases hopen : c.assessment with
    | none => simp [addText, hopen]
    | some a => simp [addText, hopen, hassessment a hopen]
  rw [seenBy, seenBy, hrecorded, hsee]
  rfl

/-- In the view, character data at the places makes no difference. -/
def Conceals (v : View) (places : Place → Bool) : Prop :=
  ∀ (c : Collector) (place : Place) (text : String),
    c.StandsAt place → places place = true → (c.addText text).seenBy v = c.seenBy v

/-- Without the texts of the assessments, nothing is seen of what is in invisible log elements. -/
theorem conceals_hidden : Conceals .withoutText Place.hidden := by
  intro c place text hstands hhidden
  refine addText_unseen (fun e he => hstands.level_eq_none hhidden he) ?_
  intro a _
  rfl

/-- Outside variables, nothing is seen of it at all. -/
theorem conceals_unheard : Conceals .all Place.unheard := by
  intro c place text hstands hunheard
  obtain ⟨hhidden, houtside⟩ : place.hidden = true ∧ place.any isAssessment = false := by
    simpa [Place.unheard] using hunheard
  refine addText_unseen (fun e he => hstands.level_eq_none hhidden he) ?_
  -- An open variable would have an element around the place.
  intro a hopen
  rw [hstands.assessment (by rw [hopen]; rfl)] at houtside
  cases houtside

/-- Character data is added. -/
theorem eq_addText_of_step {event : Event} (h : isCharacters event = true)
    (hstep : c.step event = .ok next) : ∃ text, next = c.addText text := by
  cases event with
  | text raw =>
      obtain ⟨text, -, hnext⟩ := ok_of_bind hstep
      cases hnext
      exact ⟨_, rfl⟩
  | cdata raw =>
      cases hstep
      exact ⟨_, rfl⟩
  | _ => cases h

/-- After an event the same is seen if the same was seen before. -/
theorem step_of_seenBy {event : Event} (hseen : c.seenBy v = d.seenBy v)
    (hstep : c.step event = .ok next) :
    ∃ other, d.step event = .ok other ∧ next.seenBy v = other.seenBy v := by
  have hsteps := d.step_seenBy v event
  rw [← hseen, c.step_seenBy v event, hstep] at hsteps
  cases hother : d.step event with
  | error fault =>
      rw [hother] at hsteps
      cases hsteps
  | ok other =>
      rw [hother] at hsteps
      exact ⟨other, rfl, Except.ok.inj hsteps⟩

/-- The run through the events without those that the view conceals ends with the same in view.
The induction is on the events. Before each of them the two runs are the same in view, and the
first one stands at the place that the open elements tell. -/
theorem run_shown {places : Place → Bool} (hplaces : Conceals v places) {events : List Event}
    {left : List Bytes} {last : Collector}
    (hnest : events.foldlM Event.opened place.names = some left) (hstands : c.StandsAt place)
    (hseen : c.seenBy v = d.seenBy v) (hrun : c.run events = (last, none)) :
    ∃ other, d.run (shown places place events) = (other, none) ∧
      last.seenBy v = other.seenBy v := by
  induction events generalizing c d place with
  | nil =>
      cases hrun
      exact ⟨d, rfl, hseen⟩
  | cons event events ih =>
      obtain ⟨next, hstep, hrest⟩ := ok_of_run_cons hrun
      obtain ⟨names, hopened, hnested⟩ := Option.bind_eq_some_iff.mp hnest
      rw [Place.names_after hopened] at hnested
      have hafter := hstands.step hopened hstep
      rw [shown]
      by_cases hout : (isCharacters event && places place) = true
      · -- Only the first run takes the event, and nothing is seen of it.
        obtain ⟨hcharacters, hplace⟩ := Bool.and_eq_true_iff.mp hout
        obtain ⟨text, rfl⟩ := eq_addText_of_step hcharacters hstep
        rw [if_pos hout]
        exact ih hnested hafter ((hplaces c place text hstands hplace).trans hseen) hrest
      · obtain ⟨other, hother, hnext⟩ := step_of_seenBy hseen hstep
        rw [if_neg hout, run, hother]
        exact ih hnested hafter hnext hrest

end Collector

/-! ### Accepted documents -/

variable {document other : Bytes} {r s : CaseResult}

/-- Documents that differ only at places that the view conceals have the same result in view. -/
theorem seenBy_eq_of_conceals {places : Place → Bool} (hplaces : Collector.Conceals v places)
    (h : parse document = .ok r) (hother : parse other = .ok s)
    (hdiffer : DifferOnlyAt places document other) : r.seenBy v = s.seenBy v := by
  have hrun {bytes : Bytes} {result : CaseResult} (h : parse bytes = .ok result) :
      ∃ c : Collector, Collector.initial.run (shown places [] (read bytes).events) = (c, none) ∧
        some (result.seenBy v) = (c.seenBy v).result := by
    obtain ⟨-, last, hevents, hresult⟩ := run_of_parse h
    obtain ⟨left, hnest⟩ : ∃ left,
        (read bytes).events.foldlM Event.opened (Place.names []) = some left :=
      Markup.opened_read bytes
    obtain ⟨c, hshown, hseen⟩ := Collector.run_shown hplaces hnest .initial rfl hevents
    refine ⟨c, hshown, ?_⟩
    rw [← hseen, Collector.seenBy, hresult]
    rfl
  obtain ⟨c, hc, hr⟩ := hrun h
  obtain ⟨d, hd, hs⟩ := hrun hother
  -- What is left of the two documents is the same, so both end with the same collector.
  rw [hdiffer] at hc
  cases hc.symm.trans hd
  exact Option.some.inj (hr.trans hs.symm)

/-- If two accepted documents differ only in the character data directly in invisible log
elements, their results differ at most in the texts of the assessments. They are equal if this
character data is not in an assessment variable. -/
theorem parse_eq_of_hidden (h : parse document = .ok r) (hother : parse other = .ok s) :
    (DifferOnlyAt Place.hidden document other → r.seenBy .withoutText = s.seenBy .withoutText) ∧
      (DifferOnlyAt Place.unheard document other → r = s) := by
  refine ⟨seenBy_eq_of_conceals Collector.conceals_hidden h hother, ?_⟩
  intro hdiffer
  have hseen := seenBy_eq_of_conceals Collector.conceals_unheard h hother hdiffer
  rwa [CaseResult.seenBy_all, CaseResult.seenBy_all] at hseen

/-- The texts of the assessments that are read from a document. -/
def assessedTexts (document : Bytes) : Option (List String) :=
  (parse document).toOption.map (·.assessments.map (·.message))

theorem assessedTexts_eq_some {texts : List String} (h : assessedTexts document = some texts) :
    ∃ r, parse document = .ok r ∧ r.assessments.map (·.message) = texts := by
  rw [assessedTexts] at h
  cases hparse : parse document with
  | error fault =>
      rw [hparse] at h
      cases h
  | ok r =>
      rw [hparse] at h
      exact ⟨r, rfl, Option.some.inj h⟩

/-- A result artifact with the given content. -/
def artifactOf (content : String) : Bytes :=
  codes ("<TestcaseInformation ScenarioId=\"1\">" ++ content ++ "</TestcaseInformation>")

/-- An artifact with the text in an invisible log element. -/
def muted (text : String) : Bytes := artifactOf ("<Log Type=\"Invisible\">" ++ text ++ "</Log>")

/-- An artifact with the text in an invisible log element in an assessment variable. -/
def overheard (text : String) : Bytes :=
  artifactOf ("<AssessmentVariable><Log Type=\"invisible\">" ++ text ++
    "</Log></AssessmentVariable>")

theorem texts_muted :
    DifferOnlyAt Place.unheard (muted "a") (muted "<![CDATA[b]]>") ∧
      assessedTexts (muted "a") = some [] ∧
      assessedTexts (muted "<![CDATA[b]]>") = some [] := by
  decide +kernel

theorem texts_overheard :
    DifferOnlyAt Place.hidden (overheard "a") (overheard "b") ∧
      assessedTexts (overheard "a") = some ["a"] ∧
      assessedTexts (overheard "b") = some ["b"] := by
  decide +kernel

theorem parse_eq_of_hidden_muted :
    (∃ r s, parse (muted "a") = .ok r ∧ parse (muted "<![CDATA[b]]>") = .ok s ∧ r = s) ∧
      ∃ r s, parse (overheard "a") = .ok r ∧ parse (overheard "b") = .ok s ∧
        r.seenBy .withoutText = s.seenBy .withoutText := by
  constructor
  · obtain ⟨hdiffer, htexts, hothers⟩ := texts_muted
    obtain ⟨r, hr, -⟩ := assessedTexts_eq_some htexts
    obtain ⟨s, hs, -⟩ := assessedTexts_eq_some hothers
    exact ⟨r, s, hr, hs, (parse_eq_of_hidden hr hs).2 hdiffer⟩
  · obtain ⟨hdiffer, htexts, hothers⟩ := texts_overheard
    obtain ⟨r, hr, -⟩ := assessedTexts_eq_some htexts
    obtain ⟨s, hs, -⟩ := assessedTexts_eq_some hothers
    exact ⟨r, s, hr, hs, (parse_eq_of_hidden hr hs).1 hdiffer⟩

/-- The text of an invisible log element in an assessment variable is in the result. -/
theorem parse_tells_hidden :
    ¬∀ (document other : Bytes) (r s : CaseResult), parse document = .ok r →
      parse other = .ok s → DifferOnlyAt Place.hidden document other → r = s := by
  intro h
  obtain ⟨hdiffer, htexts, hothers⟩ := texts_overheard
  obtain ⟨r, hr, hfirst⟩ := assessedTexts_eq_some htexts
  obtain ⟨s, hs, hsecond⟩ := assessedTexts_eq_some hothers
  have hsame := h _ _ r s hr hs hdiffer
  rw [← hsame, hfirst] at hsecond
  exact absurd hsecond (by decide)

end CaseRunner.Report

import CaseRunner.Proofs.Markup.Written
import CaseRunner.Proofs.Text.LowerCase
import CaseRunner.Proofs.Text.Numeral
import CaseRunner.Report.Log
import CaseRunner.Report.Outcome
import Mathlib.Data.List.Find

/-!
# `CaseRunner.Proofs.Report.Words`: the words of a result artifact

An artifact tells the outcome of a test case and the type of a log entry by words in English.
`outcomeWords` and `entryTypes` list these words with what each stands for. Their letters can be
small or capital, and around the word for an outcome there can be white space.

The reading of an outcome goes by the small form of a text in all of Unicode. No text but the
words themselves has one of them as its small form, so the reading knows the listed words and no
others (`read_eq_ok_iff`, `levelOfType_eq`).
-/

set_option autoImplicit false

namespace CaseRunner.Report

open CaseRunner.Text
open CaseRunner.Markup (sameLetters)

/-- The words for outcomes. -/
def outcomeWords : List (String × Outcome) :=
  [("success", .success), ("passed", .success), ("inconclusive", .inconclusive),
    ("failed", .failed), ("error", .error), ("execution_error", .error)]

/-- The types of log entries, each with the level at which its entries are recorded, if they
are. -/
def entryTypes : List (String × Option Level) :=
  [("info", some .info), ("customoutput", some .info), ("section", some .info),
    ("warning", some .warning), ("error", some .error), ("invisible", none)]

/-- The text names the outcome: it is a word for it, with white space around it. -/
def NamesOutcome (text : String) (outcome : Outcome) : Prop :=
  ∃ before letters after word, before.all isBlank = true ∧ after.all isBlank = true ∧
    text.toList = before ++ letters ++ after ∧ sameLetters letters word.toList ∧
    (word, outcome) ∈ outcomeWords

/-- The level of a log entry by its type. An entry without a type, or of one that is not listed,
is of no particular level. -/
def levelNamed (type : Option String) : Option Level :=
  match type.bind fun text =>
      entryTypes.find? fun entry => sameLetters text.toList entry.1.toList with
  | some (_, level) => level
  | none => some .all

/-! ### Spelling -/

/-- A word in small letters of ASCII, without a `k`. -/
def IsSmall (word : List Char) : Prop :=
  word ≠ [] ∧ Plain word ∧ word.map Char.toLower = word ∧ ∀ c ∈ word, 0x20 < c.toNat

-- the characters are searched in the word, not all there are
instance (word : List Char) : Decidable (IsSmall word) :=
  have : Decidable (∀ c ∈ word, 0x20 < c.toNat) := List.decidableBAll _ word
  inferInstanceAs (Decidable (_ ∧ _))

variable {text word : List Char}

/-- The small form of a text is a small word if the text is that word but for the case of its
letters. -/
theorem lower_eq_iff_sameLetters (hword : IsSmall word) :
    lower text = word ↔ sameLetters text word := by
  obtain ⟨-, hplain, hsmall, -⟩ := hword
  rw [lower_eq_iff hplain, sameLetters, hsmall]

/-- A text with the letters of a small word has no white space in it. -/
theorem not_isBlank_of_sameLetters (hword : IsSmall word) (h : sameLetters text word) :
    text ≠ [] ∧ ∀ c ∈ text, isBlank c = false := by
  obtain ⟨hne, hplain, hsmall, hvisible⟩ := hword
  rw [sameLetters, hsmall] at h
  refine ⟨fun hnil => hne (by rw [← h, hnil]; rfl), fun c hc => ?_⟩
  have hmem : c.toLower ∈ word := h ▸ List.mem_map_of_mem hc
  rcases toLower_cases c with hsame | ⟨hlow, hhigh⟩
  · rw [hsame] at hmem
    exact isBlank_of_ascii (hvisible c hmem) (hplain c hmem).1
  · exact isBlank_of_ascii (by omega) (by omega)

/-! ### Outcomes -/

theorem isSmall_of_mem_outcomeWords {word : String} {outcome : Outcome}
    (h : (word, outcome) ∈ outcomeWords) : IsSmall word.toList := by
  have hall : ∀ entry ∈ outcomeWords, IsSmall entry.1.toList := by decide +kernel
  exact hall _ h

/-- A word in small letters stands for an outcome if it is listed. -/
theorem ofWord?_eq_some_iff {word : String} {outcome : Outcome} :
    Outcome.ofWord? word = some outcome ↔ (word, outcome) ∈ outcomeWords := by
  unfold Outcome.ofWord?
  split <;> simp_all [outcomeWords, eq_comm]

/-- A text is read as an outcome if and only if it names it. -/
theorem read_eq_ok_iff {text : String} {outcome : Outcome} :
    Outcome.read text = .ok outcome ↔ NamesOutcome text outcome := by
  have hread : Outcome.read text = .ok outcome ↔ (plainWord text, outcome) ∈ outcomeWords := by
    rw [← ofWord?_eq_some_iff, Outcome.read]
    split <;> simp_all
  rw [hread]
  constructor
  · intro hmem
    obtain ⟨before, after, hbefore, hafter, htext⟩ := exists_trim text.toList
    refine ⟨before, trim text.toList, after, _, hbefore, hafter, htext, ?_, hmem⟩
    rw [← lower_eq_iff_sameLetters (isSmall_of_mem_outcomeWords hmem), plainWord,
      String.toList_ofList]
  · rintro ⟨before, letters, after, word, hbefore, hafter, htext, hletters, hmem⟩
    have hword := isSmall_of_mem_outcomeWords hmem
    obtain ⟨hne, hnoBlank⟩ := not_isBlank_of_sameLetters hword hletters
    have hplain : plainWord text = word := by
      rw [plainWord, htext, trim_surrounded hbefore hafter hne hnoBlank,
        (lower_eq_iff_sameLetters hword).mpr hletters, String.ofList_toList]
    rwa [hplain]

example : NamesOutcome " PASSED\n" .success :=
  ⟨[' '], "PASSED".toList, ['\n'], "passed", by decide, by decide, by decide, by decide, by decide⟩

/-! ### Levels -/

/-- The level of a log entry is the one that is listed. -/
theorem levelOfType_eq (type : Option String) : levelOfType type = levelNamed type := by
  cases type with
  | none => rfl
  | some text =>
      have hfind : entryTypes.find? (fun entry => sameLetters text.toList entry.1.toList) =
          entryTypes.find? fun entry => lowered text = entry.1 := by
        have hsmall : ∀ entry ∈ entryTypes, IsSmall entry.1.toList := by decide +kernel
        refine List.find?_congr fun entry hentry => decide_eq_decide.mpr ?_
        rw [← lower_eq_iff_sameLetters (hsmall entry hentry), lowered, ← String.toList_inj,
          String.toList_ofList]
      rw [levelNamed, Option.bind_some, hfind, levelOfType]
      split
      case h_7 hinfo hcustom hsection hwarning herror hinvisible =>
        have hnone : entryTypes.find? (fun entry => lowered text = entry.1) = none := by
          simpa [entryTypes] using
            And.intro hinfo ⟨hcustom, hsection, hwarning, herror, hinvisible⟩
        rw [hnone]
      all_goals
        rename_i hword
        rw [hword]
        rfl

end CaseRunner.Report

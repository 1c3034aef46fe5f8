import CaseRunner.Markup.Event
import Mathlib.Data.List.TakeWhile

/-!
# `CaseRunner.Proofs.Markup.Truncation`: documents that end too early

What has been cut off a document as a piece does not depend on what follows: if more bytes
come after them, the same piece is cut off (`scan_extend`). Only character data at the very
end goes on with them. So the front part of a document is read without a fault only if it
ends between two pieces or in character data (`cutClean_of_readFrom`): a cut within a tag, a
comment, a section, an instruction or a document type is always noticed, for the end of that
piece is missed. A cut between pieces is not, since elements may be left open at the end.
-/

set_option autoImplicit false

namespace CaseRunner.Markup

/-! ### Marks and ends of tags -/

/-- What is split off before a mark, the mark and the rest are all of the bytes. -/
theorem splitAtMark_eq_append {mark s before after : Bytes}
    (h : splitAtMark mark s = some (before, after)) : s = before ++ (mark ++ after) := by
  induction s generalizing before with
  | nil =>
      rw [splitAtMark] at h
      split at h
      · rename_i hempty
        obtain ⟨rfl, rfl⟩ := Prod.mk.inj (Option.some.inj h)
        rw [List.isEmpty_iff.mp hempty]
        rfl
      · cases h
  | cons b rest ih =>
      rw [splitAtMark] at h
      split at h
      · rename_i hprefix
        obtain ⟨rfl, rfl⟩ := Prod.mk.inj (Option.some.inj h)
        have happend := List.prefix_iff_eq_append.mp (List.isPrefixOf_iff_prefix.mp hprefix)
        exact happend.symm
      · obtain ⟨⟨x, y⟩, hrest, heq⟩ := Option.map_eq_some_iff.mp h
        obtain ⟨rfl, rfl⟩ := Prod.mk.inj heq
        rw [ih hrest]
        rfl

/-- A mark that was met is met at the same place if more follows. -/
theorem splitAtMark_extend {mark s before after : Bytes} (hmark : mark ≠ [])
    (h : splitAtMark mark s = some (before, after)) (more : Bytes) :
    splitAtMark mark (s ++ more) = some (before, after ++ more) := by
  induction s generalizing before with
  | nil =>
      rw [splitAtMark, if_neg (by simpa using hmark)] at h
      cases h
  | cons b rest ih =>
      rw [splitAtMark] at h
      rw [List.cons_append, splitAtMark]
      split at h
      · rename_i hprefix
        obtain ⟨rfl, rfl⟩ := Prod.mk.inj (Option.some.inj h)
        have hpre : mark <+: b :: rest := List.isPrefixOf_iff_prefix.mp hprefix
        have hlonger : mark <+: b :: (rest ++ more) := hpre.trans (List.prefix_append _ more)
        rw [if_pos (List.isPrefixOf_iff_prefix.mpr hlonger), ← List.cons_append,
          List.drop_append_of_le_length hpre.length_le]
      · rename_i hno
        obtain ⟨⟨x, y⟩, hrest, heq⟩ := Option.map_eq_some_iff.mp h
        obtain ⟨rfl, rfl⟩ := Prod.mk.inj heq
        -- The mark stands later, so there is room for it here, and what follows cannot matter.
        have hlength : mark.length ≤ (b :: rest).length := by
          rw [splitAtMark_eq_append hrest]
          simp only [List.length_cons, List.length_append]
          omega
        have hstill : ¬mark.isPrefixOf (b :: (rest ++ more)) = true := by
          intro hlonger
          have hpre := List.isPrefixOf_iff_prefix.mp hlonger
          have hfits : b :: rest <+: b :: (rest ++ more) := List.prefix_append (b :: rest) more
          exact hno (List.isPrefixOf_iff_prefix.mpr
            (List.prefix_of_prefix_length_le hpre hfits hlength))
        rw [if_neg hstill, ih hrest]
        rfl

/-- The end of a tag is met at the same place if more follows. -/
theorem splitTag_extend {q : Quotation} {s before after : Bytes}
    (h : splitTag q s = some (before, after)) (more : Bytes) :
    splitTag q (s ++ more) = some (before, after ++ more) := by
  induction s generalizing q before with
  | nil => cases h
  | cons b rest ih =>
      rw [splitTag] at h
      rw [List.cons_append, splitTag]
      split at h
      · rename_i hend
        obtain ⟨rfl, rfl⟩ := Prod.mk.inj (Option.some.inj h)
        rw [if_pos hend]
      · rename_i hno
        obtain ⟨⟨x, y⟩, hrest, heq⟩ := Option.map_eq_some_iff.mp h
        obtain ⟨rfl, rfl⟩ := Prod.mk.inj heq
        rw [if_neg hno, ih hrest]
        rfl

/-- The end of a document type is met at the same place if more follows. -/
theorem splitDoctype_extend {depth : Nat} {s before after : Bytes}
    (h : splitDoctype depth s = some (before, after)) (more : Bytes) :
    splitDoctype depth (s ++ more) = some (before, after ++ more) := by
  induction s generalizing depth before with
  | nil => cases h
  | cons b rest ih =>
      -- All ways but the end itself go on in the rest with some depth.
      have hstep {d : Nat} (hd : (splitDoctype d rest).map
          (fun split => (b :: split.1, split.2)) = some (before, after)) :
          (splitDoctype d (rest ++ more)).map (fun split => (b :: split.1, split.2)) =
            some (before, after ++ more) := by
        obtain ⟨⟨x, y⟩, hrest, heq⟩ := Option.map_eq_some_iff.mp hd
        obtain ⟨rfl, rfl⟩ := Prod.mk.inj heq
        rw [ih hrest]
        rfl
      simp only [splitDoctype] at h
      simp only [List.cons_append, splitDoctype]
      by_cases hclose : b = code '>'
      · rw [if_pos hclose] at h ⊢
        cases depth with
        | zero =>
            obtain ⟨rfl, rfl⟩ := Prod.mk.inj (Option.some.inj h)
            rfl
        | succ depth => exact hstep h
      · rw [if_neg hclose] at h ⊢
        exact hstep h

/-! ### Markup -/

variable {s rest more : Bytes} {token : Token}

/-- Where one scan gives a token, the other gives the same one, with `more` after it. -/
def Scan.GoesOn (more : Bytes) (short long : Scan) : Prop :=
  ∀ token rest, short = .token token rest → long = .token token (rest ++ more)

namespace Scan.GoesOn

variable {x y x' y' : Scan}

theorem cut (t : Token) (rest : Bytes) : GoesOn more (.token t rest) (.token t (rest ++ more)) := by
  intro t' rest' h
  cases h
  rfl

theorem broken (fault : SyntaxFault) (rest : Bytes) (y : Scan) :
    GoesOn more (.broken fault rest) y := by
  intro t rest' h
  cases h

/-- Both scans may depend on the same condition. -/
theorem ite {c : Prop} [Decidable c] (hx : GoesOn more x x') (hy : GoesOn more y y') :
    GoesOn more (if c then x else y) (if c then x' else y') := by
  split
  · exact hx
  · exact hy

end Scan.GoesOn

open Scan

theorem scanTag_goesOn (s : Bytes) : GoesOn more (scanTag s) (scanTag (s ++ more)) := by
  unfold scanTag
  cases hs : splitTag .none s with
  | none => exact .broken _ _ _
  | some split =>
      rw [splitTag_extend hs]
      exact .ite (.cut _ _) (.cut _ _)

theorem scanClosing_goesOn (s : Bytes) : GoesOn more (scanClosing s) (scanClosing (s ++ more)) := by
  unfold scanClosing
  cases hs : splitTag .none s with
  | none => exact .broken _ _ _
  | some split =>
      rw [splitTag_extend hs]
      exact .cut _ _

theorem scanInstruction_goesOn (s : Bytes) :
    GoesOn more (scanInstruction s) (scanInstruction (s ++ more)) := by
  unfold scanInstruction
  cases hs : splitAtMark (codes "?>") s with
  | none => exact .broken _ _ _
  | some split =>
      rw [splitAtMark_extend (by decide) hs]
      exact .ite (.broken _ _ _) (.cut _ _)

theorem scanComment_goesOn (s : Bytes) : GoesOn more (scanComment s) (scanComment (s ++ more)) := by
  unfold scanComment
  cases hs : splitAtMark (codes "-->") (s.drop 2) with
  | none => exact .broken _ _ _
  | some split =>
      -- The mark was met after the first two bytes, so these are there.
      have hlength : 2 ≤ s.length := by
        have happend := congrArg List.length (splitAtMark_eq_append hs)
        have hmark : (codes "-->").length = 3 := by decide
        simp only [List.length_drop, List.length_append] at happend
        omega
      rw [List.drop_append_of_le_length hlength, splitAtMark_extend (by decide) hs]
      dsimp only
      split
      · rename_i hbegin
        have hlonger : codes "--" <+: s ++ more :=
          (List.isPrefixOf_iff_prefix.mp hbegin).trans (List.prefix_append s more)
        rw [if_pos (List.isPrefixOf_iff_prefix.mpr hlonger)]
        exact .cut _ _
      · exact .broken _ _ _

theorem scanCdata_goesOn (s : Bytes) : GoesOn more (scanCdata s) (scanCdata (s ++ more)) := by
  unfold scanCdata
  cases hs : splitAtMark (codes "]]>") s with
  | none => exact .broken _ _ _
  | some split =>
      rw [splitAtMark_extend (by decide) hs]
      exact .ite (.cut _ _) (.broken _ _ _)

theorem scanDoctype_goesOn (s : Bytes) : GoesOn more (scanDoctype s) (scanDoctype (s ++ more)) := by
  unfold scanDoctype
  cases hs : splitDoctype 0 s with
  | none => exact .broken _ _ _
  | some split =>
      rw [splitDoctype_extend hs]
      exact .ite (.ite (.broken _ _ _) (.cut _ _)) (.broken _ _ _)

theorem scanBang_goesOn (s : Bytes) : GoesOn more (scanBang s) (scanBang (s ++ more)) := by
  cases s with
  | nil => exact .broken _ _ _
  | cons b tail =>
      exact .ite (scanCdata_goesOn _)
        (.ite (scanComment_goesOn _) (.ite (scanDoctype_goesOn _) (.broken _ _ _)))

/-- Markup is cut off the same if more follows. -/
theorem scanMarkup_goesOn (s : Bytes) : GoesOn more (scanMarkup s) (scanMarkup (s ++ more)) := by
  cases s with
  | nil => exact .broken _ _ _
  | cons b tail =>
      exact .ite (scanBang_goesOn _)
        (.ite (scanClosing_goesOn _) (.ite (scanInstruction_goesOn _) (scanTag_goesOn _)))

/-! ### Pieces -/

/-- A piece is cut off the same if more follows, unless it is character data that goes on. -/
theorem scan_extend (h : scan s = .token token rest)
    (hends : (∀ raw, token ≠ .text raw) ∨ rest ≠ []) (more : Bytes) :
    scan (s ++ more) = .token token (rest ++ more) := by
  cases s with
  | nil => cases h
  | cons b tail =>
      rw [scan] at h
      rw [List.cons_append, scan]
      split at h
      · rename_i hless
        rw [if_pos hless]
        exact scanMarkup_goesOn tail _ _ h
      · rename_i hless
        rw [if_neg hless]
        obtain ⟨rfl, rfl⟩ := Scan.token.inj h
        -- The data ends at a `<` of its own, which stands in front of what follows.
        have hleft : tail.dropWhile (fun d => decide (d ≠ code '<')) ≠ [] :=
          hends.resolve_left fun hno => hno _ rfl
        have hshort : (tail.takeWhile fun d => decide (d ≠ code '<')).length ≠ tail.length := by
          intro hlength
          have hsum := congrArg List.length
            (List.takeWhile_append_dropWhile (p := fun d => decide (d ≠ code '<')) (l := tail))
          rw [List.length_append] at hsum
          exact hleft (List.length_eq_zero_iff.mp (by omega))
        rw [List.takeWhile_append, if_neg hshort, List.dropWhile_append,
          if_neg (by simpa using hleft)]

/-- Markup is broken or gives a token that is no character data. -/
theorem scanMarkup_cases (s : Bytes) :
    (∃ fault rest, scanMarkup s = .broken fault rest) ∨
      ∃ token rest, scanMarkup s = .token token rest ∧ ∀ raw, token ≠ .text raw := by
  unfold scanMarkup scanBang scanCdata scanComment scanDoctype scanClosing scanInstruction scanTag
  (repeat' split) <;> simp

/-- Character data up to the end is the beginning of longer data if more follows. -/
theorem scan_data_extend {raw : Bytes} (h : scan s = .token (.text raw) []) (more : Bytes) :
    ∃ longer after, scan (s ++ more) = .token (.text longer) after ∧ s <+: longer := by
  cases s with
  | nil => cases h
  | cons b tail =>
      rw [scan] at h
      rw [List.cons_append, scan]
      split at h
      · obtain ⟨fault, rest, hbroken⟩ | ⟨token, rest, htoken, hno⟩ := scanMarkup_cases tail
        · rw [hbroken] at h
          cases h
        · rw [htoken] at h
          exact absurd (Scan.token.inj h).1 (hno raw)
      · rename_i hless
        rw [if_neg hless]
        refine ⟨_, _, rfl, ?_⟩
        have hall : tail.dropWhile (fun d => decide (d ≠ code '<')) = [] := (Scan.token.inj h).2
        have hplain : ∀ d ∈ tail, decide (d ≠ code '<') = true := List.dropWhile_eq_nil_iff.mp hall
        rw [List.takeWhile_append_of_pos hplain, ← List.cons_append]
        exact List.prefix_append _ _

/-! ### Documents -/

/-- The bytes `front` end between two pieces of the document `front ++ rest`, or in character
data of it. -/
inductive CutClean : Bytes → Bytes → Prop
  /-- Nothing has been cut off. -/
  | start (rest : Bytes) : CutClean [] rest
  /-- The cut is in character data, or at its end. -/
  | data {front rest raw after : Bytes} (h : scan (front ++ rest) = .token (.text raw) after)
    (hfront : front <+: raw) : CutClean front rest
  /-- A piece comes first, and the cut is after it. -/
  | piece {front rest left : Bytes} {token : Token}
    (h : scan (front ++ rest) = .token token (left ++ rest)) (hleft : CutClean left rest) :
    CutClean front rest

theorem eq_nil_of_scan_finished {s : Bytes} (h : scan s = .finished) : s = [] := by
  cases s with
  | nil => rfl
  | cons b tail =>
      rw [scan] at h
      split at h
      · obtain ⟨fault, rest, hbroken⟩ | ⟨token, rest, htoken, -⟩ := scanMarkup_cases tail
        · rw [hbroken] at h
          cases h
        · rw [htoken] at h
          cases h
      · cases h

/-- If bytes are read without a fault, they are no document that was cut within markup. -/
theorem cutClean_of_readFrom {size : Nat} {names : List Bytes} {front : Bytes}
    (h : (readFrom size names front).fault = none) (rest : Bytes) : CutClean front rest := by
  fun_induction readFrom size names front with
  | case1 names front hscan =>
      rw [eq_nil_of_scan_finished hscan]
      exact .start rest
  | case2 names front fault left hscan => cases h
  | case3 names front token left hscan fault hevent => cases h
  | case4 names front token left hscan event names' hevent ih =>
      have hleft : CutClean left rest := ih h
      by_cases hends : (∀ raw, token ≠ .text raw) ∨ left ≠ []
      · exact .piece (scan_extend hscan hends rest) hleft
      -- Character data at the end: it may go on in the rest.
      · simp only [ne_eq, not_or, not_forall, Classical.not_not] at hends
        obtain ⟨⟨raw, rfl⟩, rfl⟩ := hends
        obtain ⟨longer, after, hlonger, hfront⟩ := scan_data_extend hscan rest
        exact .data hlonger hfront

/-- A document that was cut within markup is not read without a fault: where the next piece
is markup, the cut is not before its end. -/
theorem CutClean.length_le {front rest after : Bytes} {token : Token} (h : CutClean front rest)
    (hscan : scan (front ++ rest) = .token token after) (hmarkup : ∀ raw, token ≠ .text raw) :
    front = [] ∨ rest.length ≤ after.length := by
  cases h with
  | start => exact .inl rfl
  | data hdata =>
      rw [hscan] at hdata
      exact absurd (Scan.token.inj hdata).1 (hmarkup _)
  | piece hpiece =>
      rw [hscan] at hpiece
      rw [(Scan.token.inj hpiece).2, List.length_append]
      exact .inr (Nat.le_add_left _ _)

end CaseRunner.Markup

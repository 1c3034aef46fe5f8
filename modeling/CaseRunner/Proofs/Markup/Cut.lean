import CaseRunner.Markup.Token
import CaseRunner.Proofs.Markup.Written

/-!
# `CaseRunner.Proofs.Markup.Cut`: a written piece is cut off whole

Each piece that was written is cut off as one token, whatever follows it: `scan_cdata`,
`scan_comment` and so on. Character data goes on to the next `<`, so `scan_data` asks that
markup or the end of the document follows.

A mark is met first where it was written because it has only one `>`, its last character
(`splitAtMark_append`). The `>` of a tag is met first where it was written because names and
escaped values hold neither that nor a quotation mark (`Crossed`).
-/

set_option autoImplicit false

namespace CaseRunner.Markup

open CaseRunner.Text

/-! ### Marks -/

/-- A mark does not begin within the text before it, as its last element would have to stand
in its own front. -/
theorem not_prefix_append {mark front content rest : Bytes} {last : UInt8}
    (hmark : mark = front ++ [last]) (hlast : last ∉ front) (hcontent : content ≠ [])
    (hfree : ¬mark <+: content) : ¬mark <+: content ++ (mark ++ rest) := by
  intro hpre
  rcases List.prefix_or_prefix_of_prefix hpre (List.prefix_append content _) with h | h
  · exact hfree h
  -- The mark covers the content and goes on with `left`, which is a front of the mark again.
  · obtain ⟨left, hleft⟩ := h
    rw [← hleft] at hpre
    have hnext : left <+: mark ++ rest := by
      rw [← hleft]
      exact (List.prefix_append_right_inj content).mp hpre
    have hlen : content.length + left.length = front.length + 1 := by
      rw [← List.length_append, hleft, hmark, List.length_append, List.length_singleton]
    have hpos : 0 < content.length := List.length_pos_iff.mpr hcontent
    have hfront : left <+: front := by
      rw [hmark, List.append_assoc] at hnext
      exact List.prefix_of_prefix_length_le hnext (List.prefix_append front _) (by omega)
    have hend : last ∈ left := by
      have hne : left ≠ [] := by
        rintro rfl
        rw [List.append_nil] at hleft
        exact hfree (hleft ▸ List.prefix_rfl)
      have hlast? := congrArg List.getLast? (hleft.trans hmark)
      rw [List.getLast?_concat, List.getLast?_append, List.getLast?_eq_some_getLast hne,
        Option.some_or, ← List.getLast?_eq_some_getLast hne] at hlast?
      exact List.mem_of_getLast? hlast?
    exact hlast (hfront.subset hend)

/-- A mark is met first after a text that does not hold it. -/
theorem splitAtMark_append {mark front content : Bytes} {last : UInt8}
    (hmark : mark = front ++ [last]) (hlast : last ∉ front) (hfree : ¬mark <:+: content)
    (rest : Bytes) : splitAtMark mark (content ++ (mark ++ rest)) = some (content, rest) := by
  induction content with
  | nil =>
      obtain ⟨b, more, hcons⟩ : ∃ b more, mark = b :: more :=
        List.exists_cons_of_ne_nil (by simp [hmark])
      rw [List.nil_append, hcons, List.cons_append, splitAtMark, ← List.cons_append,
        if_pos (List.isPrefixOf_iff_prefix.mpr (List.prefix_append _ _)), List.drop_left]
  | cons b content ih =>
      -- The mark does not begin here: neither in the content, nor across its end.
      have hno : ¬mark.isPrefixOf (b :: content ++ (mark ++ rest)) = true := fun h =>
        not_prefix_append hmark hlast (List.cons_ne_nil _ _) (fun hpre => hfree hpre.isInfix)
          (List.isPrefixOf_iff_prefix.mp h)
      rw [List.cons_append] at hno ⊢
      rw [splitAtMark, if_neg hno, ih fun h => hfree (List.infix_cons h)]
      rfl

/-- The mark after an encoded text is met first if the text does not hold it. -/
theorem splitAtMark_encode {mark front text : List Char} (hmark : mark = front ++ ['>'])
    (hascii : ∀ c ∈ mark, c.toNat < 0x80) (hfront : '>' ∉ front) (hfree : ¬mark <:+: text)
    (rest : Bytes) :
    splitAtMark (encode mark) (encode text ++ (encode mark ++ rest)) =
      some (encode text, rest) := by
  have hlast : code '>' ∉ encode front := fun h =>
    hfront ((code_mem_encode (by decide) front).mp h)
  have hencoded : encode mark = encode front ++ [code '>'] := by
    rw [hmark, encode_append]
    rfl
  refine splitAtMark_append hencoded hlast (fun h => hfree ?_) rest
  rw [encode_of_ascii hascii] at h
  exact infix_of_encode (by simp [hmark]) hascii h

theorem codes_sectionEnd : codes "]]>" = encode sectionEnd := rfl

theorem codes_commentEnd : codes "-->" = encode commentEnd := rfl

theorem codes_instructionEnd : codes "?>" = encode instructionEnd := rfl

/-! ### Character data, sections, comments and instructions -/

/-- Character data goes on to the next markup. -/
theorem scan_data {text : List Char} (htext : text ≠ []) {rest : Bytes}
    (hrest : ∀ b, rest.head? = some b → b = code '<') :
    scan (encode (escape text) ++ rest) = .token (.text (encode (escape text))) rest := by
  have hplain : ∀ b ∈ encode (escape text), decide (b ≠ code '<') = true := by
    intro b hb
    refine decide_eq_true fun heq => not_mem_escape (.inl rfl) text ?_
    exact (code_mem_encode (by decide) _).mp (heq ▸ hb)
  cases hcase : encode (escape text) with
  | nil => exact absurd hcase (encode_ne_nil (escape_ne_nil htext))
  | cons b more =>
      rw [hcase] at hplain
      have hb : ¬b = code '<' := of_decide_eq_true (hplain b List.mem_cons_self)
      have hmore : ∀ d ∈ more, decide (d ≠ code '<') = true := fun d hd =>
        hplain d (List.mem_cons_of_mem _ hd)
      -- What follows is nothing or begins with `<`, so no more is taken from it.
      have hstop : rest.takeWhile (fun d => decide (d ≠ code '<')) = [] ∧
          rest.dropWhile (fun d => decide (d ≠ code '<')) = rest := by
        cases rest with
        | nil => exact ⟨rfl, rfl⟩
        | cons d rest =>
            have hd : d = code '<' := hrest d rfl
            exact ⟨by simp [hd], by simp [hd]⟩
      rw [List.cons_append, scan, if_neg hb, List.takeWhile_append_of_pos hmore,
        List.dropWhile_append_of_pos hmore, hstop.1, hstop.2, List.append_nil]

/-- A section is cut off at its end. -/
theorem scan_cdata (p : Passage [] sectionEnd) (rest : Bytes) :
    scan (encode (Piece.cdata p).written ++ rest) = .token (.cdata (encode p.text)) rest := by
  -- The end is looked for from the first bracket on, and begins with no character of `[CDATA[`.
  have hfree : ¬sectionEnd <:+: ['[', 'C', 'D', 'A', 'T', 'A', '['] ++ p.text := fun h =>
    p.free (infix_of_infix_append (by simp) h)
  have hsplit := splitAtMark_encode (show sectionEnd = [']', ']'] ++ ['>'] from rfl)
    (by simp [sectionEnd]) (by decide) hfree rest
  have hwritten : encode (Piece.cdata p).written ++ rest =
      code '<' :: code '!' :: (encode (['[', 'C', 'D', 'A', 'T', 'A', '['] ++ p.text) ++
        (encode sectionEnd ++ rest)) := by
    simp only [Piece.written, encode_append, List.append_assoc]
    rfl
  have hbegin : (codes "[CDATA[").isPrefixOf
      (encode (['[', 'C', 'D', 'A', 'T', 'A', '['] ++ p.text)) = true := by
    rw [encode_append]
    exact List.isPrefixOf_iff_prefix.mpr (List.prefix_append _ _)
  rw [hwritten]
  show scanCdata _ = _
  rw [scanCdata, codes_sectionEnd, hsplit]
  show (if _ then _ else _) = _
  rw [if_pos hbegin, encode_append]
  rfl

/-- A comment is cut off at its end. -/
theorem scan_comment (p : Passage [] commentEnd) (rest : Bytes) :
    scan (encode (Piece.comment p).written ++ rest) = .token .aside rest := by
  have hfree : ¬commentEnd <:+: p.text := p.free
  have hsplit := splitAtMark_encode (show commentEnd = ['-', '-'] ++ ['>'] from rfl)
    (by simp [commentEnd]) (by decide) hfree rest
  have hwritten : encode (Piece.comment p).written ++ rest =
      code '<' :: code '!' :: code '-' :: code '-' ::
        (encode p.text ++ (encode commentEnd ++ rest)) := by
    simp only [Piece.written, encode_append, List.append_assoc]
    rfl
  rw [hwritten]
  show scanComment _ = _
  rw [scanComment, codes_commentEnd, List.drop_succ_cons, List.drop_succ_cons, List.drop_zero,
    hsplit]
  rfl

/-- An instruction is cut off at its end. -/
theorem scan_instruction (p : Passage ['?'] instructionEnd) (rest : Bytes) :
    scan (encode (Piece.instruction p).written ++ rest) = .token .aside rest := by
  have hsplit := splitAtMark_encode (show instructionEnd = ['?'] ++ ['>'] from rfl)
    (by simp [instructionEnd]) (by decide) p.free rest
  have hwritten : encode (Piece.instruction p).written ++ rest =
      code '<' :: (encode (['?'] ++ p.text) ++ (encode instructionEnd ++ rest)) := by
    simp only [Piece.written, encode_append, List.append_assoc]
    rfl
  rw [hwritten]
  show scanInstruction _ = _
  rw [scanInstruction, codes_instructionEnd, hsplit]
  rfl

/-! ### Tags -/

/-- The end of a tag is met only after `s`, if it is looked for outside quotation marks, and
no quotation is open after `s`. -/
def Crossed (s : Bytes) : Prop :=
  ∀ rest, splitTag .none (s ++ rest) =
    (splitTag .none rest).map fun (before, after) => (s ++ before, after)

theorem splitTag_of_crossed {s : Bytes} (h : Crossed s) (rest : Bytes) :
    splitTag .none (s ++ code '>' :: rest) = some (s, rest) := by
  rw [h, splitTag, if_pos ⟨rfl, rfl⟩]
  simp

theorem crossed_nil : Crossed [] := fun rest => by simp

theorem crossed_append {s t : Bytes} (hs : Crossed s) (ht : Crossed t) : Crossed (s ++ t) := by
  intro rest
  rw [List.append_assoc, hs, ht, Option.map_map]
  congr 1
  funext split
  simp

/-- Bytes without a meaning in a tag are crossed. -/
theorem crossed_plain {s : Bytes}
    (h : ∀ b ∈ s, b ≠ code '>' ∧ b ≠ code '"' ∧ b ≠ code '\'') : Crossed s := by
  induction s with
  | nil => exact crossed_nil
  | cons b s ih =>
      intro rest
      obtain ⟨hend, hdouble, hsingle⟩ := h b List.mem_cons_self
      have hnext : Quotation.next .none b = .none := by
        rw [Quotation.next, if_neg hsingle, if_neg hdouble]
      have hrest := ih (fun d hd => h d (List.mem_cons_of_mem _ hd)) rest
      rw [List.cons_append, splitTag, if_neg fun hb => hend hb.2, hnext, hrest, Option.map_map]
      rfl

/-- What stands in double quotation marks is crossed to the second mark. -/
theorem splitTag_double {value : Bytes} (h : code '"' ∉ value) (rest : Bytes) :
    splitTag .double (value ++ code '"' :: rest) =
      (splitTag .none rest).map fun (before, after) => (value ++ code '"' :: before, after) := by
  induction value with
  | nil => rw [List.nil_append, splitTag, if_neg (by simp), Quotation.next, if_pos rfl]; rfl
  | cons b value ih =>
      have hb : b ≠ code '"' := fun heq => h (heq ▸ List.mem_cons_self)
      have hrest := ih fun hd => h (List.mem_cons_of_mem _ hd)
      rw [List.cons_append, splitTag, if_neg (by simp), Quotation.next, if_neg hb, hrest,
        Option.map_map]
      rfl

/-- A value in double quotation marks is crossed. -/
theorem crossed_quoted {value : Bytes} (h : code '"' ∉ value) :
    Crossed (code '"' :: (value ++ [code '"'])) := by
  intro rest
  rw [List.cons_append, splitTag, if_neg (by decide), Quotation.next, if_neg (by decide),
    if_pos rfl, List.append_assoc, List.singleton_append, splitTag_double h, Option.map_map]
  congr 1
  funext split
  simp

/-- A character with a meaning in a tag is not in a name. -/
theorem Name.code_not_mem (name : Name) {c : Char} (hascii : c.toNat < 0x80)
    (h : isNameChar c = false) : code c ∉ encode name.chars := by
  intro hmem
  have htrue := List.all_eq_true.mp name.plain c ((code_mem_encode hascii _).mp hmem)
  rw [h] at htrue
  exact Bool.noConfusion htrue

theorem Name.crossed (name : Name) : Crossed (encode name.chars) := by
  refine crossed_plain fun b hb => ⟨?_, ?_, ?_⟩
  · exact fun heq => name.code_not_mem (by decide) (by decide) (heq ▸ hb)
  · exact fun heq => name.code_not_mem (by decide) (by decide) (heq ▸ hb)
  · exact fun heq => name.code_not_mem (by decide) (by decide) (heq ▸ hb)

theorem crossed_attributes (entries : List (Name × List Char)) :
    Crossed (encode (writtenAttributes entries)) := by
  induction entries with
  | nil => exact crossed_nil
  | cons entry entries ih =>
      obtain ⟨key, value⟩ := entry
      have hvalue : code '"' ∉ encode (escape value) := fun h =>
        not_mem_escape (.inr (.inr rfl)) value ((code_mem_encode (by decide) _).mp h)
      -- Only the value can hold a `>`, and it stands in quotation marks.
      have hsplit : encode (writtenAttributes ((key, value) :: entries)) =
          [code ' '] ++ (encode key.chars ++ ([code '='] ++
            ((code '"' :: (encode (escape value) ++ [code '"'])) ++
              encode (writtenAttributes entries)))) := by
        rw [encode_writtenAttributes_cons]
        simp
      rw [hsplit]
      refine crossed_append (crossed_plain (by decide +kernel)) (crossed_append key.crossed
        (crossed_append (crossed_plain (by decide +kernel)) (crossed_append ?_ ih)))
      exact crossed_quoted hvalue

theorem StartTag.crossed (tag : StartTag) : Crossed (encode tag.written) := by
  rw [StartTag.written, encode_append]
  exact crossed_append tag.name.crossed (crossed_attributes _)

/-- A name shows that a tag begins, and not another kind of markup. -/
theorem scanMarkup_name (name : Name) (rest : Bytes) :
    scanMarkup (encode name.chars ++ rest) = scanTag (encode name.chars ++ rest) := by
  obtain ⟨b, more, hcons⟩ := List.exists_cons_of_ne_nil (encode_ne_nil name.nonempty)
  have hmem : b ∈ encode name.chars := hcons ▸ List.mem_cons_self
  have hbang : b ≠ code '!' := fun h =>
    name.code_not_mem (by decide) (by decide) (h ▸ hmem)
  have hslash : b ≠ code '/' := fun h =>
    name.code_not_mem (by decide) (by decide) (h ▸ hmem)
  have hquestion : b ≠ code '?' := fun h =>
    name.code_not_mem (by decide) (by decide) (h ▸ hmem)
  rw [hcons, List.cons_append, scanMarkup, if_neg hbang, if_neg hslash, if_neg hquestion]

/-- The content of a tag does not end in the slash of a tag that closes itself. -/
theorem StartTag.getLast?_ne (tag : StartTag) :
    (encode tag.written).getLast? ≠ some (code '/') := by
  intro hlast
  -- The slash would be a byte of the name, or of attributes that end in a quotation mark.
  rcases List.eq_nil_or_concat tag.attributes.entries with hnil | ⟨entries, ⟨key, value⟩, hsome⟩
  · rw [StartTag.written, hnil, writtenAttributes_nil, List.append_nil] at hlast
    exact tag.name.code_not_mem (by decide) (by decide) (List.mem_of_getLast? hlast)
  · have hend : tag.written = tag.name.chars ++ writtenAttributes entries ++
        ' ' :: (key.chars ++ '=' :: '"' :: escape value) ++ ['"'] := by
      rw [StartTag.written, hsome]
      simp [writtenAttributes]
    have hquote : encode ['"'] = [code '"'] := rfl
    rw [hend, encode_append, hquote, List.getLast?_concat] at hlast
    exact absurd (Option.some.inj hlast) (by decide)

/-- The beginning of an element is cut off whole. -/
theorem scan_opening (tag : StartTag) (rest : Bytes) :
    scan (encode (Piece.opening tag).written ++ rest) =
      .token (.opening (encode tag.written)) rest := by
  have hwritten : encode (Piece.opening tag).written ++ rest =
      code '<' :: (encode tag.written ++ code '>' :: rest) := by
    rw [Piece.written, encode_cons_of_ascii (by decide), encode_append,
      encode_cons_of_ascii (by decide), encode_nil]
    simp
  have htag : scanMarkup (encode tag.written ++ code '>' :: rest) =
      scanTag (encode tag.written ++ code '>' :: rest) := by
    rw [StartTag.written, encode_append, List.append_assoc]
    exact scanMarkup_name _ _
  rw [hwritten, scan, if_pos rfl, htag, scanTag, splitTag_of_crossed tag.crossed]
  exact if_neg tag.getLast?_ne

/-- An element without content is cut off whole. -/
theorem scan_empty (tag : StartTag) (rest : Bytes) :
    scan (encode (Piece.empty tag).written ++ rest) =
      .token (.empty (encode tag.written)) rest := by
  have hwritten : encode (Piece.empty tag).written ++ rest =
      code '<' :: (encode tag.written ++ [code '/'] ++ code '>' :: rest) := by
    rw [Piece.written, encode_cons_of_ascii (by decide), encode_append,
      encode_cons_of_ascii (by decide), encode_cons_of_ascii (by decide), encode_nil]
    simp
  have htag : scanMarkup (encode tag.written ++ [code '/'] ++ code '>' :: rest) =
      scanTag (encode tag.written ++ [code '/'] ++ code '>' :: rest) := by
    rw [StartTag.written, encode_append, List.append_assoc, List.append_assoc]
    exact scanMarkup_name _ _
  have hcrossed : Crossed (encode tag.written ++ [code '/']) :=
    crossed_append tag.crossed (crossed_plain (by decide +kernel))
  rw [hwritten, scan, if_pos rfl, htag, scanTag, splitTag_of_crossed hcrossed]
  show (if _ then _ else _) = _
  rw [if_pos List.getLast?_concat, List.dropLast_concat]

/-- The end of an element is cut off whole. -/
theorem scan_closing (name : Name) (rest : Bytes) :
    scan (encode (Piece.closing name).written ++ rest) =
      .token (.closing (encode name.chars)) rest := by
  have hwritten : encode (Piece.closing name).written ++ rest =
      code '<' :: code '/' :: (encode name.chars ++ code '>' :: rest) := by
    rw [Piece.written, encode_append, encode_append]
    simp only [List.append_assoc]
    rfl
  rw [hwritten]
  show scanClosing _ = _
  rw [scanClosing, splitTag_of_crossed name.crossed]

end CaseRunner.Markup

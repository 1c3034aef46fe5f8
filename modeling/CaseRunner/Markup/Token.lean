import CaseRunner.Text.Utf8

/-!
# `CaseRunner.Markup.Token`: where the pieces of a document end

A document is cut into stretches of character data and markup. Markup runs from a `<` to
the `>` that ends its kind: the first one outside quotation marks for a tag, the one
after two dashes for a comment, and so on. Cutting does not look into a tag; it only
tells an opening tag from a closing one and from one that closes itself.

`scan` cuts the first piece off. Either it returns a token and the bytes after it, which
are fewer (`scan_token_length`), or it says what is broken and which bytes had not been
passed by then.
-/

set_option autoImplicit false

namespace CaseRunner.Markup

/-- The code of an ASCII character. -/
abbrev code (c : Char) : UInt8 := c.toUInt8

/-- The bytes of a text that is known to be ASCII. -/
def codes (s : String) : Bytes := s.toList.map code

/-- Whether the byte is a space, a tab or a line end. -/
def isSpace (b : UInt8) : Bool :=
  b = code ' ' || b = code '\t' || b = code '\n' || b = code '\r'

/-- The small form of an ASCII letter; any other byte stays. -/
def lowerCode (b : UInt8) : UInt8 :=
  if code 'A' ≤ b && b ≤ code 'Z' then b + 0x20 else b

/-- Whether two names are equal but for the case of ASCII letters. -/
def sameIgnoringCase (a b : Bytes) : Bool := a.map lowerCode = b.map lowerCode

/-- A piece of a document. -/
inductive Token where
  /-- Character data, as written. -/
  | text (raw : Bytes)
  /-- The content of a CDATA section. -/
  | cdata (raw : Bytes)
  /-- A comment, a processing instruction, a declaration or a document type. -/
  | aside
  /-- The content of an opening tag. -/
  | opening (content : Bytes)
  /-- The content of a tag that closes itself, its last slash left out. -/
  | empty (content : Bytes)
  /-- The content of a closing tag after its slash. -/
  | closing (content : Bytes)
  deriving DecidableEq, Repr

/-- Why markup cannot be cut off. -/
inductive SyntaxFault where
  /-- What follows `<!` begins no kind of markup. -/
  | unknownMarkup
  /-- A processing instruction or declaration without its end. -/
  | openInstruction
  /-- A comment without its end. -/
  | openComment
  /-- A document type without its end. -/
  | openDoctype
  /-- A CDATA section without its end. -/
  | openCdata
  /-- A tag without its end. -/
  | openTag
  /-- A document type that names none. -/
  | namelessDoctype
  deriving DecidableEq, Repr

/-- What a syntax fault is called. -/
def SyntaxFault.message : SyntaxFault → String
  | .unknownMarkup => "syntax error: unknown or missed symbol in markup"
  | .openInstruction => "syntax error: processing instruction or xml declaration not closed: "
      ++ "`?>` not found before end of input"
  | .openComment => "syntax error: comment not closed: `-->` not found before end of input"
  | .openDoctype => "syntax error: DOCTYPE not closed: `>` not found before end of input"
  | .openCdata => "syntax error: CDATA not closed: `]]>` not found before end of input"
  | .openTag => "syntax error: tag not closed: `>` not found before end of input"
  | .namelessDoctype => "ill-formed document: `<!DOCTYPE>` declaration does not contain a "
      ++ "name of a document type"

/-- Splits at the first place where `mark` stands, and leaves the mark out. -/
def splitAtMark (mark : Bytes) : Bytes → Option (Bytes × Bytes)
  | [] => if mark.isEmpty then some ([], []) else none
  | b :: rest =>
    if mark.isPrefixOf (b :: rest) then some ([], (b :: rest).drop mark.length)
    else (splitAtMark mark rest).map fun (before, after) => (b :: before, after)

/-- The quotation mark that a place in a tag is within, if any. -/
inductive Quotation where
  /-- No quotation is open. -/
  | none
  /-- A quotation in single marks is open. -/
  | single
  /-- A quotation in double marks is open. -/
  | double
  deriving DecidableEq, Repr

/-- The quotation that is open after one more byte. -/
def Quotation.next (q : Quotation) (b : UInt8) : Quotation :=
  match q with
  | .none => if b = code '\'' then .single else if b = code '"' then .double else .none
  | .single => if b = code '\'' then .none else .single
  | .double => if b = code '"' then .none else .double

/-- Splits at the `>` that ends a tag, and leaves it out. -/
def splitTag (q : Quotation) : Bytes → Option (Bytes × Bytes)
  | [] => Option.none
  | b :: rest =>
    if q = .none ∧ b = code '>' then some ([], rest)
    else (splitTag (q.next b) rest).map fun (before, after) => (b :: before, after)

/-- Splits at the `>` that ends a document type, with `depth` brackets open inside it. -/
def splitDoctype (depth : Nat) : Bytes → Option (Bytes × Bytes)
  | [] => none
  | b :: rest =>
    if b = code '>' then
      match depth with
      | 0 => some ([], rest)
      | depth + 1 => (splitDoctype depth rest).map fun (before, after) => (b :: before, after)
    else
      (splitDoctype (if b = code '<' then depth + 1 else depth) rest).map
        fun (before, after) => (b :: before, after)

/-- The outcome of cutting one piece off a document. -/
inductive Scan where
  /-- The document is at its end. -/
  | finished
  /-- A piece, and the bytes after it. -/
  | token (t : Token) (rest : Bytes)
  /-- Broken markup, and the bytes not passed when that became clear. -/
  | broken (fault : SyntaxFault) (rest : Bytes)
  deriving DecidableEq, Repr

/-- Cuts off what follows `<`, up to its end. A tag whose content ends in a slash closes
itself. -/
def scanTag (s : Bytes) : Scan :=
  match splitTag .none s with
  | none => .broken .openTag []
  | some (content, rest) =>
    if content.getLast? = some (code '/') then .token (.empty content.dropLast) rest
    else .token (.opening content) rest

/-- Cuts off a closing tag; `s` is what follows `</`. -/
def scanClosing (s : Bytes) : Scan :=
  match splitTag .none s with
  | none => .broken .openTag []
  | some (content, rest) => .token (.closing content) rest

/-- Cuts off an instruction or declaration; `s` is what follows `<`, from its question
mark. A question mark does not both begin and end one. -/
def scanInstruction (s : Bytes) : Scan :=
  match splitAtMark (codes "?>") s with
  | none => .broken .openInstruction []
  | some (content, rest) =>
    if content.isEmpty then .broken .openInstruction rest else .token .aside rest

/-- Cuts off a comment; `s` is what follows `<!`. Its two marks do not share a dash. -/
def scanComment (s : Bytes) : Scan :=
  match splitAtMark (codes "-->") (s.drop 2) with
  | none => .broken .openComment []
  | some (_, rest) =>
    if (codes "--").isPrefixOf s then .token .aside rest else .broken .openComment rest

/-- Cuts off a CDATA section; `s` is what follows `<!`. -/
def scanCdata (s : Bytes) : Scan :=
  match splitAtMark (codes "]]>") s with
  | none => .broken .openCdata []
  | some (content, rest) =>
    if (codes "[CDATA[").isPrefixOf content then .token (.cdata (content.drop 7)) rest
    else .broken .openCdata rest

/-- Cuts off a document type; `s` is what follows `<!`. -/
def scanDoctype (s : Bytes) : Scan :=
  match splitDoctype 0 s with
  | none => .broken .openDoctype []
  | some (content, rest) =>
    if sameIgnoringCase (content.take 7) (codes "DOCTYPE") then
      if (content.drop 7).all isSpace then .broken .namelessDoctype rest
      else .token .aside rest
    else .broken .openDoctype rest

/-- Cuts off markup that begins with `<!`; `s` is what follows the exclamation mark. The
kind shows in the next byte. Of unknown markup only the `<` counts as passed. -/
def scanBang (s : Bytes) : Scan :=
  match s with
  | [] => .broken .unknownMarkup (code '!' :: s)
  | b :: _ =>
    if b = code '[' then scanCdata s
    else if b = code '-' then scanComment s
    else if b = code 'D' ∨ b = code 'd' then scanDoctype s
    else .broken .unknownMarkup (code '!' :: s)

/-- Cuts off markup; `s` is what follows its `<`. -/
def scanMarkup (s : Bytes) : Scan :=
  match s with
  | [] => .broken .openTag []
  | b :: rest =>
    if b = code '!' then scanBang rest
    else if b = code '/' then scanClosing rest
    else if b = code '?' then scanInstruction s
    else scanTag s

/-- Cuts the first piece off a document. -/
def scan (s : Bytes) : Scan :=
  match s with
  | [] => .finished
  | b :: rest =>
    if b = code '<' then scanMarkup rest
    else .token (.text (b :: rest.takeWhile (· ≠ code '<'))) (rest.dropWhile (· ≠ code '<'))

/-! ### Cutting gets on -/

/-- Splitting at a mark leaves no more than there was. -/
theorem splitAtMark_length {mark s before after : Bytes}
    (h : splitAtMark mark s = some (before, after)) : after.length ≤ s.length := by
  induction s generalizing before after with
  | nil =>
      simp only [splitAtMark] at h
      split at h <;> simp_all
  | cons b rest ih =>
      simp only [splitAtMark] at h
      split at h
      · simp only [Option.some.injEq, Prod.mk.injEq] at h
        rw [← h.2]
        simp
      · obtain ⟨⟨x, y⟩, hxy, heq⟩ := Option.map_eq_some_iff.mp h
        have := ih hxy
        simp only [Prod.mk.injEq] at heq
        simp only [List.length_cons]
        grind

/-- Splitting at the end of a tag leaves fewer bytes than there were. -/
theorem splitTag_length {q : Quotation} {s before after : Bytes}
    (h : splitTag q s = some (before, after)) : after.length < s.length := by
  induction s generalizing q before after with
  | nil => simp [splitTag] at h
  | cons b rest ih =>
      simp only [splitTag] at h
      split at h
      · simp only [Option.some.injEq, Prod.mk.injEq] at h
        rw [← h.2]
        simp
      · obtain ⟨⟨x, y⟩, hxy, heq⟩ := Option.map_eq_some_iff.mp h
        have := ih hxy
        simp only [Prod.mk.injEq] at heq
        simp only [List.length_cons]
        grind

/-- Splitting at the end of a document type leaves fewer bytes than there were. -/
theorem splitDoctype_length {depth : Nat} {s before after : Bytes}
    (h : splitDoctype depth s = some (before, after)) : after.length < s.length := by
  induction s generalizing depth before after with
  | nil => simp [splitDoctype] at h
  | cons b rest ih =>
      have step : ∀ {d : Nat}, (splitDoctype d rest).map
          (fun (before, after) => (b :: before, after)) = some (before, after) →
          after.length < (b :: rest).length := by
        intro d hd
        obtain ⟨⟨x, y⟩, hxy, heq⟩ := Option.map_eq_some_iff.mp hd
        have := ih hxy
        simp only [Prod.mk.injEq] at heq
        simp only [List.length_cons]
        grind
      simp only [splitDoctype] at h
      split at h
      · split at h
        · simp only [Option.some.injEq, Prod.mk.injEq] at h
          rw [← h.2]
          simp
        · exact step h
      · exact step h

/-- Dropping bytes from the front leaves no more than there were. -/
theorem dropWhile_length_le (p : UInt8 → Bool) (s : Bytes) :
    (s.dropWhile p).length ≤ s.length := (List.dropWhile_sublist p).length_le

/-- A tag takes something from what follows the `<`. -/
theorem scanTag_token_length {s rest : Bytes} {t : Token} (h : scanTag s = .token t rest) :
    rest.length < s.length := by
  unfold scanTag at h
  rcases hs : splitTag .none s with _ | ⟨content, left⟩
  · simp [hs] at h
  · have := splitTag_length hs
    simp only [hs] at h
    split at h <;> simp only [Scan.token.injEq] at h <;> rw [← h.2] <;> exact this

/-- A closing tag takes something from what follows the `</`. -/
theorem scanClosing_token_length {s rest : Bytes} {t : Token}
    (h : scanClosing s = .token t rest) : rest.length < s.length := by
  unfold scanClosing at h
  rcases hs : splitTag .none s with _ | ⟨content, left⟩
  · simp [hs] at h
  · have := splitTag_length hs
    simp only [hs, Scan.token.injEq] at h
    rw [← h.2]
    exact this

/-- An instruction leaves no more than what follows the `<`. -/
theorem scanInstruction_token_length {s rest : Bytes} {t : Token}
    (h : scanInstruction s = .token t rest) : rest.length ≤ s.length := by
  unfold scanInstruction at h
  rcases hs : splitAtMark (codes "?>") s with _ | ⟨content, left⟩
  · simp [hs] at h
  · have := splitAtMark_length hs
    simp only [hs] at h
    split at h <;> simp only [Scan.token.injEq, reduceCtorEq] at h
    rw [← h.2]
    exact this

/-- Markup of the `<!` kinds leaves no more than what follows the `<!`. -/
theorem scanBang_token_length {s rest : Bytes} {t : Token}
    (h : scanBang s = .token t rest) : rest.length ≤ s.length := by
  unfold scanBang at h
  split at h
  · simp at h
  · rename_i b tail
    split at h
    · unfold scanCdata at h
      rcases hs : splitAtMark (codes "]]>") (b :: tail) with _ | ⟨content, left⟩
      · simp [hs] at h
      · have := splitAtMark_length hs
        simp only [hs] at h
        split at h <;> simp only [Scan.token.injEq, reduceCtorEq] at h
        rw [← h.2]
        exact this
    · split at h
      · unfold scanComment at h
        rcases hs : splitAtMark (codes "-->") ((b :: tail).drop 2) with _ | ⟨content, left⟩
        · simp only [hs, reduceCtorEq] at h
        · have := splitAtMark_length hs
          simp only [hs] at h
          split at h <;> simp only [Scan.token.injEq, reduceCtorEq] at h
          rw [← h.2]
          simp only [List.length_drop] at this
          omega
      · split at h
        · unfold scanDoctype at h
          rcases hs : splitDoctype 0 (b :: tail) with _ | ⟨content, left⟩
          · simp [hs] at h
          · have := splitDoctype_length hs
            simp only [hs] at h
            (repeat' split at h) <;> simp only [Scan.token.injEq, reduceCtorEq] at h
            rw [← h.2]
            omega
        · simp at h

/-- Markup leaves no more than what follows the `<`. -/
theorem scanMarkup_token_length {s rest : Bytes} {t : Token}
    (h : scanMarkup s = .token t rest) : rest.length ≤ s.length := by
  unfold scanMarkup at h
  split at h
  · simp at h
  · simp only [List.length_cons]
    (repeat' split at h)
    · have := scanBang_token_length h
      omega
    · have := scanClosing_token_length h
      omega
    · have := scanInstruction_token_length h
      simpa using this
    · have := scanTag_token_length h
      simp only [List.length_cons] at this
      omega

/-- A token takes something from the document. -/
theorem scan_token_length {s rest : Bytes} {t : Token} (h : scan s = .token t rest) :
    rest.length < s.length := by
  unfold scan at h
  split at h
  · simp at h
  · split at h
    · have := scanMarkup_token_length h
      simp only [List.length_cons]
      omega
    · simp only [Scan.token.injEq] at h
      rw [← h.2]
      simp only [List.length_cons]
      exact Nat.lt_succ_of_le (dropWhile_length_le _ _)

end CaseRunner.Markup

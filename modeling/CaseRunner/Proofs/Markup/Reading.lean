import CaseRunner.Markup.Event
import CaseRunner.Proofs.Markup.Cut

/-!
# `CaseRunner.Proofs.Markup.Reading`: what is written is read

`read_written` says what is read of a row of pieces whose tags nest. Every piece but comments
and instructions makes one event, except that character data makes one event as far as no
markup comes between, and none if it is empty. `eventsFrom` therefore collects character data
until the next markup.

The attributes of a tag are read as they were written, in order: `attributes_written`.
-/

set_option autoImplicit false

namespace CaseRunner.Markup

open CaseRunner.Text

/-! ### Attributes -/

theorem Name.not_isSpace (name : Name) {b : UInt8} (h : b ∈ encode name.chars) :
    isSpace b = false := by
  have hspace : b ≠ code ' ' := fun heq => name.code_not_mem (by decide) (by decide) (heq ▸ h)
  have htab : b ≠ code '\t' := fun heq => name.code_not_mem (by decide) (by decide) (heq ▸ h)
  have hfeed : b ≠ code '\n' := fun heq => name.code_not_mem (by decide) (by decide) (heq ▸ h)
  have hreturn : b ≠ code '\r' := fun heq => name.code_not_mem (by decide) (by decide) (heq ▸ h)
  simp [isSpace, hspace, htab, hfeed, hreturn]

theorem Name.not_endsKey (name : Name) {b : UInt8} (h : b ∈ encode name.chars) :
    endsKey b = false := by
  have hequals : b ≠ code '=' := fun heq =>
    name.code_not_mem (by decide) (by decide) (heq ▸ h)
  simp [endsKey, hequals, name.not_isSpace h]

/-- A key is read up to its equals sign. -/
theorem scanKey_written (size : Nat) (key : Name) (rest : Bytes) :
    ∃ position, scanKey size (code ' ' :: (encode key.chars ++ code '=' :: rest)) =
      .key position (encode key.chars) rest := by
  obtain ⟨b, more, hcons⟩ := List.exists_cons_of_ne_nil (encode_ne_nil key.nonempty)
  have hb : isSpace b = false := key.not_isSpace (hcons ▸ List.mem_cons_self)
  have hmore : ∀ d ∈ more, (!endsKey d) = true := fun d hd => by
    rw [key.not_endsKey (hcons ▸ List.mem_cons_of_mem _ hd)]
    rfl
  have hspace : isSpace (code ' ') = true := by decide
  have hends : endsKey (code '=') = true := by decide
  have hequals : isSpace (code '=') = false := by decide
  refine ⟨size - ((more ++ code '=' :: rest).length + 1), ?_⟩
  rw [hcons, scanKey, List.dropWhile_cons_of_pos hspace, List.cons_append,
    List.dropWhile_cons_of_neg (by simp [hb])]
  show scanEquals _ _ _ _ = _
  rw [List.takeWhile_append_of_pos hmore, List.dropWhile_append_of_pos hmore,
    List.takeWhile_cons_of_neg (by simp [hends]), List.dropWhile_cons_of_neg (by simp [hends]),
    scanEquals, List.dropWhile_cons_of_neg (by simp [hequals]), List.append_nil]
  exact if_pos rfl

/-- A value is read up to its second quotation mark. -/
theorem scanValue_written (size : Nat) {value : Bytes} (h : code '"' ∉ value) (rest : Bytes) :
    scanValue size (code '"' :: (value ++ code '"' :: rest)) = .ok (value, rest) := by
  have hvalue : ∀ b ∈ value, decide (b ≠ code '"') = true := fun b hb =>
    decide_eq_true fun heq => h (heq ▸ hb)
  have hquote : isSpace (code '"') = false := by decide
  rw [scanValue, List.dropWhile_cons_of_neg (by simp [hquote])]
  show scanQuoted size '"' _ = _
  rw [scanQuoted, List.takeWhile_append_of_pos hvalue, List.dropWhile_append_of_pos hvalue]
  simp

/-- One attribute with a new key is read, and then the others. -/
theorem attributesFrom_key {size position : Nat} {seen : List RawAttribute}
    {s key rest value left : Bytes} (hkey : scanKey size s = .key position key rest)
    (hnew : seen.find? (·.key = key) = none) (hvalue : scanValue size rest = .ok (value, left)) :
    attributesFrom size seen s =
      (⟨position, key, value⟩ :: (attributesFrom size (seen ++ [⟨position, key, value⟩]) left).1,
        (attributesFrom size (seen ++ [⟨position, key, value⟩]) left).2) := by
  rw [attributesFrom]
  split
  case h_1 h => exact absurd (hkey.symm.trans h) (by simp)
  case h_2 h => exact absurd (hkey.symm.trans h) (by simp)
  case h_3 h =>
    obtain ⟨rfl, rfl, rfl⟩ := KeyScan.key.inj (hkey.symm.trans h)
    simp only [hnew]
    split
    case h_1 h₂ => exact absurd (hvalue.symm.trans h₂) (by simp)
    case h_2 h₂ =>
      obtain ⟨rfl, rfl⟩ := Prod.mk.inj (Except.ok.inj (hvalue.symm.trans h₂))
      rfl

/-- The attributes of a tag, read after others with other keys. -/
theorem attributesFrom_written {entries : List (Name × List Char)}
    (hdistinct : (entries.map (·.1.chars)).Nodup) (size : Nat) {seen : List RawAttribute}
    (hnew : ∀ a ∈ seen, ∀ entry ∈ entries, a.key ≠ encode entry.1.chars) :
    ∃ raw, attributesFrom size seen (encode (writtenAttributes entries)) = (raw, none) ∧
      raw.map (fun a => (a.key, a.value)) =
        entries.map fun entry => (encode entry.1.chars, encode (escape entry.2)) := by
  induction entries generalizing seen with
  | nil =>
      refine ⟨[], ?_, rfl⟩
      rw [writtenAttributes_nil, encode_nil, attributesFrom]
      rfl
  | cons entry entries ih =>
      obtain ⟨key, value⟩ := entry
      obtain ⟨hfresh, hrest⟩ := List.nodup_cons.mp hdistinct
      have hvalue : code '"' ∉ encode (escape value) := fun h =>
        not_mem_escape (.inr (.inr rfl)) value ((code_mem_encode (by decide) _).mp h)
      have hnone : seen.find? (·.key = encode key.chars) = none := by
        refine List.find?_eq_none.mpr fun a ha => ?_
        simpa using hnew a ha (key, value) List.mem_cons_self
      obtain ⟨position, hkey⟩ := scanKey_written size key
        (code '"' :: (encode (escape value) ++ code '"' :: encode (writtenAttributes entries)))
      have hlater : ∀ a ∈ seen ++ [⟨position, encode key.chars, encode (escape value)⟩],
          ∀ other ∈ entries, a.key ≠ encode other.1.chars := by
        intro a ha other hother
        rcases List.mem_append.mp ha with ha | ha
        · exact hnew a ha other (List.mem_cons_of_mem _ hother)
        -- The attribute just read has a key that no later one has.
        · rw [List.mem_singleton.mp ha]
          intro heq
          exact hfresh (List.mem_map.mpr ⟨other, hother, (encode_injective heq).symm⟩)
      obtain ⟨raw, hread, hraw⟩ := ih hrest hlater
      rw [encode_writtenAttributes_cons,
        attributesFrom_key hkey hnone (scanValue_written size hvalue _), hread]
      exact ⟨_, rfl, by rw [List.map_cons, List.map_cons, hraw]⟩

/-- A tag has the name that was written. -/
theorem StartTag.name_written (tag : StartTag) :
    Tag.name ⟨encode tag.written⟩ = encode tag.name.chars := by
  have hname : ∀ b ∈ encode tag.name.chars, (!isSpace b) = true := fun b hb => by
    rw [tag.name.not_isSpace hb]
    rfl
  rw [Tag.name, StartTag.written, encode_append, List.takeWhile_append_of_pos hname]
  cases tag.attributes.entries with
  | nil => simp
  | cons entry entries =>
      rw [encode_writtenAttributes_cons entry.1 entry.2, List.takeWhile_cons_of_neg (by decide),
        List.append_nil]

/-- A tag has the attributes that were written. -/
theorem StartTag.attributes_written (tag : StartTag) :
    ∃ raw, Tag.attributes ⟨encode tag.written⟩ = (raw, none) ∧
      raw.map (fun a => (a.key, a.value)) =
        tag.attributes.entries.map fun entry =>
          (encode entry.1.chars, encode (escape entry.2)) := by
  have hname : ∀ b ∈ encode tag.name.chars, (!isSpace b) = true := fun b hb => by
    rw [tag.name.not_isSpace hb]
    rfl
  have hdrop : (encode tag.written).dropWhile (!isSpace ·) =
      encode (writtenAttributes tag.attributes.entries) := by
    rw [StartTag.written, encode_append, List.dropWhile_append_of_pos hname]
    cases tag.attributes.entries with
    | nil => rfl
    | cons entry entries =>
        rw [encode_writtenAttributes_cons entry.1 entry.2]
        exact List.dropWhile_cons_of_neg (by decide)
  rw [Tag.attributes, hdrop]
  exact attributesFrom_written tag.attributes.distinct _ (by simp)

/-- An end tag gives the name that was written. -/
theorem Name.closingName_written (name : Name) :
    closingName (encode name.chars) = encode name.chars := by
  have hplain : (encode name.chars).reverse.dropWhile isSpace = (encode name.chars).reverse := by
    cases hcase : (encode name.chars).reverse with
    | nil => rfl
    | cons b more =>
        have hmem : b ∈ encode name.chars := List.mem_reverse.mp (hcase ▸ List.mem_cons_self)
        exact List.dropWhile_cons_of_neg (by simp [name.not_isSpace hmem])
  rw [closingName, hplain, List.reverse_reverse, ite_self]

/-! ### Events -/

/-- The token that a piece of markup is cut off as. -/
def Piece.token : Piece → Option Token
  | .data _ => none
  | .cdata passage => some (.cdata (encode passage.text))
  | .comment _ => some .aside
  | .instruction _ => some .aside
  | .opening tag => some (.opening (encode tag.written))
  | .empty tag => some (.empty (encode tag.written))
  | .closing name => some (.closing (encode name.chars))

/-- The event that a piece of markup makes. -/
def Piece.event : Piece → Option Event
  | .data _ => none
  | .cdata passage => some (.cdata (encode passage.text))
  | .comment _ => none
  | .instruction _ => none
  | .opening tag => some (.opening ⟨encode tag.written⟩)
  | .empty tag => some (.empty ⟨encode tag.written⟩)
  | .closing name => some (.closing (encode name.chars))

/-- The names of the open elements after a piece, the innermost first, if the piece closes
none but the innermost. -/
def Piece.opened (names : List Name) : Piece → Option (List Name)
  | .opening tag => some (tag.name :: names)
  | .closing name =>
    match names with
    | [] => none
    | inner :: outer => if inner.chars = name.chars then some outer else none
  | _ => some names

/-- The event for character data, unless there is none. -/
def dataEvent (text : List Char) : List Event :=
  if text = [] then [] else [.text (encode (escape text))]

/-- The events of pieces that follow the character data `pending`. -/
def eventsFrom (pending : List Char) : List Piece → List Event
  | [] => dataEvent pending
  | .data text :: pieces => eventsFrom (pending ++ text) pieces
  | piece :: pieces => dataEvent pending ++ piece.event.toList ++ eventsFrom [] pieces

theorem eventsFrom_markup {piece : Piece} {token : Token} (h : piece.token = some token)
    (pending : List Char) (pieces : List Piece) :
    eventsFrom pending (piece :: pieces) =
      dataEvent pending ++ piece.event.toList ++ eventsFrom [] pieces := by
  cases piece with
  | data text => exact absurd h (by simp [Piece.token])
  | _ => rfl

/-- A piece of markup is cut off as its token. -/
theorem scan_markup {piece : Piece} {token : Token} (h : piece.token = some token)
    (rest : Bytes) : scan (encode piece.written ++ rest) = .token token rest := by
  cases piece with
  | data text => exact absurd h (by simp [Piece.token])
  | cdata passage => cases h; exact scan_cdata passage rest
  | comment passage => cases h; exact scan_comment passage rest
  | instruction passage => cases h; exact scan_instruction passage rest
  | opening tag => cases h; exact scan_opening tag rest
  | empty tag => cases h; exact scan_empty tag rest
  | closing name => cases h; exact scan_closing name rest

/-- The names of open elements in bytes. -/
def encodedNames (names : List Name) : List Bytes := names.map fun name => encode name.chars

/-- The token of a piece makes the event of the piece. -/
theorem event_of_token {piece : Piece} {token : Token} {names left : List Name}
    (h : piece.token = some token) (hleft : piece.opened names = some left) :
    token.event (encodedNames names) = .ok (piece.event, encodedNames left) := by
  cases piece with
  | data text => exact absurd h (by simp [Piece.token])
  | opening tag =>
      cases h
      cases hleft
      rw [Token.event, tag.name_written]
      rfl
  | closing name =>
      cases h
      cases names with
      | nil => exact absurd hleft (by simp [Piece.opened])
      | cons inner outer =>
          by_cases hname : inner.chars = name.chars
          · -- The name of the end tag is compared with that of the innermost open element.
            rw [Piece.opened, if_pos hname] at hleft
            cases hleft
            rw [Token.event, name.closingName_written]
            show (closeElement (encode inner.chars :: _) _).map _ = _
            rw [hname, closeElement, if_pos rfl]
            rfl
          · rw [Piece.opened, if_neg hname] at hleft
            cases hleft
  | _ => cases h; cases hleft; rfl

theorem written_markup_head {piece : Piece} {token : Token} (h : piece.token = some token)
    (rest : Bytes) : ∀ b, (encode piece.written ++ rest).head? = some b → b = code '<' := by
  intro b hb
  have hfirst : (encode piece.written ++ rest).head? = some (code '<') := by
    cases piece with
    | data text => exact absurd h (by simp [Piece.token])
    | _ => rfl
  exact Option.some.inj (hb.symm.trans hfirst)

theorem readFrom_nil (size : Nat) (names : List Bytes) :
    readFrom size names [] = ⟨[], none⟩ := by
  rw [readFrom]
  rfl

/-- A token is read, and then what follows it. -/
theorem readFrom_token {size : Nat} {names left : List Bytes} {s rest : Bytes} {token : Token}
    {event : Option Event} (hscan : scan s = .token token rest)
    (hevent : token.event names = .ok (event, left)) :
    readFrom size names s = (readFrom size left rest).after event := by
  rw [readFrom]
  split
  case h_1 h => exact absurd (hscan.symm.trans h) (by simp)
  case h_2 h => exact absurd (hscan.symm.trans h) (by simp)
  case h_3 h =>
    obtain ⟨rfl, rfl⟩ := Scan.token.inj (hscan.symm.trans h)
    rw [hevent]

/-- Character data before markup or the end of the document makes its event. -/
theorem readFrom_data {rest : Bytes} (hrest : ∀ b, rest.head? = some b → b = code '<')
    (size : Nat) (names : List Bytes) (text : List Char) :
    readFrom size names (encode (escape text) ++ rest) =
      ⟨dataEvent text ++ (readFrom size names rest).events,
        (readFrom size names rest).fault⟩ := by
  by_cases htext : text = []
  · rw [htext, escape_nil, encode_nil, List.nil_append, dataEvent, if_pos rfl, List.nil_append]
  · rw [readFrom_token (scan_data htext hrest) rfl, dataEvent, if_neg htext]
    rfl

/-- Pieces whose tags nest are read without a fault. The character data `pending` stands
before them, so that the data of neighbouring pieces can be read as one. -/
theorem readFrom_written {pieces : List Piece} {names left : List Name}
    (h : pieces.foldlM Piece.opened names = some left) (size : Nat) (pending : List Char) :
    readFrom size (encodedNames names) (encode (escape pending ++ written pieces)) =
      ⟨eventsFrom pending pieces, none⟩ := by
  induction pieces generalizing names pending with
  | nil =>
      rw [encode_append, written_nil, encode_nil, readFrom_data (by simp), readFrom_nil,
        List.append_nil]
      rfl
  | cons piece pieces ih =>
      rw [List.foldlM_cons] at h
      obtain ⟨next, hnext, hpieces⟩ := Option.bind_eq_some_iff.mp h
      cases htoken : piece.token with
      | none =>
          -- Only character data is no markup: it joins the data before it.
          cases piece with
          | data text =>
              cases hnext
              rw [written_cons, ← List.append_assoc]
              show readFrom _ _ (encode (escape pending ++ escape text ++ _)) = _
              rw [← escape_append, ih hpieces]
              rfl
          | _ => exact absurd htoken (by simp [Piece.token])
      | some token =>
          -- Markup ends the character data before it, and none is pending after it.
          have hrest := ih hpieces []
          rw [escape_nil, List.nil_append] at hrest
          rw [written_cons, encode_append, encode_append,
            readFrom_data (written_markup_head htoken _),
            readFrom_token (scan_markup htoken _) (event_of_token htoken hnext), hrest,
            eventsFrom_markup htoken]
          simp [Reading.after]

/-- A document whose tags nest is read as the events of its pieces, unless it begins with a
byte order mark. -/
theorem read_written {pieces : List Piece} {left : List Name}
    (h : pieces.foldlM Piece.opened [] = some left)
    (hmark : ¬byteOrderMark <+: encode (written pieces)) :
    read (encode (written pieces)) = ⟨eventsFrom [] pieces, none⟩ := by
  have hplain : withoutMark (encode (written pieces)) = encode (written pieces) := by
    rw [withoutMark, if_neg fun hpre => hmark (List.isPrefixOf_iff_prefix.mp hpre)]
  rw [read, hplain]
  exact readFrom_written h _ []

end CaseRunner.Markup

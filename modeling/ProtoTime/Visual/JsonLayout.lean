import ProtoTime.Visual.ManifestJson

/-!
A JSON text as its author lays it out: strings, numbers, objects and arrays with the white
space between them. The manifest parser reads a laid out value back.
-/
namespace ProtoTime.Visual

open Json Numerals JsonParser

abbrev Whitespace := { text : Text // text.all isSpace = true }

/-- The white space after an opening bracket, after a comma and before a closing bracket. -/
structure Gaps where
  opening : Whitespace
  between : Whitespace
  closing : Whitespace

inductive Layout where
  | str (value : Text)
  | num (value : UInt32)
  | obj (gaps : Gaps) (members : List (Text × Layout))
  | arr (gaps : Gaps) (items : List Layout)

namespace Layout

/-- A string between quotes, with the escapes of its bytes. -/
def quoted (value : Text) : Text := byte '"' :: (value.flatMap escapeByte ++ [byte '"'])

mutual

def text : Layout → Text
  | str value => quoted value
  | num value => dumpNat value.toNat
  | obj gaps members => byte '\x7b' :: membersText gaps members
  | arr gaps items => byte '[' :: itemsText gaps items

def membersText (gaps : Gaps) : List (Text × Layout) → Text
  | [] => gaps.closing.1 ++ [byte '\x7d']
  | (key, value) :: members =>
    gaps.opening.1 ++ quoted key ++ byte ':' :: byte ' ' :: value.text ++ moreMembersText gaps members

def moreMembersText (gaps : Gaps) : List (Text × Layout) → Text
  | [] => gaps.closing.1 ++ [byte '\x7d']
  | (key, value) :: members =>
    byte ',' :: gaps.between.1 ++ quoted key ++ byte ':' :: byte ' ' :: value.text
      ++ moreMembersText gaps members

def itemsText (gaps : Gaps) : List Layout → Text
  | [] => gaps.closing.1 ++ [byte ']']
  | value :: items => gaps.opening.1 ++ value.text ++ moreItemsText gaps items

def moreItemsText (gaps : Gaps) : List Layout → Text
  | [] => gaps.closing.1 ++ [byte ']']
  | value :: items => byte ',' :: gaps.between.1 ++ value.text ++ moreItemsText gaps items

end

mutual

def value : Layout → JsonValue
  | str value => .string value
  | num value => .number (value.toNat : ℚ)
  | obj _ members => .object (memberValues members [])
  | arr _ items => .array (itemValues items)

def memberValues : List (Text × Layout) → List (Text × JsonValue) → List (Text × JsonValue)
  | [], read => read
  | (key, value) :: members, read => memberValues members (emplace read key value.value)

def itemValues : List Layout → List JsonValue
  | [] => []
  | value :: items => value.value :: itemValues items

end

theorem itemValues_eq_map (items : List Layout) : itemValues items = items.map value := by
  induction items with
  | nil => simp [itemValues]
  | cons item items ih => simp [itemValues, ih]

theorem memberValues_eq_append {members : List (Text × Layout)} {read : List (Text × JsonValue)}
    (h : (read.map Prod.fst ++ members.map Prod.fst).Nodup) :
    memberValues members read = read ++ members.map fun member => (member.1, member.2.value) := by
  induction members generalizing read with
  | nil => simp [memberValues]
  | cons member members ih =>
    obtain ⟨key, layout⟩ := member
    have hfresh : read.lookup key = none := by
      apply List.lookup_eq_none_iff.mpr
      intro entry hentry
      have hdisjoint := (List.nodup_append.mp h).2.2
      have hne := hdisjoint entry.1 (List.mem_map_of_mem hentry) key (by simp)
      simpa using Ne.symm hne
    have hnext : ((read ++ [(key, layout.value)]).map Prod.fst ++ members.map Prod.fst).Nodup := by
      simpa using h
    rw [memberValues, emplace, hfresh]
    simp only [Option.isSome_none, Bool.false_eq_true, if_false]
    rw [ih hnext]
    simp

/-! ## Reading -/

variable {gap : Text}

theorem skipSpaces_append (hgap : gap.all isSpace = true) (text : Text) :
    skipSpaces (gap ++ text) = skipSpaces text := by
  apply List.dropWhile_append_of_pos
  exact List.all_eq_true.mp hgap

variable {b : UInt8}

theorem skipSpaces_of_not_space (h : isSpace b = false) (text : Text) :
    skipSpaces (b :: text) = b :: text := by
  simp [skipSpaces, h]

theorem consume_gap (hgap : gap.all isSpace = true)
    (hb : isSpace b = false) (expected : UInt8) (text : Text) :
    consume expected (gap ++ b :: text) = if b = expected then some text else none := by
  unfold consume
  rw [skipSpaces_append hgap, skipSpaces_of_not_space hb]

theorem consume_cons (hb : isSpace b = false) (expected : UInt8) (text : Text) :
    consume expected (b :: text) = if b = expected then some text else none :=
  consume_gap (show ([] : Text).all isSpace = true from rfl) hb expected text

theorem shortEscapes_escapedByte :
    ∀ p ∈ shortEscapes, p.2 ≠ byte 'u' ∧ escapedByte p.2 = some p.1 := by
  have hall : shortEscapes.all (fun p =>
      decide (p.2 ≠ byte 'u' ∧ escapedByte p.2 = some p.1)) = true := by decide
  intro p hp
  exact of_decide_eq_true (List.all_eq_true.mp hall p hp)

theorem parseUnicodeEscape_control (h : b < 32) (rest : Text) : parseUnicodeEscape
        (byte '0' :: byte '0' :: hexDigit (b.toNat / 16) :: hexDigit (b.toNat % 16) :: rest)
      = some (b.toNat, rest) := by
  have hb : b.toNat < 32 := UInt8.lt_iff_toNat_lt.mp h
  have hzero : digit? 16 (byte '0') = some 0 := by decide
  have hhigh := digit?_hexDigit le_rfl (show b.toNat / 16 < 16 by omega)
  have hlow := digit?_hexDigit le_rfl (show b.toNat % 16 < 16 by omega)
  have hquad : parseUnicodeHexQuad
      (byte '0' :: byte '0' :: hexDigit (b.toNat / 16) :: hexDigit (b.toNat % 16) :: rest)
        = some (b.toNat, rest) := by
    have hvalue : numeralValue 16 [0, 0, b.toNat / 16, b.toNat % 16] = b.toNat := by
      simp only [numeralValue, List.foldl_cons, List.foldl_nil]
      omega
    simp [parseUnicodeHexQuad, hzero, hhigh, hlow, hvalue]
  unfold parseUnicodeEscape
  rw [hquad]
  dsimp only
  rw [if_neg (by omega), if_neg (by omega)]

/-- What is escaped between quotes is what is read. -/
theorem stringBody_escaped (value rest : Text) :
    stringBody (value.flatMap escapeByte ++ byte '"' :: rest) = some (value, rest) := by
  induction value with
  | nil =>
    rw [List.flatMap_nil, List.nil_append, stringBody.eq_def]
    dsimp only
    rw [if_pos rfl]
  | cons b value ih =>
    rw [List.flatMap_cons, List.append_assoc]
    rcases escapeByte_cases b with ⟨letter, hletter, h⟩ | ⟨hcontrol, h⟩ | ⟨hquote, hslash, h⟩
    · obtain ⟨hu, hescaped⟩ := shortEscapes_escapedByte _ hletter
      rw [h, List.cons_append, List.cons_append, List.nil_append, stringBody.eq_def]
      dsimp only
      rw [if_neg (by decide), if_neg (by decide), if_neg hu]
      simp only [hescaped, ih, Option.map_some]
    · have hescape := parseUnicodeEscape_control hcontrol
        (value.flatMap escapeByte ++ byte '"' :: rest)
      have hsmall : b.toNat ≤ 0x7F := by
        have := UInt8.lt_iff_toNat_lt.mp hcontrol
        change b.toNat < 32 at this
        omega
      rw [h]
      simp only [List.cons_append, List.nil_append]
      rw [stringBody.eq_def]
      dsimp only
      rw [if_neg (by decide), if_neg (by decide), if_pos rfl]
      split
      · rename_i hnone
        rw [hescape] at hnone
        cases hnone
      · rename_i codePoint after hsome
        rw [hescape] at hsome
        obtain ⟨rfl, rfl⟩ := Prod.mk.inj (Option.some.inj hsome)
        simp [appendUtf8, hsmall, ih]
    · rw [h, List.cons_append, List.nil_append, stringBody.eq_def]
      dsimp only
      rw [if_neg hquote, if_pos hslash, ih]
      rfl

theorem parseString_quoted (value rest : Text) :
    parseString (quoted value ++ rest) = some (value, rest) := by
  have hconsume := consume_cons (by decide : isSpace (byte '"') = false) (byte '"')
    (value.flatMap escapeByte ++ byte '"' :: rest)
  unfold parseString quoted
  rw [List.cons_append, List.append_assoc, List.singleton_append, hconsume, if_pos rfl,
    Option.bind_some, stringBody_escaped]

/-- What follows a value does not continue a number. -/
def Closed (rest : Text) : Prop := ∀ b ∈ rest.head?, isDigitByte b = false ∧ b ≠ byte '.'

theorem closed_cons (hdigit : isDigitByte b = false) (hdot : b ≠ byte '.')
    (rest : Text) : Closed (b :: rest) := by
  intro c hc
  cases hc
  exact ⟨hdigit, hdot⟩

theorem closed_gap (hgap : gap.all isSpace = true) {rest : Text} (h : Closed rest) :
    Closed (gap ++ rest) := by
  cases gap with
  | nil => exact h
  | cons b gap =>
    have hspace : isSpace b = true := (List.all_eq_true.mp hgap) b (by simp)
    apply closed_cons
    · cases hdigit : isDigitByte b with
      | false => rfl
      | true =>
        rw [isSpace_of_isDigitByte hdigit] at hspace
        cases hspace
    · intro hdot
      rw [hdot] at hspace
      exact absurd hspace (by decide)

theorem spanDigitBytes_append {digits rest : Text} (hdigits : ∀ b ∈ digits, isDigitByte b = true)
    (hrest : Closed rest) : spanDigitBytes (digits ++ rest) = (digits, rest) := by
  have htake : rest.takeWhile isDigitByte = [] := by
    cases rest with
    | nil => rfl
    | cons b rest => simp [(hrest b rfl).1]
  have hdrop : rest.dropWhile isDigitByte = rest := by
    cases rest with
    | nil => rfl
    | cons b rest => simp [(hrest b rfl).1]
  unfold spanDigitBytes
  rw [List.takeWhile_append_of_pos hdigits, List.dropWhile_append_of_pos hdigits, htake, hdrop,
    List.append_nil]

theorem parseNumber_dumpNat {n : ℕ} (hn : n < 2 ^ 53) {rest : Text} (hrest : Closed rest) :
    parseNumber (dumpNat n ++ rest) = some (.number (n : ℚ), rest) := by
  obtain ⟨used, hstod⟩ := stod_dumpNat hn
  obtain ⟨b, digits, hcons, hb, _⟩ := dumpNat_cons n
  have hspan := spanDigitBytes_append (dumpNat_isDigitByte n) hrest
  unfold parseNumber
  rw [hcons, List.cons_append]
  dsimp only
  rw [if_neg (ne_of_isDigitByte hb (by decide)), ← List.cons_append, ← hcons, hspan]
  dsimp only
  cases rest with
  | nil => simp [hstod]
  | cons c rest =>
    have hdot := (hrest c rfl).2
    dsimp only
    rw [if_neg hdot]
    simp [hstod]

theorem parseValue_space (fuel : ℕ) (hgap : gap.all isSpace = true) (text : Text) :
    parseValue fuel (gap ++ text) = parseValue fuel text := by
  cases fuel with
  | zero => rw [parseValue, parseValue]
  | succ fuel => rw [parseValue, parseValue, skipSpaces_append hgap]

theorem parseItems_gap (fuel : ℕ) (read : List JsonValue)
    (hgap : gap.all isSpace = true) (text : Text) :
    parseItems fuel read (gap ++ text) = parseItems fuel read text := by
  cases fuel with
  | zero => rw [parseItems, parseItems]
  | succ fuel => rw [parseItems, parseItems, parseValue_space fuel hgap]

theorem text_head (layout : Layout) :
    ∃ b rest, layout.text = b :: rest ∧ isSpace b = false ∧ b ≠ byte ']' := by
  cases layout with
  | str value => exact ⟨byte '"', _, rfl, by decide, by decide⟩
  | num value =>
    obtain ⟨b, digits, hcons, hb, _⟩ := dumpNat_cons value.toNat
    exact ⟨b, digits, hcons, isSpace_of_isDigitByte hb, ne_of_isDigitByte hb (by decide)⟩
  | obj gaps members => exact ⟨byte '\x7b', _, rfl, by decide, by decide⟩
  | arr gaps items => exact ⟨byte '[', _, rfl, by decide, by decide⟩

theorem closed_moreMembersText (gaps : Gaps) (members : List (Text × Layout)) (rest : Text) :
    Closed (moreMembersText gaps members ++ rest) := by
  cases members with
  | nil =>
    rw [moreMembersText, List.append_assoc]
    exact closed_gap gaps.closing.2 (closed_cons (by decide) (by decide) rest)
  | cons member members => exact closed_cons (by decide) (by decide) _

theorem closed_moreItemsText (gaps : Gaps) (items : List Layout) (rest : Text) :
    Closed (moreItemsText gaps items ++ rest) := by
  cases items with
  | nil =>
    rw [moreItemsText, List.append_assoc]
    exact closed_gap gaps.closing.2 (closed_cons (by decide) (by decide) rest)
  | cons item items => exact closed_cons (by decide) (by decide) _

/-- What the three loops of the parser read with some fuel: every layout whose text is short
enough, as a value, from a member of an object on and from an item of an array on. -/
structure ReadsWith (fuel : ℕ) : Prop where
  value : ∀ (layout : Layout) (rest : Text), 2 * layout.text.length < fuel → Closed rest →
    parseValue fuel (layout.text ++ rest) = some (layout.value, rest)
  members : ∀ (gaps : Gaps) (key : Text) (layout : Layout) (more : List (Text × Layout))
    (read : List (Text × JsonValue)) (rest : Text),
    2 * (quoted key ++ byte ':' :: byte ' ' :: layout.text ++ moreMembersText gaps more).length
      < fuel →
    parseMembers fuel read
        (quoted key ++ byte ':' :: byte ' ' :: layout.text ++ moreMembersText gaps more ++ rest)
      = some (.object (memberValues ((key, layout) :: more) read), rest)
  items : ∀ (gaps : Gaps) (layout : Layout) (more : List Layout) (read : List JsonValue)
    (rest : Text), 2 * (layout.text ++ moreItemsText gaps more).length < fuel →
    parseItems fuel read (layout.text ++ moreItemsText gaps more ++ rest)
      = some (.array (read ++ itemValues (layout :: more)), rest)

theorem readsWith_zero : ReadsWith 0 where
  value _ _ h := by omega
  members _ _ _ _ _ _ h := by omega
  items _ _ _ _ _ h := by omega

variable {fuel : ℕ}

theorem parseValue_of_readsWith (h : ReadsWith fuel) (layout : Layout) (rest : Text)
    (hlen : 2 * layout.text.length < fuel + 1) (hrest : Closed rest) :
    parseValue (fuel + 1) (layout.text ++ rest) = some (layout.value, rest) := by
  cases layout with
  | str value =>
    rw [text, quoted, List.cons_append, List.append_assoc, List.singleton_append, parseValue,
      skipSpaces_of_not_space (by decide)]
    dsimp only
    rw [if_neg (by decide), if_neg (by decide), if_pos rfl, stringBody_escaped]
    rfl
  | num value =>
    obtain ⟨b, digits, hcons, hb, _⟩ := dumpNat_cons value.toNat
    have hvalue : value.toNat < 2 ^ 53 := by
      have := value.toNat_lt
      omega
    have hnumber := parseNumber_dumpNat hvalue hrest
    rw [text, parseValue]
    rw [hcons, List.cons_append] at hnumber ⊢
    rw [skipSpaces_of_not_space (isSpace_of_isDigitByte hb)]
    dsimp only
    rw [if_neg (ne_of_isDigitByte hb (by decide)), if_neg (ne_of_isDigitByte hb (by decide)),
      if_neg (ne_of_isDigitByte hb (by decide)), if_pos (Or.inr hb), hnumber]
    rfl
  | obj gaps members =>
    rw [text, List.cons_append, parseValue, skipSpaces_of_not_space (by decide)]
    dsimp only
    rw [if_pos rfl]
    cases members with
    | nil =>
      rw [membersText, List.append_assoc, List.singleton_append,
        consume_gap gaps.closing.2 (by decide), if_pos rfl]
      rfl
    | cons member more =>
      obtain ⟨key, layout⟩ := member
      have hmembers := h.members gaps key layout more [] rest (by
        rw [text, membersText] at hlen
        simp only [List.length_cons, List.length_append] at hlen ⊢
        omega)
      simp only [membersText, quoted, List.append_assoc, List.cons_append] at hmembers ⊢
      rw [consume_gap gaps.opening.2 (by decide), if_neg (by decide),
        skipSpaces_append gaps.opening.2, skipSpaces_of_not_space (by decide), hmembers]
      rfl
  | arr gaps items =>
    rw [text, List.cons_append, parseValue, skipSpaces_of_not_space (by decide)]
    dsimp only
    rw [if_neg (by decide), if_pos rfl]
    cases items with
    | nil =>
      rw [itemsText, List.append_assoc, List.singleton_append,
        consume_gap gaps.closing.2 (by decide), if_pos rfl]
      rfl
    | cons layout more =>
      obtain ⟨b, tail, hhead, hspace, hclosing⟩ := text_head layout
      have hitems := h.items gaps layout more [] rest (by
        rw [text, itemsText] at hlen
        simp only [List.length_cons, List.length_append] at hlen ⊢
        omega)
      rw [itemsText]
      simp only [hhead, List.append_assoc, List.cons_append] at hitems ⊢
      rw [consume_gap gaps.opening.2 hspace, if_neg hclosing, skipSpaces_append gaps.opening.2,
        skipSpaces_of_not_space hspace, hitems]
      rfl

theorem parseMembers_of_readsWith (h : ReadsWith fuel) (gaps : Gaps) (key : Text)
    (layout : Layout) (more : List (Text × Layout)) (read : List (Text × JsonValue)) (rest : Text)
    (hlen : 2 * (quoted key ++ byte ':' :: byte ' ' :: layout.text
      ++ moreMembersText gaps more).length < fuel + 1) :
    parseMembers (fuel + 1) read
        (quoted key ++ byte ':' :: byte ' ' :: layout.text ++ moreMembersText gaps more ++ rest)
      = some (.object (memberValues ((key, layout) :: more) read), rest) := by
  simp only [List.length_append, List.length_cons] at hlen
  have hvalue := h.value layout (moreMembersText gaps more ++ rest) (by omega)
    (closed_moreMembersText gaps more rest)
  have hspace := parseValue_space fuel (show [byte ' '].all isSpace = true by decide)
    (layout.text ++ (moreMembersText gaps more ++ rest))
  rw [parseMembers]
  simp only [List.append_assoc, List.cons_append, List.nil_append] at hspace ⊢
  rw [parseString_quoted]
  dsimp only
  rw [consume_cons (by decide), if_pos rfl]
  dsimp only
  rw [hspace, hvalue]
  dsimp only
  cases more with
  | nil =>
    rw [moreMembersText, List.append_assoc, List.singleton_append,
      consume_gap gaps.closing.2 (by decide), if_pos rfl]
    simp only [memberValues]
  | cons member more =>
    obtain ⟨next, value⟩ := member
    have hmembers := h.members gaps next value more (emplace read key layout.value) rest (by
      rw [moreMembersText] at hlen
      simp only [List.length_cons, List.length_append] at hlen ⊢
      omega)
    rw [moreMembersText]
    simp only [quoted, List.append_assoc, List.cons_append] at hmembers ⊢
    rw [consume_cons (by decide), if_neg (by decide)]
    dsimp only
    rw [consume_cons (by decide), if_pos rfl]
    dsimp only
    rw [skipSpaces_append gaps.between.2, skipSpaces_of_not_space (by decide), hmembers]
    simp only [memberValues]

theorem parseItems_of_readsWith (h : ReadsWith fuel) (gaps : Gaps) (layout : Layout)
    (more : List Layout) (read : List JsonValue) (rest : Text)
    (hlen : 2 * (layout.text ++ moreItemsText gaps more).length < fuel + 1) :
    parseItems (fuel + 1) read (layout.text ++ moreItemsText gaps more ++ rest)
      = some (.array (read ++ itemValues (layout :: more)), rest) := by
  have hmore : 0 < (moreItemsText gaps more).length := by
    cases more <;> simp [moreItemsText]
  simp only [List.length_append] at hlen
  have hvalue := h.value layout (moreItemsText gaps more ++ rest) (by omega)
    (closed_moreItemsText gaps more rest)
  rw [parseItems, List.append_assoc, hvalue]
  dsimp only
  cases more with
  | nil =>
    rw [moreItemsText, List.append_assoc, List.singleton_append,
      consume_gap gaps.closing.2 (by decide), if_pos rfl]
    simp only [itemValues]
  | cons next more =>
    have hitems := h.items gaps next more (read ++ [layout.value]) rest (by
      rw [moreItemsText] at hlen
      simp only [List.length_cons, List.length_append] at hlen ⊢
      omega)
    rw [moreItemsText]
    simp only [List.append_assoc, List.cons_append] at hitems ⊢
    rw [consume_cons (by decide), if_neg (by decide)]
    rw [consume_cons (by decide), if_pos rfl]
    dsimp only
    rw [parseItems_gap fuel _ gaps.between.2, hitems]
    simp [itemValues]

theorem readsWith (fuel : ℕ) : ReadsWith fuel := by
  induction fuel with
  | zero => exact readsWith_zero
  | succ fuel ih =>
    exact ⟨parseValue_of_readsWith ih, parseMembers_of_readsWith ih, parseItems_of_readsWith ih⟩

theorem parse_text (layout : Layout) (hgap : gap.all isSpace = true) :
    parse (layout.text ++ gap) = some layout.value := by
  obtain ⟨b, tail, hhead, hspace, _⟩ := text_head layout
  have hskip : skipSpaces (layout.text ++ gap) = layout.text ++ gap := by
    rw [hhead, List.cons_append, skipSpaces_of_not_space hspace]
  have hclosed : Closed gap := by
    have h : Closed (gap ++ []) := closed_gap hgap (by intro c hc; cases hc)
    rwa [List.append_nil] at h
  have hend : skipSpaces gap = [] := by
    have h := skipSpaces_append hgap []
    rwa [List.append_nil] at h
  have hread := (readsWith (2 * (layout.text ++ gap).length + 2)).value layout gap
    (by rw [List.length_append]; omega) hclosed
  unfold parse
  rw [hskip, hread]
  dsimp only
  rw [if_pos hend]

end Layout

end ProtoTime.Visual

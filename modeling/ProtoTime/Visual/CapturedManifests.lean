import ProtoTime.Visual.JsonLayout
import ProtoTime.Visual.CapturedPictures

/-!
The manifest of a capture session is read back: its text is a laid out JSON value, and the
loader makes of every entry the rule that names the fields of the captured resource.
-/
namespace ProtoTime.Visual

open Json Numerals Layout

/-! ## Lines -/

def newline (depth : ℕ) : Whitespace :=
  ⟨byte '\n' :: indent depth, by
    apply List.all_eq_true.mpr
    intro b hb
    rcases List.mem_cons.mp hb with rfl | hspace
    · decide
    · rw [(List.mem_replicate.mp hspace).2]
      decide⟩

/-- One member or item a line, at a depth, and the closing bracket at another. -/
def lineGaps (inner outer : ℕ) : Gaps := ⟨newline inner, newline inner, newline outer⟩

/-- The lines of members, each ended by a comma but the last. -/
def memberLines (depth : ℕ) : List (Text × Layout) → Text
  | [] => []
  | (key, value) :: members =>
    indent depth ++ quoted key ++ byte ':' :: byte ' ' :: value.text
      ++ (if members.isEmpty then [] else comma) ++ byte '\n' :: memberLines depth members

variable (inner outer : ℕ)

theorem moreMembersText_lines (key : Text) (value : Layout) (members : List (Text × Layout)) :
    indent inner ++ quoted key ++ byte ':' :: byte ' ' :: value.text
        ++ moreMembersText (lineGaps inner outer) members
      = memberLines inner ((key, value) :: members) ++ indent outer ++ [byte '\x7d'] := by
  induction members generalizing key value with
  | nil => simp [moreMembersText, memberLines, lineGaps, newline]
  | cons member members ih =>
    obtain ⟨next, layout⟩ := member
    have hmore := ih next layout
    rw [memberLines, moreMembersText]
    simp only [List.append_assoc, List.cons_append] at hmore ⊢
    simp only [List.isEmpty_cons, Bool.false_eq_true, if_false, comma, lineGaps, newline,
      List.cons_append, List.nil_append] at hmore ⊢
    rw [hmore]

theorem obj_text_lines (key : Text) (value : Layout) (members : List (Text × Layout)) :
    (Layout.obj (lineGaps inner outer) ((key, value) :: members)).text
      = byte '\x7b' :: byte '\n' :: (memberLines inner ((key, value) :: members) ++ indent outer
        ++ [byte '\x7d']) := by
  rw [← moreMembersText_lines, Layout.text, membersText]
  simp only [lineGaps, newline, List.append_assoc, List.cons_append]

/-- The lines of items, each ended by a comma but the last. -/
def itemLines (depth : ℕ) : List Layout → Text
  | [] => []
  | value :: items =>
    indent depth ++ value.text ++ (if items.isEmpty then [] else comma)
      ++ byte '\n' :: itemLines depth items

theorem moreItemsText_lines (value : Layout) (items : List Layout) :
    indent inner ++ value.text ++ moreItemsText (lineGaps inner outer) items
      = itemLines inner (value :: items) ++ indent outer ++ [byte ']'] := by
  induction items generalizing value with
  | nil => simp [moreItemsText, itemLines, lineGaps, newline]
  | cons next items ih =>
    have hmore := ih next
    rw [itemLines, moreItemsText]
    simp only [List.append_assoc, List.cons_append, List.nil_append, List.isEmpty_cons,
      Bool.false_eq_true, if_false, comma, lineGaps, newline] at hmore ⊢
    rw [hmore]

theorem arr_text_lines (items : List Layout) :
    (Layout.arr (lineGaps inner outer) items).text
      = byte '[' :: byte '\n' :: (itemLines inner items ++ indent outer ++ [byte ']']) := by
  cases items with
  | nil => simp [Layout.text, itemsText, itemLines, lineGaps, newline]
  | cons value items =>
    rw [← moreItemsText_lines, Layout.text, itemsText]
    simp only [lineGaps, newline, List.append_assoc, List.cons_append]

/-- A text without bytes to escape. -/
def Plain (value : Text) : Prop := jsonEscaped value = value

instance (value : Text) : Decidable (Plain value) := inferInstanceAs (Decidable (_ = _))

theorem quoted_of_plain {value : Text} (h : Plain value) :
    quoted value = byte '"' :: (value ++ [byte '"']) := by
  unfold quoted
  rw [show value.flatMap escapeByte = value from h]

theorem jsonEscaped_append (a b : Text) : jsonEscaped (a ++ b) = jsonEscaped a ++ jsonEscaped b :=
  List.flatMap_append

theorem plain_hexDigits {digits : List ℕ} (h : ∀ d ∈ digits, d < 16) :
    Plain (digits.map hexDigit) := by
  have hdigit : ∀ d < 16, escapeByte (hexDigit d) = [hexDigit d] := by decide
  induction digits with
  | nil => rfl
  | cons d digits ih =>
    have htail : (digits.map hexDigit).flatMap escapeByte = digits.map hexDigit :=
      ih fun e he => h e (by simp [he])
    change (hexDigit d :: digits.map hexDigit).flatMap escapeByte = hexDigit d :: digits.map hexDigit
    rw [List.flatMap_cons, hdigit d (h d (by simp)), htail]
    rfl

theorem plain_prefixedHex (width n : ℕ) : Plain (prefixedHex width n) := by
  have hdigits := plain_hexDigits (paddedNumeral_lt (by decide : 1 < 16) width n)
  have hzero : escapeByte (byte '0') = [byte '0'] := by decide
  have hx : escapeByte (byte 'x') = [byte 'x'] := by decide
  unfold Plain jsonEscaped prefixedHex
  change byte '0' :: byte 'x' :: jsonEscaped _ = _
  rw [show jsonEscaped _ = _ from hdigits]

theorem plain_visualResourceKindName (kind : VisualResourceKind) :
    Plain (visualResourceKindName kind) := by
  cases kind <;> decide

variable {key : Text}

theorem textLine_eq (hkey : Plain key) (depth : ℕ) (value ending : Text) :
    textLine depth key (jsonEscaped value) ending
      = indent depth ++ quoted key ++ byte ':' :: byte ' ' :: (Layout.str value).text ++ ending
        ++ [byte '\n'] := by
  unfold textLine keyText
  rw [quoted_of_plain hkey, Layout.text, quoted, jsonEscaped]
  simp only [List.append_assoc, List.cons_append, List.nil_append]

theorem textLine_plain {value : Text} (hkey : Plain key) (hvalue : Plain value) (depth : ℕ)
    (ending : Text) :
    textLine depth key value ending
      = indent depth ++ quoted key ++ byte ':' :: byte ' ' :: (Layout.str value).text ++ ending
        ++ [byte '\n'] := by
  have h := textLine_eq hkey depth value ending
  rwa [show jsonEscaped value = value from hvalue] at h

theorem numberLine_eq (hkey : Plain key) (depth : ℕ) (value : UInt32) (ending : Text) :
    numberLine depth key value ending
      = indent depth ++ quoted key ++ byte ':' :: byte ' ' :: (Layout.num value).text ++ ending
        ++ [byte '\n'] := by
  unfold numberLine keyText
  rw [quoted_of_plain hkey, Layout.text]
  simp only [List.append_assoc, List.cons_append, List.nil_append]

theorem openLine_eq (hkey : Plain key) (depth : ℕ) (bracket : UInt8) : openLine depth key bracket
      = indent depth ++ quoted key ++ byte ':' :: byte ' ' :: [bracket, byte '\n'] := by
  unfold openLine keyText
  rw [quoted_of_plain hkey]
  simp only [List.append_assoc, List.cons_append, List.nil_append]

/-! ## The layout of a manifest -/

variable (entry : VisualCaptureEntry)

def labelMember : List (Text × Layout) :=
  if entry.descriptor.source.label = [] then []
  else [(utf8 "semanticLabel", .str entry.descriptor.source.label)]

/-- The members of an entry's match after the label. -/
def hashMembers : List (Text × Layout) :=
  let descriptor := entry.descriptor
  [(utf8 "sourceHash", .str (toHexVisualHash descriptor.sourceHash)),
    (utf8 "sourceBank", .num descriptor.source.bank),
    (utf8 "sourceAddress", .str (fixedHex descriptor.source.address 4)),
    (utf8 "tileIndex", .num descriptor.source.index),
    (utf8 "paletteRegister", .str descriptor.source.paletteRegister),
    (utf8 "paletteValue", .str (fixedHex descriptor.source.paletteValue 2)),
    (utf8 "decodedHash", .str (toHexVisualHash descriptor.contentHash)),
    (utf8 "paletteHash", .str (toHexVisualHash descriptor.paletteHash)),
    (utf8 "paletteAwareHash", .str (toHexVisualHash descriptor.paletteAwareHash)),
    (utf8 "width", .num descriptor.width), (utf8 "height", .num descriptor.height)]

def matchMembers : List (Text × Layout) :=
  (utf8 "kind", .str (visualResourceKindName entry.descriptor.kind))
    :: (labelMember entry ++ hashMembers entry)

def matchLayout : Layout := .obj (lineGaps 8 6) (matchMembers entry)

def replaceLayout : Layout :=
  .obj (lineGaps 8 6) [(utf8 "image", .str entry.imagePath)]

def ruleLayout : Layout :=
  .obj (lineGaps 6 4)
    [(utf8 "match", matchLayout entry), (utf8 "replace", replaceLayout entry)]

def noGaps : Gaps := ⟨⟨[], rfl⟩, ⟨[], rfl⟩, ⟨[], rfl⟩⟩

def packMembers (machineId : Text) (entries : List VisualCaptureEntry) : List (Text × Layout) :=
  [(utf8 "schemaVersion", .num 1), (utf8 "id", .str (utf8 "capture." ++ machineId)),
    (utf8 "name", .str (utf8 "Captured " ++ machineId ++ utf8 " visual resources")),
    (utf8 "targets", .arr noGaps [.str machineId]),
    (utf8 "rules", .arr (lineGaps 4 2) (entries.map ruleLayout))]

def packLayout (machineId : Text) (entries : List VisualCaptureEntry) : Layout :=
  .obj (lineGaps 2 0) (packMembers machineId entries)

theorem plain_matchKeys : Plain (utf8 "kind") ∧ Plain (utf8 "semanticLabel")
    ∧ Plain (utf8 "sourceHash") ∧ Plain (utf8 "sourceBank") ∧ Plain (utf8 "sourceAddress")
    ∧ Plain (utf8 "tileIndex") ∧ Plain (utf8 "paletteRegister") ∧ Plain (utf8 "paletteValue")
    ∧ Plain (utf8 "decodedHash") ∧ Plain (utf8 "paletteHash") ∧ Plain (utf8 "paletteAwareHash")
    ∧ Plain (utf8 "width") ∧ Plain (utf8 "height") := by
  decide

theorem plain_packKeys : Plain (utf8 "schemaVersion") ∧ Plain (utf8 "id") ∧ Plain (utf8 "name")
    ∧ Plain (utf8 "targets") ∧ Plain (utf8 "rules") ∧ Plain (utf8 "match")
    ∧ Plain (utf8 "replace") ∧ Plain (utf8 "image") := by
  decide

theorem matchLines_eq :
    matchLines entry = indent 6 ++ quoted (utf8 "match") ++ byte ':' :: byte ' '
      :: (matchLayout entry).text ++ comma ++ [byte '\n'] := by
  obtain ⟨hkind, hlabel, hsourceHash, hbank, haddress, hindex, hregister, hvalue, hdecoded, hpalette,
    haware, hwidth, hheight⟩ := plain_matchKeys
  have hmatch := plain_packKeys.2.2.2.2.2.1
  have hhash (hash : UInt64) : Plain (toHexVisualHash hash) := plain_prefixedHex 16 hash.toNat
  have hhex (value : UInt32) (width : ℕ) : Plain (fixedHex value width) :=
    plain_prefixedHex width value.toNat
  unfold matchLines sourceLines matchLayout matchMembers
  rw [obj_text_lines]
  dsimp only
  rw [openLine_eq hmatch, textLine_plain hkind (plain_visualResourceKindName _),
    textLine_plain hsourceHash (hhash _), numberLine_eq hbank, textLine_plain haddress (hhex _ _),
    numberLine_eq hindex, textLine_eq hregister, textLine_plain hvalue (hhex _ _),
    textLine_plain hdecoded (hhash _), textLine_plain hpalette (hhash _),
    textLine_plain haware (hhash _), numberLine_eq hwidth, numberLine_eq hheight]
  by_cases hempty : entry.descriptor.source.label = []
  · simp only [labelLine, labelMember, hashMembers, hempty, if_true, memberLines, bracketLine,
      List.nil_append, List.isEmpty_cons, List.isEmpty_nil, Bool.false_eq_true, if_false, comma,
      List.append_assoc, List.cons_append, List.append_nil]
  · simp only [labelLine, labelMember, hashMembers, hempty, if_false, textLine_eq hlabel, memberLines,
      bracketLine, List.nil_append, List.isEmpty_cons, List.isEmpty_nil, Bool.false_eq_true, if_true,
      comma, List.append_assoc, List.cons_append, List.append_nil]

theorem replaceLines_eq :
    replaceLines entry = indent 6 ++ quoted (utf8 "replace") ++ byte ':' :: byte ' '
      :: (replaceLayout entry).text ++ [byte '\n'] := by
  obtain ⟨_, _, _, _, _, _, hreplace, himage⟩ := plain_packKeys
  unfold replaceLines replaceLayout
  rw [obj_text_lines, openLine_eq hreplace, textLine_eq himage]
  simp only [memberLines, bracketLine, List.isEmpty_nil, if_true, List.append_assoc,
    List.cons_append, List.nil_append, List.append_nil]

theorem entryLines_eq (entries : List VisualCaptureEntry) :
    entryLines (ruleLines false) entries = itemLines 4 (entries.map ruleLayout) := by
  induction entries with
  | nil => rfl
  | cons entry entries ih =>
    have hmatch := matchLines_eq entry
    have hreplace := replaceLines_eq entry
    rw [entryLines, ruleLines, hmatch, hreplace, ih, List.map_cons, itemLines, ruleLayout,
      obj_text_lines]
    cases entries with
    | nil =>
      simp only [memberLines, bracketLine, List.map_nil, List.isEmpty_nil, List.isEmpty_cons,
        Bool.false_eq_true, if_true, if_false, comma, List.append_assoc, List.cons_append,
        List.nil_append, List.append_nil]
    | cons next entries =>
      simp only [memberLines, bracketLine, List.map_cons, List.isEmpty_cons, List.isEmpty_nil,
        reduceCtorEq, Bool.false_eq_true, if_true, if_false, comma, List.append_assoc,
        List.cons_append, List.nil_append, List.append_nil]

/-- The text of a manifest is its layout. -/
theorem rulesText_eq (machineId : Text) (entries : List VisualCaptureEntry) :
    rulesText machineId entries false = (packLayout machineId entries).text ++ [byte '\n'] := by
  obtain ⟨hschema, hid, hname, htargets, hrules, _⟩ := plain_packKeys
  have hcapture : jsonEscaped (utf8 "capture.") = utf8 "capture." := by decide
  have hcaptured : jsonEscaped (utf8 "Captured ") = utf8 "Captured " := by decide
  have hresources : jsonEscaped (utf8 " visual resources") = utf8 " visual resources" := by
    decide
  have hidText : utf8 "capture." ++ jsonEscaped machineId
      = jsonEscaped (utf8 "capture." ++ machineId) := by
    rw [jsonEscaped_append, hcapture]
  have hnameText : utf8 "Captured " ++ jsonEscaped machineId ++ utf8 " visual resources"
      = jsonEscaped (utf8 "Captured " ++ machineId ++ utf8 " visual resources") := by
    rw [jsonEscaped_append, jsonEscaped_append, hcaptured, hresources]
  have htargetsLine : keyText 2 (utf8 "targets") ++ byte '[' :: byte '"' :: jsonEscaped machineId
        ++ [byte '"', byte ']', byte ',', byte '\n']
      = indent 2 ++ quoted (utf8 "targets") ++ byte ':' :: byte ' '
        :: (Layout.arr noGaps [.str machineId]).text ++ [byte ',', byte '\n'] := by
    unfold keyText
    rw [quoted_of_plain htargets]
    simp only [Layout.text, itemsText, moreItemsText, noGaps, quoted, jsonEscaped,
      List.append_assoc, List.cons_append, List.nil_append]
  unfold rulesText packLayout packMembers
  rw [obj_text_lines, numberLine_eq hschema, hidText, textLine_eq hid, hnameText,
    textLine_eq hname, htargetsLine, openLine_eq hrules, entryLines_eq]
  simp only [memberLines, arr_text_lines, bracketLine, indent, List.replicate_zero,
    List.isEmpty_cons, List.isEmpty_nil, Bool.false_eq_true, if_true, if_false, comma,
    List.append_assoc, List.cons_append, List.nil_append, List.append_nil]

end ProtoTime.Visual

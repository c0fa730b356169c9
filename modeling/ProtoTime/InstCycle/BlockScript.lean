import ProtoTime.Numerals
import ProtoTime.Results

/-!
The script of recorded blocks: what is saved is loaded back, and what a load that fails leaves of
the lists it loads into.
-/
namespace ProtoTime.ExecutorIO

open Numerals Results

structure FetchBlockData where
  offset : BitVec 16
  data : List (BitVec 8)
deriving DecidableEq

structure FetchBlock where
  baseAddress : BitVec 16
  blockData : List FetchBlockData
deriving DecidableEq

structure Segment where
  id : ℕ
  blocks : List FetchBlock
deriving DecidableEq

/-- The two lists that a load replaces. -/
structure BlockScript where
  segments : List Segment := []
  playbackBlocks : List FetchBlock := []
deriving DecidableEq

/-! ## Saving -/

def upperDigit (d : ℕ) : UInt8 := UInt8.ofNat (if d < 10 then 48 + d else 55 + d)

/-- A number under `std::hex` and `std::uppercase`. -/
def upperHex (n : ℕ) : List UInt8 := (numeral 16 n).map upperDigit

def byteText (value : BitVec 8) : List UInt8 :=
  (if value.toNat < 0x10 then [byte '0'] else []) ++ upperHex value.toNat

def entryText (entry : FetchBlockData) : List UInt8 :=
  upperHex entry.offset.toNat ++ byte ':' :: [byte '.'].intercalate (entry.data.map byteText)

def blockLine (block : FetchBlock) : List UInt8 :=
  utf8 "BLOCK base=" ++ upperHex block.baseAddress.toNat ++
    (utf8 " data=" ++ [byte '|'].intercalate (block.blockData.map entryText))

def segmentLines (segment : Segment) : List (List UInt8) :=
  if segment.blocks = [] then []
  else (utf8 "SEG id=" ++ upperHex segment.id) :: (segment.blocks.map blockLine ++ [utf8 "ENDSEG"])

def scriptHeader : List UInt8 := utf8 "TIME_EXECUTOR_BLOCKS_V1"

def saveBlockScript (segments : List Segment) : List UInt8 :=
  (scriptHeader :: segments.flatMap segmentLines).flatMap (· ++ [byte '\n'])

/-! ## Loading -/

/-- The pieces of a text that a loop over `getline` does not pass over. -/
def pieces (delimiter : UInt8) (text : List UInt8) : List (List UInt8) :=
  (text.splitOn delimiter).filter (· ≠ [])

/-- What `>>` takes from a stream into a string, and what is left. -/
def extractWord (text : List UInt8) : List UInt8 × List UInt8 :=
  ((skipSpaces text).takeWhile (!isSpace ·), (skipSpaces text).dropWhile (!isSpace ·))

/-- `std::stoull` in base sixteen: what follows the digits is ignored, a negative number wraps. -/
def parseHex (text : List UInt8) : Except String (BitVec 64) :=
  let (negative, body) := spanSign (skipSpaces text)
  let prefixed := if hexPrefixed body then (spanDigits 16 (body.drop 2)).1 else []
  let digits := if prefixed = [] then (spanDigits 16 body).1 else prefixed
  if digits = [] ∨ 2 ^ 64 ≤ numeralValue 16 digits then .error "stoull"
  else
    let value := BitVec.ofNat 64 (numeralValue 16 digits)
    .ok (if negative then -value else value)

def parseEntry (encodedEntry : List UInt8) : Except String FetchBlockData :=
  match encodedEntry.dropWhile (· != byte ':') with
  | [] => .error "invalid block entry"
  | _ :: bytes => do
    let offset ← parseHex (encodedEntry.takeWhile (· != byte ':'))
    let data ← (pieces (byte '.') bytes).mapM fun byteToken =>
      (parseHex byteToken).map (BitVec.setWidth 8)
    .ok ⟨offset.setWidth 16, data⟩

def parseBlockPayload (payload : List UInt8) : Except String FetchBlock :=
  let (baseToken, rest) := extractWord payload
  let (dataToken, _) := extractWord rest
  if ¬ ((utf8 "base=").isPrefixOf baseToken ∧ (utf8 "data=").isPrefixOf dataToken) then
    .error "invalid block tokens"
  else do
    let base ← parseHex (baseToken.drop 5)
    let entries ← (pieces (byte '|') (dataToken.drop 5)).mapM parseEntry
    .ok ⟨base.setWidth 16, entries⟩

/-- The lists as far as they are loaded, and the segment that `currentSegment` points to. -/
structure Loading extends BlockScript where
  currentSegment : Option ℕ := none
deriving DecidableEq

def loadLine (s : Loading) (line : List UInt8) : Except String Loading :=
  if line = [] then .ok s
  else if (utf8 "SEG ").isPrefixOf line then
    .ok { s with
      segments := s.segments ++ [⟨s.segments.length, []⟩]
      currentSegment := some s.segments.length }
  else if line = utf8 "ENDSEG" then .ok { s with currentSegment := none }
  else if (utf8 "BLOCK ").isPrefixOf line then
    match s.currentSegment with
    | none => .error "BLOCK encountered outside segment"
    | some index => do
      let block ← parseBlockPayload (line.drop 6)
      .ok { s with
        segments := s.segments.modify index fun segment =>
          { segment with blocks := segment.blocks ++ [block] }
        playbackBlocks := s.playbackBlocks ++ [block] }
  else .ok s

/-- The loop over the lines; one that throws leaves the lists as the lines before it made them. -/
def loadLines (s : Loading) : List (List UInt8) → Except String Unit × Loading
  | [] => (.ok (), s)
  | line :: lines =>
    match loadLine s line with
    | .ok next => loadLines next lines
    | .error e => (.error e, s)

/-- A load into two lists; no file when the path cannot be opened. -/
def loadBlockScript (file : Option (List UInt8)) (before : BlockScript) :
    Except String Unit × BlockScript :=
  match file with
  | none => (.error "failed to open script file", before)
  | some text =>
    -- behind the last newline `getline` finds no line, the loop passes over an empty one
    let lines := text.splitOn (byte '\n')
    if lines.head? = some scriptHeader then
      ((loadLines {} lines.tail).1, (loadLines {} lines.tail).2.toBlockScript)
    else (.error "invalid script header", before)

/-! ## Numbers -/

abbrev Plain (b : UInt8) : Prop :=
  isSpace b = false ∧ b ≠ byte '|' ∧ b ≠ byte ':' ∧ b ≠ byte '.'

/-- A text that reads as a number and has no bytes that separate. -/
structure Spells (text : List UInt8) (value : BitVec 64) : Prop where
  parsed : parseHex text = .ok value
  nonempty : text ≠ []
  plain : ∀ b ∈ text, Plain b

variable {digits : List ℕ} {n : ℕ}

theorem upperDigit_plain : ∀ d < 16, digit? 16 (upperDigit d) = some d ∧
    upperDigit d ≠ byte '-' ∧ upperDigit d ≠ byte '+' ∧ upperDigit d ≠ byte 'x' ∧
    upperDigit d ≠ byte 'X' ∧ Plain (upperDigit d) := by
  decide

theorem plain_digits (h : ∀ d ∈ digits, d < 16) : ∀ b ∈ digits.map upperDigit, Plain b := by
  intro b hb
  obtain ⟨d, hd, rfl⟩ := List.mem_map.mp hb
  exact (upperDigit_plain d (h d hd)).2.2.2.2.2

theorem hexPrefixed_digits (h : ∀ d ∈ digits, d < 16) :
    hexPrefixed (digits.map upperDigit) = false := by
  cases digits with
  | nil => rfl
  | cons d digits =>
    cases digits with
    | nil => rfl
    | cons e digits =>
      obtain ⟨-, -, -, hx, hX, -⟩ := upperDigit_plain e (h e (by simp))
      simp [hexPrefixed, hx, hX]

theorem spells_digits (h : ∀ d ∈ digits, d < 16) (hne : digits ≠ [])
    (hvalue : numeralValue 16 digits = n) (hlt : n < 2 ^ 64) :
    Spells (digits.map upperDigit) (BitVec.ofNat 64 n) := by
  refine ⟨?_, by simpa using hne, plain_digits h⟩
  have hstart : skipSpaces (digits.map upperDigit) = digits.map upperDigit ∧
      spanSign (digits.map upperDigit) = (false, digits.map upperDigit) := by
    cases digits with
    | nil => exact ⟨rfl, rfl⟩
    | cons d digits =>
      obtain ⟨-, hminus, hplus, -, -, hspace, -⟩ := upperDigit_plain d (h d (by simp))
      simp [skipSpaces, spanSign, hspace, hminus, hplus]
  have hspan := spanDigits_map (fun d hd => (upperDigit_plain d hd).1) h (noDigit_nil 16)
  rw [List.append_nil] at hspan
  unfold parseHex
  rw [hstart.1, hstart.2]
  dsimp only
  rw [hexPrefixed_digits h, if_neg Bool.false_ne_true, if_pos rfl, hspan,
    if_neg (not_or.mpr ⟨hne, Nat.not_le.mpr (hvalue.trans_lt hlt)⟩), hvalue]
  rfl

theorem plain_upperHex : ∀ b ∈ upperHex n, Plain b := plain_digits (numeral_lt (by decide) n)

theorem spells_upperHex (address : BitVec 16) :
    Spells (upperHex address.toNat) (address.setWidth 64) := by
  rw [← BitVec.ofNat_toNat]
  exact spells_digits (numeral_lt (by decide) _) (numeral_ne_nil _) (numeralValue_numeral _ _)
    (by omega)

theorem spells_byteText (value : BitVec 8) : Spells (byteText value) (value.setWidth 64) := by
  obtain ⟨k, htext⟩ : ∃ k, byteText value =
      (List.replicate k 0 ++ numeral 16 value.toNat).map upperDigit := by
    unfold byteText
    split
    · exact ⟨1, rfl⟩
    · exact ⟨0, rfl⟩
  rw [htext, ← BitVec.ofNat_toNat]
  apply spells_digits
  · intro d hd
    rcases List.mem_append.mp hd with hzero | hdigit
    · rw [(List.mem_replicate.mp hzero).2]
      decide
    · exact numeral_lt (by decide) _ d hdigit
  · exact List.append_ne_nil_of_right_ne_nil _ (numeral_ne_nil _)
  · rw [numeralValue_zeros, numeralValue_numeral]
  · omega

/-! ## Separators -/

theorem pieces_intercalate {delimiter : UInt8} {items : List (List UInt8)}
    (h : ∀ item ∈ items, delimiter ∉ item ∧ item ≠ []) :
    pieces delimiter ([delimiter].intercalate items) = items := by
  by_cases hitems : items = []
  · rw [hitems]
    rfl
  rw [pieces, List.splitOn_intercalate delimiter (fun item hmem => (h item hmem).1) hitems,
    List.filter_eq_self]
  intro item hmem
  simpa using (h item hmem).2

theorem splitOn_lines {delimiter : UInt8} {lines : List (List UInt8)}
    (h : ∀ line ∈ lines, delimiter ∉ line) :
    (lines.flatMap (· ++ [delimiter])).splitOn delimiter = lines ++ [[]] := by
  induction lines with
  | nil => rfl
  | cons line lines ih =>
    obtain ⟨hline, hlines⟩ := List.forall_mem_cons.mp h
    rw [List.flatMap_cons, List.append_assoc, List.singleton_append,
      List.splitOn_append_cons_self_of_not_mem hline, ih hlines, List.cons_append]

theorem forall_intercalate {P : UInt8 → Prop} {delimiter : UInt8} {items : List (List UInt8)}
    (hdelimiter : P delimiter) (h : ∀ item ∈ items, ∀ b ∈ item, P b) :
    ∀ b ∈ [delimiter].intercalate items, P b := by
  induction items with
  | nil => nofun
  | cons item items ih =>
    obtain ⟨hitem, hitems⟩ := List.forall_mem_cons.mp h
    cases items with
    | nil => rwa [List.intercalate_singleton]
    | cons next items =>
      exact List.forall_mem_append.mpr ⟨hitem, List.forall_mem_cons.mpr ⟨hdelimiter, ih hitems⟩⟩

theorem extractWord_append {word rest : List UInt8} (hne : word ≠ [])
    (h : ∀ b ∈ word, isSpace b = false) (hrest : ∀ b ∈ rest.head?, isSpace b = true) :
    extractWord (word ++ rest) = (word, rest) := by
  have hskip : skipSpaces (word ++ rest) = word ++ rest := by
    cases word with
    | nil => exact absurd rfl hne
    | cons b word =>
      rw [skipSpaces, List.cons_append, List.dropWhile_cons, h b List.mem_cons_self]
      rfl
  have hword : ∀ b ∈ word, (!isSpace b) = true := fun b hb => by rw [h b hb]; rfl
  rw [extractWord, hskip, List.takeWhile_append_of_pos hword, List.dropWhile_append_of_pos hword]
  cases rest with
  | nil => simp
  | cons b rest =>
    have hb := hrest b rfl
    simp [hb]

/-! ## One block -/

theorem parseEntry_entryText (entry : FetchBlockData) :
    parseEntry (entryText entry) = .ok entry := by
  obtain ⟨hparsed, -, hplain⟩ := spells_upperHex entry.offset
  have hoffset : ∀ b ∈ upperHex entry.offset.toNat, (b != byte ':') = true :=
    fun b hb => bne_iff_ne.mpr (hplain b hb).2.2.1
  have hpieces : pieces (byte '.') ([byte '.'].intercalate (entry.data.map byteText)) =
      entry.data.map byteText := by
    refine pieces_intercalate (List.forall_mem_map.mpr fun value _ => ?_)
    have hspells := spells_byteText value
    exact ⟨fun hdot => (hspells.plain _ hdot).2.2.2 rfl, hspells.nonempty⟩
  have hdata : (entry.data.map byteText).mapM (fun byteToken =>
      (parseHex byteToken).map (BitVec.setWidth 8)) = .ok entry.data := by
    apply mapM_map_of_ok
    intro value _
    rw [(spells_byteText value).parsed]
    exact congrArg Except.ok (BitVec.setWidth_setWidth_of_le value (by decide))
  unfold parseEntry entryText
  rw [List.dropWhile_append_of_pos hoffset, List.takeWhile_append_of_pos hoffset,
    List.dropWhile_cons_of_neg (by simp), List.takeWhile_cons_of_neg (by simp), List.append_nil]
  dsimp only
  rw [ok_bind hparsed, hpieces, ok_bind hdata, BitVec.setWidth_setWidth_of_le _ (by decide),
    BitVec.setWidth_eq]

/-- The entries of a block are one word, with the bars only between them. -/
theorem plain_entryText (entry : FetchBlockData) :
    ∀ b ∈ entryText entry, isSpace b = false ∧ b ≠ byte '|' := by
  have hplain : ∀ {text : List UInt8}, (∀ b ∈ text, Plain b) →
      ∀ b ∈ text, isSpace b = false ∧ b ≠ byte '|' := fun h b hb => ⟨(h b hb).1, (h b hb).2.1⟩
  exact List.forall_mem_append.mpr ⟨hplain plain_upperHex, List.forall_mem_cons.mpr ⟨by decide,
    forall_intercalate (by decide) (List.forall_mem_map.mpr fun value _ =>
      hplain (spells_byteText value).plain)⟩⟩

def baseToken (block : FetchBlock) : List UInt8 :=
  utf8 "base=" ++ upperHex block.baseAddress.toNat

def dataToken (block : FetchBlock) : List UInt8 :=
  utf8 "data=" ++ [byte '|'].intercalate (block.blockData.map entryText)

variable (block : FetchBlock)

theorem blockLine_eq :
    blockLine block = utf8 "BLOCK " ++ (baseToken block ++ byte ' ' :: dataToken block) := rfl

theorem isSpace_baseToken : ∀ b ∈ baseToken block, isSpace b = false :=
  List.forall_mem_append.mpr ⟨fun b hb => Bool.eq_false_iff.mpr (List.any_eq_false.mp rfl b hb),
    fun b hb => (plain_upperHex b hb).1⟩

theorem isSpace_dataToken : ∀ b ∈ dataToken block, isSpace b = false :=
  List.forall_mem_append.mpr ⟨fun b hb => Bool.eq_false_iff.mpr (List.any_eq_false.mp rfl b hb),
    forall_intercalate (by decide)
      (List.forall_mem_map.mpr fun entry _ b hb => (plain_entryText entry b hb).1)⟩

theorem parseBlockPayload_tokens :
    parseBlockPayload (baseToken block ++ byte ' ' :: dataToken block) = .ok block := by
  have hpieces : pieces (byte '|') ([byte '|'].intercalate (block.blockData.map entryText)) =
      block.blockData.map entryText := by
    refine pieces_intercalate (List.forall_mem_map.mpr fun entry _ => ?_)
    exact ⟨fun hbar => (plain_entryText entry _ hbar).2 rfl, by simp [entryText]⟩
  have hentries : (block.blockData.map entryText).mapM parseEntry = .ok block.blockData :=
    mapM_map_of_ok fun entry _ => parseEntry_entryText entry
  have hrest : extractWord (byte ' ' :: dataToken block) = (dataToken block, []) := by
    have hword := extractWord_append (show dataToken block ≠ [] from List.cons_ne_nil _ _)
      (isSpace_dataToken block) (show ∀ b ∈ [].head?, isSpace b = true from nofun)
    rwa [List.append_nil] at hword
  have hdrop : (baseToken block).drop 5 = upperHex block.baseAddress.toNat ∧
      (dataToken block).drop 5 = [byte '|'].intercalate (block.blockData.map entryText) :=
    ⟨rfl, rfl⟩
  unfold parseBlockPayload
  rw [extractWord_append (show baseToken block ≠ [] from List.cons_ne_nil _ _)
    (isSpace_baseToken block) (by rintro b ⟨⟩; decide)]
  dsimp only
  rw [hrest, if_neg (not_not.mpr ⟨rfl, rfl⟩), hdrop.1, hdrop.2,
    ok_bind (spells_upperHex block.baseAddress).parsed, hpieces, ok_bind hentries,
    BitVec.setWidth_setWidth_of_le _ (by decide), BitVec.setWidth_eq]

/-! ## A whole script -/

variable {s t : Loading}

theorem loadLines_append {front : List (List UInt8)} (h : loadLines s front = (.ok (), t))
    (back : List (List UInt8)) : loadLines s (front ++ back) = loadLines t back := by
  induction front generalizing s with
  | nil =>
    cases h
    rfl
  | cons line front ih =>
    rw [List.cons_append, loadLines]
    rw [loadLines] at h
    cases hline : loadLine s line with
    | error e =>
      rw [hline] at h
      cases h
    | ok next =>
      rw [hline] at h
      exact ih h

theorem modify_last {α : Type} (xs : List α) (x : α) (f : α → α) :
    (xs ++ [x]).modify xs.length f = xs ++ [f x] := by
  induction xs with
  | nil => rfl
  | cons y xs ih =>
    rw [List.cons_append, List.length_cons, List.modify_succ_cons, ih]
    rfl

theorem loadLine_blockLine (segments : List Segment) (segment : Segment)
    (playback : List FetchBlock) :
    loadLine ⟨⟨segments ++ [segment], playback⟩, some segments.length⟩ (blockLine block) =
      .ok ⟨⟨segments ++ [{ segment with blocks := segment.blocks ++ [block] }],
        playback ++ [block]⟩, some segments.length⟩ := by
  have hparsed : parseBlockPayload ((blockLine block).drop 6) = .ok block :=
    parseBlockPayload_tokens block
  change (parseBlockPayload ((blockLine block).drop 6) >>= fun block => .ok _) = _
  rw [ok_bind hparsed, modify_last]

theorem loadLines_blocks (blocks : List FetchBlock) (segments : List Segment) (segment : Segment)
    (playback : List FetchBlock) :
    loadLines ⟨⟨segments ++ [segment], playback⟩, some segments.length⟩ (blocks.map blockLine) =
      (.ok (), ⟨⟨segments ++ [{ segment with blocks := segment.blocks ++ blocks }],
        playback ++ blocks⟩, some segments.length⟩) := by
  induction blocks generalizing segment playback with
  | nil => simp [loadLines]
  | cons block blocks ih =>
    rw [List.map_cons, loadLines, loadLine_blockLine]
    dsimp only
    rw [ih]
    simp

theorem loadLines_segment (segments : List Segment) (playback : List FetchBlock) {segment : Segment}
    (h : segment.blocks ≠ []) :
    loadLines ⟨⟨segments, playback⟩, none⟩ (segmentLines segment) =
      (.ok (), ⟨⟨segments ++ [{ segment with id := segments.length }],
        playback ++ segment.blocks⟩, none⟩) := by
  have hopen : loadLine ⟨⟨segments, playback⟩, none⟩ (utf8 "SEG id=" ++ upperHex segment.id) =
      .ok ⟨⟨segments ++ [⟨segments.length, []⟩], playback⟩, some segments.length⟩ := rfl
  rw [segmentLines, if_neg h, loadLines, hopen]
  dsimp only
  rw [loadLines_append (loadLines_blocks _ _ _ _)]
  rfl

/-- The non-empty segments of a list, numbered anew, after those that are loaded. -/
theorem loadLines_segments (segments loaded : List Segment) (playback : List FetchBlock) :
    loadLines ⟨⟨loaded, playback⟩, none⟩ (segments.flatMap segmentLines) =
      (.ok (), ⟨⟨loaded ++ (segments.filter (·.blocks ≠ [])).mapIdx fun i segment =>
          { segment with id := loaded.length + i },
        playback ++ (segments.filter (·.blocks ≠ [])).flatMap Segment.blocks⟩, none⟩) := by
  induction segments generalizing loaded playback with
  | nil => simp [loadLines]
  | cons segment segments ih =>
    by_cases hempty : segment.blocks = []
    · simp [segmentLines, hempty, ih]
    · rw [List.flatMap_cons, loadLines_append (loadLines_segment loaded playback hempty), ih,
        List.filter_cons_of_pos (by simpa using hempty)]
      simp [List.mapIdx_cons, Nat.add_assoc, Nat.add_comm 1]

theorem newline_not_mem (segments : List Segment) :
    ∀ line ∈ scriptHeader :: segments.flatMap segmentLines, byte '\n' ∉ line := by
  have hspace {text : List UInt8} (h : ∀ b ∈ text, isSpace b = false) : byte '\n' ∉ text :=
    fun hmem => absurd (h _ hmem) (by decide)
  refine List.forall_mem_cons.mpr ⟨by decide, List.forall_mem_flatMap.mpr fun segment _ => ?_⟩
  unfold segmentLines
  split
  · nofun
  · refine List.forall_mem_cons.mpr ⟨?_, List.forall_mem_append.mpr
      ⟨List.forall_mem_map.mpr fun block _ => ?_, by decide⟩⟩
    · rw [List.mem_append, not_or]
      exact ⟨by decide, hspace fun b hb => (plain_upperHex b hb).1⟩
    · rw [blockLine_eq, List.mem_append, List.mem_append, List.mem_cons, not_or, not_or, not_or]
      exact ⟨by decide, hspace (isSpace_baseToken block), by decide,
        hspace (isSpace_dataToken block)⟩

/-- What a saved list of segments spells: the non-empty ones, numbered anew. -/
def saved (segments : List Segment) : BlockScript where
  segments := (segments.filter (·.blocks ≠ [])).mapIdx fun i segment => { segment with id := i }
  playbackBlocks := (segments.filter (·.blocks ≠ [])).flatMap Segment.blocks

theorem loadBlockScript_saveBlockScript (segments : List Segment) (before : BlockScript) :
    loadBlockScript (some (saveBlockScript segments)) before = (.ok (), saved segments) := by
  have hlines := loadLines_append (loadLines_segments segments [] []) [[]]
  unfold loadBlockScript saveBlockScript
  dsimp only
  rw [splitOn_lines (newline_not_mem segments), List.cons_append, List.head?_cons, if_pos rfl]
  rw [List.tail_cons, hlines]
  simp [loadLines, loadLine, saved]

/-! ## Any file -/

/-- What `std::stoull` converts. -/
def IsNumber (text : List UInt8) : Prop := ∃ value, parseHex text = .ok value

/-- A colon, with a number before it and between the dots after it. -/
def EntryWellFormed (encodedEntry : List UInt8) : Prop :=
  encodedEntry.dropWhile (· != byte ':') ≠ [] ∧
    IsNumber (encodedEntry.takeWhile (· != byte ':')) ∧
    ∀ byteToken ∈ pieces (byte '.') (encodedEntry.dropWhile (· != byte ':')).tail,
      IsNumber byteToken

def PayloadWellFormed (payload : List UInt8) : Prop :=
  let (baseToken, rest) := extractWord payload
  let (dataToken, _) := extractWord rest
  ((utf8 "base=").isPrefixOf baseToken = true ∧ (utf8 "data=").isPrefixOf dataToken = true) ∧
    IsNumber (baseToken.drop 5) ∧
    ∀ encodedEntry ∈ pieces (byte '|') (dataToken.drop 5), EntryWellFormed encodedEntry

theorem bind_ok_iff {α β : Type} {x : Except String α} {f : α → Except String β} {g : α → β}
    (hf : ∀ a, f a = .ok (g a)) : (∃ b, (x >>= f) = .ok b) ↔ ∃ a, x = .ok a := by
  cases x with
  | error e => exact iff_of_false nofun nofun
  | ok a => exact iff_of_true ⟨g a, hf a⟩ ⟨a, rfl⟩

theorem parseEntry_ok_iff (encodedEntry : List UInt8) :
    (∃ entry, parseEntry encodedEntry = .ok entry) ↔ EntryWellFormed encodedEntry := by
  unfold parseEntry EntryWellFormed IsNumber
  cases encodedEntry.dropWhile (· != byte ':') with
  | nil => exact iff_of_false nofun fun h => h.1 rfl
  | cons colon bytes =>
    rw [and_iff_right (List.cons_ne_nil _ _), List.tail_cons]
    cases parseHex (encodedEntry.takeWhile (· != byte ':')) with
    | error e => exact iff_of_false nofun nofun
    | ok offset =>
      rw [and_iff_right ⟨offset, rfl⟩]
      refine (bind_ok_iff fun _ => rfl).trans (mapM_ok_iff.trans ?_)
      exact forall₂_congr fun byteToken _ => bind_ok_iff fun _ => rfl

theorem parseBlockPayload_ok_iff (payload : List UInt8) :
    (∃ block, parseBlockPayload payload = .ok block) ↔ PayloadWellFormed payload := by
  unfold parseBlockPayload PayloadWellFormed IsNumber
  dsimp only
  split_ifs with htokens
  · rw [and_iff_right htokens]
    cases parseHex ((extractWord payload).1.drop 5) with
    | error e => exact iff_of_false nofun nofun
    | ok base =>
      rw [and_iff_right ⟨base, rfl⟩]
      refine (bind_ok_iff fun _ => rfl).trans (mapM_ok_iff.trans ?_)
      exact forall₂_congr fun entry _ => parseEntry_ok_iff entry
  · exact iff_of_false nofun fun h => htokens h.1

/-- Every block stands in a segment and has a well-formed payload. -/
def Readable : Bool → List (List UInt8) → Prop
  | _, [] => True
  | opened, line :: lines =>
    if (utf8 "SEG ").isPrefixOf line then Readable true lines
    else if line = utf8 "ENDSEG" then Readable false lines
    else ((utf8 "BLOCK ").isPrefixOf line = true →
      opened = true ∧ PayloadWellFormed (line.drop 6)) ∧ Readable opened lines

theorem loadLines_ok_iff (s : Loading) (lines : List (List UInt8)) :
    (loadLines s lines).1 = .ok () ↔ Readable s.currentSegment.isSome lines := by
  induction lines generalizing s with
  | nil => exact iff_of_true rfl trivial
  | cons line lines ih =>
    rw [loadLines, Readable]
    unfold loadLine
    by_cases hempty : line = []
    · subst hempty
      exact (ih s).trans (and_iff_right fun hblock => absurd hblock (by decide)).symm
    split_ifs with hsegment hend hblock
    · exact ih _
    · exact ih _
    · cases hcurrent : s.currentSegment with
      | none => exact iff_of_false nofun fun h => nomatch (h.1 hblock).1
      | some index =>
        rw [← parseBlockPayload_ok_iff]
        cases parseBlockPayload (line.drop 6) with
        | error e => exact iff_of_false nofun fun h => nomatch (h.1 hblock).2
        | ok block =>
          exact (ih ⟨_, some index⟩).trans (and_iff_right fun _ => ⟨rfl, block, rfl⟩).symm
    · exact (ih s).trans (and_iff_right fun h => absurd h hblock).symm

/-- A load succeeds, or it throws and the two lists are as they were. -/
def AllOrNothing (file : Option (List UInt8)) : Prop :=
  ∀ before, (loadBlockScript file before).1 = .ok () ∨ (loadBlockScript file before).2 = before

/-- The file is not opened, does not begin with the header, or can be read to its end. -/
def Loadable (file : Option (List UInt8)) : Prop :=
  ∀ text ∈ file, (text.splitOn (byte '\n')).head? = some scriptHeader →
    Readable false (text.splitOn (byte '\n')).tail

theorem allOrNothing_iff (file : Option (List UInt8)) : AllOrNothing file ↔ Loadable file := by
  unfold AllOrNothing Loadable loadBlockScript
  cases file with
  | none => exact iff_of_true (fun _ => .inr rfl) nofun
  | some text =>
    simp only [Option.mem_some_iff, forall_eq']
    generalize text.splitOn (byte '\n') = lines
    by_cases hheader : lines.head? = some scriptHeader
    · simp only [if_pos hheader]
      constructor
      · intro hall _
        -- two lists that differ cannot both be what a load left
        apply (loadLines_ok_iff {} lines.tail).mp
        rcases hall {} with hok | hempty
        · exact hok
        · rcases hall ⟨[⟨0, []⟩], []⟩ with hok | hfull
          · exact hok
          · exact absurd (hempty.symm.trans hfull) (by decide)
      · intro hreadable before
        exact .inl ((loadLines_ok_iff {} lines.tail).mpr (hreadable hheader))
    · simp only [if_neg hheader]
      exact iff_of_true (fun _ => .inr trivial) fun h => absurd h hheader

/-- What is saved is loaded back, and a load is all or nothing on just the files that cannot be
opened, lack the header or can be read to the end. -/
theorem blockScript_iff (segments : List Segment) (file : Option (List UInt8)) :
    (∀ before,
      loadBlockScript (some (saveBlockScript segments)) before = (.ok (), saved segments)) ∧
    (AllOrNothing file ↔ Loadable file) :=
  ⟨loadBlockScript_saveBlockScript segments, allOrNothing_iff file⟩

def oneBlock : BlockScript := ⟨[⟨0, [⟨0x100, []⟩]⟩], [⟨0x100, []⟩]⟩

theorem blockOutside_clears :
    let loaded := loadBlockScript
      (some (utf8 "TIME_EXECUTOR_BLOCKS_V1\nBLOCK base=100 data=\n")) oneBlock
    loaded.1 ≠ .ok () ∧ loaded.2 = {} ∧ oneBlock ≠ {} := by
  decide

end ProtoTime.ExecutorIO

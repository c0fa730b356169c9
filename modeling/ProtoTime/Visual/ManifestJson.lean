import ProtoTime.Visual.VisualTypes

/-!
The parser of pack manifests: JSON values as the loader holds them, the recursive descent
over the bytes of a text, and the accesses the loader makes to what it parsed. The depth of
the descent is bounded by a fuel that grows with the text.
-/
namespace ProtoTime.Visual

open Json Numerals

/-- A value; the members of an object stand in the order in which their keys first occur. -/
inductive JsonValue where
  | null
  | bool (value : Bool)
  | number (value : ℚ)
  | string (value : Text)
  | object (members : List (Text × JsonValue))
  | array (items : List JsonValue)

namespace JsonParser

def consume (expected : UInt8) (text : Text) : Option Text :=
  match skipSpaces text with
  | [] => none
  | b :: rest => if b = expected then some rest else none

/-- The code unit of four hexadecimal digits. -/
def parseUnicodeHexQuad : Text → Option (ℕ × Text)
  | a :: b :: c :: d :: rest => do
    let digits ← [a, b, c, d].mapM (digit? 16)
    some (numeralValue 16 digits, rest)
  | _ => none

/-- The code point of an escape, from one code unit or from a pair of surrogates. -/
def parseUnicodeEscape (text : Text) : Option (ℕ × Text) :=
  match parseUnicodeHexQuad text with
  | none => none
  | some (first, rest) =>
    if 0xD800 ≤ first ∧ first ≤ 0xDBFF then
      match rest with
      | a :: b :: rest =>
        if a = byte '\\' ∧ b = byte 'u' then
          match parseUnicodeHexQuad rest with
          | none => none
          | some (second, rest) =>
            if second < 0xDC00 ∨ 0xDFFF < second then none
            else some (0x10000 + ((first - 0xD800) * 2 ^ 10 + (second - 0xDC00)), rest)
        else none
      | _ => none
    else if 0xDC00 ≤ first ∧ first ≤ 0xDFFF then none
    else some (first, rest)

def continuationByte (codePoint shift : ℕ) : UInt8 :=
  UInt8.ofNat (0x80 + codePoint / 2 ^ shift % 64)

def appendUtf8 (codePoint : ℕ) : Option Text :=
  if codePoint ≤ 0x7F then some [UInt8.ofNat codePoint]
  else if codePoint ≤ 0x7FF then
    some [UInt8.ofNat (0xC0 + codePoint / 2 ^ 6 % 32), continuationByte codePoint 0]
  else if codePoint ≤ 0xFFFF then
    some [UInt8.ofNat (0xE0 + codePoint / 2 ^ 12 % 16), continuationByte codePoint 6,
      continuationByte codePoint 0]
  else if codePoint ≤ 0x10FFFF then
    some [UInt8.ofNat (0xF0 + codePoint / 2 ^ 18 % 8), continuationByte codePoint 12,
      continuationByte codePoint 6, continuationByte codePoint 0]
  else none

def escapedByte (letter : UInt8) : Option UInt8 :=
  if letter = byte '"' ∨ letter = byte '\\' ∨ letter = byte '/' then some letter
  else if letter = byte 'b' then some 8
  else if letter = byte 'f' then some 12
  else if letter = byte 'n' then some (byte '\n')
  else if letter = byte 'r' then some (byte '\r')
  else if letter = byte 't' then some (byte '\t')
  else none

theorem length_parseUnicodeHexQuad {text rest : Text} {unit : ℕ}
    (h : parseUnicodeHexQuad text = some (unit, rest)) : rest.length < text.length := by
  match text, h with
  | a :: b :: c :: d :: tail, h =>
    simp only [parseUnicodeHexQuad, Option.bind_eq_bind, Option.bind_eq_some_iff,
      Option.some.injEq, Prod.mk.injEq] at h
    obtain ⟨_, _, _, rfl⟩ := h
    simp only [List.length_cons]
    omega

theorem length_parseUnicodeEscape {text rest : Text} {codePoint : ℕ}
    (h : parseUnicodeEscape text = some (codePoint, rest)) : rest.length < text.length := by
  unfold parseUnicodeEscape at h
  split at h
  · cases h
  · rename_i first middle hfirst
    have hlen := length_parseUnicodeHexQuad hfirst
    split_ifs at h
    · split at h
      · split_ifs at h
        split at h
        · cases h
        · rename_i second last hsecond
          have hlast := length_parseUnicodeHexQuad hsecond
          split_ifs at h
          simp only [Option.some.injEq, Prod.mk.injEq] at h
          obtain ⟨_, rfl⟩ := h
          simp only [List.length_cons] at hlen
          omega
      · cases h
    · obtain ⟨_, rfl⟩ := h
      exact hlen

/-- The rest of a string after its opening quote, and what follows the closing one. -/
def stringBody (text : Text) : Option (Text × Text) :=
  match text with
  | [] => none
  | b :: text =>
    if b = byte '"' then some ([], text)
    else if b ≠ byte '\\' then (stringBody text).map fun read => (b :: read.1, read.2)
    else
      match text with
      | [] => none
      | letter :: text =>
        if letter = byte 'u' then
          match h : parseUnicodeEscape text with
          | none => none
          | some (codePoint, rest) =>
            have : rest.length < text.length := length_parseUnicodeEscape h
            match appendUtf8 codePoint with
            | none => none
            | some bytes => (stringBody rest).map fun read => (bytes ++ read.1, read.2)
        else
          match escapedByte letter with
          | none => none
          | some c => (stringBody text).map fun read => (c :: read.1, read.2)
termination_by text.length

def parseString (text : Text) : Option (Text × Text) := (consume (byte '"') text).bind stringBody

def spanDigitBytes (text : Text) : Text × Text :=
  (text.takeWhile isDigitByte, text.dropWhile isDigitByte)

def parseNumber (text : Text) : Option (JsonValue × Text) :=
  let (sign, text) :=
    match text with
    | b :: rest => if b = byte '-' then ([b], rest) else ([], b :: rest)
    | [] => ([], [])
  let (whole, text) := spanDigitBytes text
  let (fraction, rest) :=
    match text with
    | b :: after =>
      if b = byte '.' then (b :: (spanDigitBytes after).1, (spanDigitBytes after).2)
      else ([], b :: after)
    | [] => ([], [])
  (stod (sign ++ whole ++ fraction)).map fun read => (.number read.1, rest)

def parseLiteral (text : Text) : Option (JsonValue × Text) :=
  if (utf8 "true").isPrefixOf text then some (.bool true, text.drop 4)
  else if (utf8 "false").isPrefixOf text then some (.bool false, text.drop 5)
  else if (utf8 "null").isPrefixOf text then some (.null, text.drop 4)
  else none

/-- A member set where its key has no value yet. -/
def emplace (members : List (Text × JsonValue)) (key : Text) (value : JsonValue) :
    List (Text × JsonValue) :=
  if (members.lookup key).isSome then members else members ++ [(key, value)]

mutual

def parseValue : ℕ → Text → Option (JsonValue × Text)
  | 0, _ => none
  | fuel + 1, text =>
    match skipSpaces text with
    | [] => none
    | b :: rest =>
      if b = byte '\x7b' then
        match consume (byte '\x7d') rest with
        | some rest => some (.object [], rest)
        | none => parseMembers fuel [] (skipSpaces rest)
      else if b = byte '[' then
        match consume (byte ']') rest with
        | some rest => some (.array [], rest)
        | none => parseItems fuel [] (skipSpaces rest)
      else if b = byte '"' then (stringBody rest).map fun read => (.string read.1, read.2)
      else if b = byte '-' ∨ isDigitByte b = true then parseNumber (b :: rest)
      else parseLiteral (b :: rest)

/-- The loop over the members of an object. -/
def parseMembers : ℕ → List (Text × JsonValue) → Text → Option (JsonValue × Text)
  | 0, _, _ => none
  | fuel + 1, members, text =>
    match parseString text with
    | none => none
    | some (key, text) =>
      match consume (byte ':') text with
      | none => none
      | some text =>
        match parseValue fuel text with
        | none => none
        | some (value, text) =>
          match consume (byte '\x7d') text with
          | some rest => some (.object (emplace members key value), rest)
          | none =>
            match consume (byte ',') text with
            | some rest => parseMembers fuel (emplace members key value) (skipSpaces rest)
            | none => none

/-- The loop over the items of an array. -/
def parseItems : ℕ → List JsonValue → Text → Option (JsonValue × Text)
  | 0, _, _ => none
  | fuel + 1, items, text =>
    match parseValue fuel text with
    | none => none
    | some (value, text) =>
      match consume (byte ']') text with
      | some rest => some (.array (items ++ [value]), rest)
      | none =>
        match consume (byte ',') text with
        | some rest => parseItems fuel (items ++ [value]) rest
        | none => none

end

/-- The value of a whole text. -/
def parse (text : Text) : Option JsonValue :=
  match parseValue (2 * text.length + 2) (skipSpaces text) with
  | none => none
  | some (value, rest) => if skipSpaces rest = [] then some value else none

end JsonParser

namespace JsonValue

def object? : JsonValue → Option (List (Text × JsonValue))
  | object members => some members
  | _ => none

def array? : JsonValue → Option (List JsonValue)
  | array items => some items
  | _ => none

def string? : JsonValue → Option Text
  | string value => some value
  | _ => none

def number? : JsonValue → Option ℚ
  | number value => some value
  | _ => none

def bool? : JsonValue → Option Bool
  | bool value => some value
  | _ => none

end JsonValue

def findMember (object : List (Text × JsonValue)) (key : Text) : Option JsonValue :=
  object.lookup key

def jsonString (object : List (Text × JsonValue)) (key : Text) : Option Text :=
  (findMember object key).bind JsonValue.string?

end ProtoTime.Visual

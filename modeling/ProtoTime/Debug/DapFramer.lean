import Mathlib.Data.List.Infix
import Mathlib.Tactic.SplitIfs
import ProtoTime.Numerals
import ProtoTime.Results

/-!
The messages of the debug adapter protocol on a byte stream: a frame is a header with the
length of the message's text and that text, and the framer takes the stream in the pieces it
arrives in.
-/
namespace ProtoTime.Debug.DapFramer

open Json Numerals

def separator : List UInt8 := [byte '\r', byte '\n', byte '\r', byte '\n']

def contentLength : List UInt8 := utf8 "Content-Length: "

def header (count : ℕ) : List UInt8 := contentLength ++ dumpNat count

def frame (message : Json) : List UInt8 :=
  header message.dump.length ++ (separator ++ message.dump)

def frameBudget : ℕ := 1024 * 1024

def bodyLimit : ℕ := 1024 * 1024 - 132

def number (text : List UInt8) (limit : ℕ) : Except String ℕ :=
  let hex := (utf8 "0x").isPrefixOf text
  let base := if hex then 16 else 10
  let (digits, rest) := spanDigits base (if hex then text.drop 2 else text)
  if digits = [] ∨ rest ≠ [] ∨ 2 ^ 64 ≤ numeralValue base digits then .error "invalid integer"
  else if limit < numeralValue base digits then .error "value exceeds supported range"
  else .ok (numeralValue base digits)

/-- Where the first separator begins. -/
def findSeparator : List UInt8 → Option ℕ
  | [] => none
  | b :: text =>
    if separator.isPrefixOf (b :: text) then some 0 else (findSeparator text).map (· + 1)

variable (parse : List UInt8 → Except String Json)

/-- One round of the loop in `feed`: the message at the head of the buffer and what follows
it, or nothing when its frame is not complete. -/
def nextFrame (buffer : List UInt8) : Except String (Option (Json × List UInt8)) :=
  match findSeparator buffer with
  | none => if 128 < buffer.length then .error "DAP header budget exceeded" else .ok none
  | some stop =>
    if contentLength.isPrefixOf buffer = false ∨ 128 < stop then .error "invalid DAP header"
    else do
      let count ← number ((buffer.take stop).drop contentLength.length) bodyLimit
      if count = 0 then .error "empty DAP frame"
      else if buffer.length < stop + 4 + count then .ok none
      else do
        let message ← parse ((buffer.drop (stop + 4)).take count)
        .ok (some (message, buffer.drop (stop + 4 + count)))

variable {message : Json}

variable {parse} in
theorem nextFrame_shorter {buffer rest : List UInt8}
    (h : nextFrame parse buffer = .ok (some (message, rest))) : rest.length < buffer.length := by
  unfold nextFrame at h
  cases hstop : findSeparator buffer with
  | none =>
    simp only [hstop] at h
    split_ifs at h
    cases h
  | some stop =>
    simp only [hstop] at h
    split_ifs at h with hheader
    obtain ⟨count, _, h⟩ := Results.bind_eq_ok h
    split_ifs at h with hzero hshort
    · cases h
    · obtain ⟨text, _, h⟩ := Results.bind_eq_ok h
      cases h
      rw [List.length_drop]
      omega

/-- The loop in `feed`. -/
def drain (buffer : List UInt8) : Except String (List Json × List UInt8) :=
  match _h : nextFrame parse buffer with
  | .error text => .error text
  | .ok none => .ok ([], buffer)
  | .ok (some (message, rest)) => (drain rest).map fun r => (message :: r.1, r.2)
termination_by buffer.length
decreasing_by exact nextFrame_shorter _h

def feed (buffer bytes : List UInt8) : Except String (List Json × List UInt8) :=
  if frameBudget < buffer.length + bytes.length then .error "DAP frame budget exceeded"
  else drain parse (buffer ++ bytes)

/-- A run of calls, up to the first one that throws: the messages of all calls and what is
left in the buffer. -/
def feedAll (buffer : List UInt8) : List (List UInt8) → Except String (List Json × List UInt8)
  | [] => .ok ([], buffer)
  | bytes :: chunks => do
    let (messages, buffer) ← feed parse buffer bytes
    let (more, left) ← feedAll buffer chunks
    .ok (messages ++ more, left)

/-! ## One frame -/

theorem findSeparator_append {text : List UInt8} (h : byte '\r' ∉ text) (rest : List UInt8) :
    findSeparator (text ++ rest) = (findSeparator rest).map (· + text.length) := by
  induction text with
  | nil => simp
  | cons b text ih =>
    have hb : byte '\r' ≠ b := List.ne_of_not_mem_cons h
    have htext : byte '\r' ∉ text := List.not_mem_of_not_mem_cons h
    have hno : separator.isPrefixOf (b :: (text ++ rest)) = false := by
      rw [separator, List.isPrefixOf, beq_false_of_ne hb, Bool.false_and]
    rw [List.cons_append, findSeparator, hno, ih htext]
    cases findSeparator rest with
    | none => rfl
    | some n => rw [List.length_cons]; rfl

theorem findSeparator_separator (rest : List UInt8) :
    findSeparator (separator ++ rest) = some 0 := by
  have h : separator.isPrefixOf (separator ++ rest) = true := by
    rw [List.isPrefixOf_iff_prefix]
    exact List.prefix_append separator rest
  exact if_pos h

theorem findSeparator_take {k : ℕ} (h : k < 4) : findSeparator (separator.take k) = none := by
  revert h
  revert k
  decide

theorem return_not_mem_header (count : ℕ) : byte '\r' ∉ header count := by
  intro h
  rcases List.mem_append.mp h with hname | hdigit
  · exact absurd hname (by decide)
  · exact absurd (dumpNat_isDigitByte count _ hdigit) (by decide)

theorem length_header {count : ℕ} (h : count ≤ bodyLimit) : (header count).length ≤ 23 := by
  have hdigits : (numeral 10 count).length ≤ 7 := by
    unfold numeral
    split_ifs
    · decide
    · rw [List.length_reverse]
      refine (Nat.digits_length_le_iff (by decide) count).mpr (lt_of_le_of_lt h ?_)
      decide
  have hname : contentLength.length = 16 := by decide
  rw [header, List.length_append, dumpNat_eq_map, List.length_map, hname]
  omega

theorem number_dumpNat {count : ℕ} (h : count ≤ bodyLimit) :
    number (dumpNat count) bodyLimit = .ok count := by
  have hhex : (utf8 "0x").isPrefixOf (dumpNat count) = false := by
    rw [Bool.eq_false_iff]
    intro hx
    have hmem := (List.isPrefixOf_iff_prefix.mp hx).subset (by decide : byte 'x' ∈ utf8 "0x")
    exact absurd (dumpNat_isDigitByte count _ hmem) (by decide)
  have hspan : spanDigits 10 (dumpNat count) = (numeral 10 count, []) := by
    have happend := spanDigits_append (by decide) (numeral_lt (by decide) count) (noDigit_nil 10)
    rwa [List.append_nil, ← dumpNat_eq_map] at happend
  have hlimit : bodyLimit < 2 ^ 64 := by decide
  unfold number
  simp only [hhex, Bool.false_eq_true, if_false, hspan, numeral_ne_nil, numeralValue_numeral,
    ne_eq, not_true, false_or]
  rw [if_neg (by omega), if_neg (by omega)]

/-- A buffer with a whole header waits for the text or takes it. -/
theorem nextFrame_header {count : ℕ} (hpos : count ≠ 0) (h : count ≤ bodyLimit)
    (text : List UInt8) :
    nextFrame parse (header count ++ (separator ++ text))
      = if text.length < count then .ok none
        else (parse (text.take count)).map fun message => some (message, text.drop count) := by
  have hstop : findSeparator (header count ++ (separator ++ text))
      = some (header count).length := by
    rw [findSeparator_append (return_not_mem_header count), findSeparator_separator]
    simp
  have hname : contentLength.isPrefixOf (header count ++ (separator ++ text)) = true := by
    rw [List.isPrefixOf_iff_prefix, header, List.append_assoc]
    exact List.prefix_append contentLength _
  have hnumber : number ((header count).drop contentLength.length) bodyLimit = .ok count := by
    exact number_dumpNat h
  have hlength := length_header h
  have hdrop (k : ℕ) : (header count ++ (separator ++ text)).drop ((header count).length + 4 + k)
      = text.drop k := by
    rw [Nat.add_assoc, List.drop_length_add_append]
    exact @List.drop_length_add_append _ separator text k
  have htotal : (header count ++ (separator ++ text)).length
      = (header count).length + 4 + text.length := by
    rw [List.length_append, List.length_append, Nat.add_assoc]
    rfl
  have hzero := hdrop 0
  have hbudget : ¬ 128 < (header count).length := by omega
  unfold nextFrame
  simp only [hstop, hname, Bool.true_eq_false, false_or, if_neg hbudget, List.take_left, hnumber,
    bind, Except.bind, if_neg hpos, htotal, hzero, hdrop, Nat.add_lt_add_iff_left]
  rfl

theorem dump_length_ne_zero (message : Json) : message.dump.length ≠ 0 := by
  obtain ⟨c, rest, hdump, _⟩ := dump_head message
  rw [hdump]
  exact Nat.succ_ne_zero _

variable {parse} in
theorem nextFrame_whole (hparse : parse message.dump = .ok message)
    (hsize : message.dump.length ≤ bodyLimit) (rest : List UInt8) :
    nextFrame parse (frame message ++ rest) = .ok (some (message, rest)) := by
  rw [frame, List.append_assoc, List.append_assoc,
    nextFrame_header parse (dump_length_ne_zero message) hsize, List.take_left, List.drop_left,
    if_neg (by simp), hparse]
  rfl

theorem nextFrame_unfinished (hsize : message.dump.length ≤ bodyLimit) {n : ℕ}
    (hn : n < (frame message).length) : nextFrame parse ((frame message).take n) = .ok none := by
  have hlength := length_header hsize
  rcases Nat.lt_or_ge n ((header message.dump.length).length + 4) with hheader | hheader
  · have htake : (separator ++ message.dump).take (n - (header message.dump.length).length)
        = separator.take (n - (header message.dump.length).length) := by
      apply List.take_append_of_le_length
      change _ ≤ 4
      omega
    have hstop : findSeparator ((frame message).take n) = none := by
      have hreturn : byte '\r' ∉ (header message.dump.length).take n := fun hmem =>
        return_not_mem_header _ (List.mem_of_mem_take hmem)
      rw [frame, List.take_append, htake, findSeparator_append hreturn,
        findSeparator_take (by omega)]
      rfl
    have hshort : ¬ 128 < ((frame message).take n).length := by
      rw [List.length_take]
      omega
    simp only [nextFrame, hstop, if_neg hshort]
  · obtain ⟨k, rfl⟩ := Nat.exists_eq_add_of_le hheader
    have htake : (frame message).take ((header message.dump.length).length + 4 + k)
        = header message.dump.length ++ (separator ++ message.dump.take k) := by
      rw [frame, Nat.add_assoc, List.take_length_add_append]
      congr 1
      exact @List.take_length_add_append _ separator message.dump k
    have htext : (message.dump.take k).length < message.dump.length := by
      have hframe : (frame message).length
          = (header message.dump.length).length + 4 + message.dump.length := by
        rw [frame, List.length_append, List.length_append, Nat.add_assoc]
        rfl
      rw [List.length_take]
      omega
    rw [htake, nextFrame_header parse (dump_length_ne_zero message) hsize, if_pos htext]

/-! ## The stream -/

/-- The frame after the bytes in the buffer is not complete. -/
def Unfinished (messages : List Json) (buffer : List UInt8) : Prop :=
  ∀ message ∈ messages.head?, buffer.length < (frame message).length

/-- How many of the first bytes of a stream belong to a frame that they do not complete. -/
def pending : List Json → ℕ → ℕ
  | [], sent => sent
  | message :: messages, sent =>
    if sent < (frame message).length then sent
    else pending messages (sent - (frame message).length)

/-- Every piece of the stream fits in the budget beside the unfinished frame before it. -/
def Fits (messages : List Json) (sent : ℕ) : List (List UInt8) → Prop
  | [] => True
  | bytes :: chunks =>
    pending messages sent + bytes.length ≤ frameBudget
      ∧ Fits messages (sent + bytes.length) chunks

theorem pending_append (done messages : List Json) (sent : ℕ) :
    pending (done ++ messages) ((done.flatMap frame).length + sent) = pending messages sent := by
  induction done with
  | nil => simp
  | cons message done ih =>
    rw [List.cons_append, pending, List.flatMap_cons, List.length_append, Nat.add_assoc,
      if_neg (by omega), Nat.add_sub_cancel_left, ih]

theorem fits_append (done messages : List Json) (chunks : List (List UInt8)) (sent : ℕ) :
    Fits (done ++ messages) ((done.flatMap frame).length + sent) chunks
      ↔ Fits messages sent chunks := by
  induction chunks generalizing sent with
  | nil => exact Iff.rfl
  | cons bytes chunks ih => rw [Fits, Fits, pending_append, Nat.add_assoc, ih]

theorem pending_unfinished {messages : List Json} {buffer : List UInt8}
    (h : Unfinished messages buffer) : pending messages buffer.length = buffer.length := by
  cases messages with
  | nil => rfl
  | cons message messages => exact if_pos (h message rfl)

section Run

variable {parse} {messages : List Json} {buffer : List UInt8}

theorem drain_none (h : nextFrame parse buffer = .ok none) :
    drain parse buffer = .ok ([], buffer) := by
  rw [drain]
  split <;> simp_all

theorem drain_some {rest : List UInt8} (h : nextFrame parse buffer = .ok (some (message, rest))) :
    drain parse buffer = (drain parse rest).map fun r => (message :: r.1, r.2) := by
  rw [drain]
  split <;> simp_all

/-- A message the peer may send: the library reads back its text, which is within the limit. -/
def Sendable (parse : List UInt8 → Except String Json) (messages : List Json) : Prop :=
  ∀ message ∈ messages, parse message.dump = .ok message ∧ message.dump.length ≤ bodyLimit

/-- The loop takes the whole frames of the buffer and leaves the unfinished one. -/
theorem drain_stream (hsend : Sendable parse messages) {tail : List UInt8}
    (h : buffer ++ tail = messages.flatMap frame) :
    ∃ done left rest, messages = done ++ left ∧ buffer = done.flatMap frame ++ rest
      ∧ rest ++ tail = left.flatMap frame ∧ Unfinished left rest
      ∧ drain parse buffer = .ok (done, rest) := by
  induction messages generalizing buffer with
  | nil =>
    obtain ⟨rfl, rfl⟩ := List.append_eq_nil_iff.mp h
    exact ⟨[], [], [], rfl, rfl, rfl, nofun, drain_none rfl⟩
  | cons message messages ih =>
    obtain ⟨hparse, hsize⟩ := hsend message List.mem_cons_self
    rw [List.flatMap_cons] at h
    rcases Nat.lt_or_ge buffer.length (frame message).length with hshort | hwhole
    · have hbuffer : buffer = (frame message).take buffer.length := by
        have htake := congrArg (List.take buffer.length) h
        rwa [List.take_left, List.take_append_of_le_length hshort.le] at htake
      refine ⟨[], message :: messages, buffer, rfl, rfl, h, ?_, drain_none ?_⟩
      · intro other hother
        cases hother
        exact hshort
      · rw [hbuffer]
        exact nextFrame_unfinished parse hsize hshort
    · obtain ⟨more, rfl⟩ : frame message <+: buffer := by
        refine List.prefix_of_prefix_length_le ?_ (List.prefix_append buffer tail) hwhole
        rw [h]
        exact List.prefix_append (frame message) _
      rw [List.append_assoc, List.append_cancel_left_eq] at h
      obtain ⟨done, left, rest, rfl, rfl, hrest, hleft, hdrain⟩ :=
        ih (fun other hother => hsend other (List.mem_cons_of_mem message hother)) h
      refine ⟨message :: done, left, rest, rfl, ?_, hrest, hleft, ?_⟩
      · rw [List.flatMap_cons, List.append_assoc]
      · rw [drain_some (nextFrame_whole hparse hsize _), hdrain]
        rfl

theorem feedAll_iff {chunks : List (List UInt8)} (hsend : Sendable parse messages)
    (hbuffer : Unfinished messages buffer) (h : buffer ++ chunks.flatten = messages.flatMap frame) :
    feedAll parse buffer chunks = .ok (messages, []) ↔ Fits messages buffer.length chunks := by
  induction chunks generalizing messages buffer with
  | nil =>
    cases messages with
    | nil =>
      rw [List.flatten_nil, List.append_nil] at h
      rw [h]
      exact iff_of_true rfl trivial
    | cons message messages =>
      have hshort := hbuffer message rfl
      rw [List.flatten_nil, List.append_nil, List.flatMap_cons] at h
      rw [h, List.length_append] at hshort
      omega
  | cons bytes chunks ih =>
    rw [Fits, pending_unfinished hbuffer]
    rcases Nat.lt_or_ge frameBudget (buffer.length + bytes.length) with hover | hwithin
    · rw [feedAll, feed, if_pos hover]
      exact iff_of_false nofun fun hfits => by omega
    · rw [List.flatten_cons, ← List.append_assoc] at h
      obtain ⟨done, left, rest, rfl, hsplit, hrest, hleft, hdrain⟩ := drain_stream hsend h
      have hsends : Sendable parse left := fun other hother =>
        hsend other (List.mem_append_right done hother)
      have hlength : buffer.length + bytes.length = (done.flatMap frame).length + rest.length := by
        rw [← List.length_append, hsplit, List.length_append]
      have hfeed : feed parse buffer bytes = .ok (done, rest) := by
        rw [feed, if_neg (by omega), hdrain]
      rw [feedAll, hfeed, and_iff_right hwithin, hlength, fits_append, ← ih hsends hleft hrest]
      cases hrun : feedAll parse rest chunks with
      | error text =>
        simp only [bind, Except.bind, hrun]
        exact iff_of_false nofun nofun
      | ok r =>
        simp only [bind, Except.bind, hrun, Except.ok.injEq, Prod.ext_iff,
          List.append_cancel_left_eq]

end Run

/-- The calls return the messages of a stream in order and leave nothing in the buffer exactly
where no piece goes over the budget beside the unfinished frame before it. -/
theorem feedAll_frames {messages : List Json} {chunks : List (List UInt8)}
    (hsend : Sendable parse messages) (h : chunks.flatten = messages.flatMap frame) :
    feedAll parse [] chunks = .ok (messages, []) ↔ Fits messages 0 chunks := by
  refine feedAll_iff hsend ?_ h
  intro message _
  rw [frame, List.length_append, List.length_append]
  exact Nat.add_pos_right _ (Nat.add_pos_left (by decide) _)

def readNull (text : List UInt8) : Except String Json :=
  if text = Json.null.dump then .ok .null else .error "parse error"

theorem feedAll_frames_null :
    feedAll readNull [] [(frame .null).take 10, (frame .null).drop 10] = .ok ([.null], []) := by
  have hsend : Sendable readNull [.null] := by
    intro message hmessage
    obtain rfl := List.mem_singleton.mp hmessage
    exact ⟨rfl, by decide⟩
  have hcut : [(frame .null).take 10, (frame .null).drop 10].flatten = [Json.null].flatMap frame :=
    by decide
  exact (feedAll_frames readNull hsend hcut).mpr ⟨by decide, by decide, trivial⟩

theorem length_dump_nulls (n : ℕ) :
    (arr (List.replicate (n + 1) null)).dump.length = 5 * n + 6 := by
  have hmore : (dumpMoreItems (List.replicate n null)).length = 5 * n + 1 := by
    induction n with
    | zero => rfl
    | succ n ih =>
      rw [List.replicate_succ, dumpMoreItems, List.length_cons, List.length_append, ih]
      simp only [dump, List.length_cons, List.length_nil]
      omega
  rw [List.replicate_succ, dump, dumpItems, List.length_cons, List.length_append, hmore]
  simp only [dump, List.length_cons, List.length_nil]
  omega

/-- Two messages within the limit that come in one piece are refused. -/
theorem coalesced_frames_refused : ∃ (messages : List Json) (chunks : List (List UInt8)),
    (∀ message ∈ messages, message.dump.length ≤ bodyLimit) ∧
      chunks.flatten = messages.flatMap frame ∧
      ∀ parse, feedAll parse [] chunks = .error "DAP frame budget exceeded" := by
  have hlength := length_dump_nulls 199999
  generalize arr (List.replicate (199999 + 1) null) = message at hlength
  refine ⟨[message, message], [frame message ++ frame message], ?_, ?_, ?_⟩
  · intro other hother
    have heq : other = message := by simpa using hother
    rw [heq, hlength]
    decide
  · simp
  · intro parse
    have hover : frameBudget < ([] : List UInt8).length + (frame message ++ frame message).length := by
      simp only [frame, List.length_append, hlength, frameBudget]
      omega
    rw [feedAll, feed, if_pos hover]
    rfl

end ProtoTime.Debug.DapFramer

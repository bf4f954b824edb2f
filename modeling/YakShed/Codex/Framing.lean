/-
# Lines of a stream

What the child prints arrives in reads of any size; each line of it becomes one
message. The loop keeps the beginning of the line it is in, up to a limit, and a
flag for the rest of it.

The messages are a function of the bytes alone: they are those of the lines that the
newlines delimit, however the bytes were read.
-/

import YakShed.Codex.Actor

namespace YakShed.Codex.Framing

/-! ## Text -/

/-- The bytes that may come after the first byte of a character, each as a range;
`none` where no character starts with it. -/
def continuations (first : Nat) : Option (List (Nat × Nat)) :=
  if first < 0x80 then some []
  else if first < 0xC2 then none
  else if first < 0xE0 then some [(0x80, 0xBF)]
  else if first = 0xE0 then some [(0xA0, 0xBF), (0x80, 0xBF)]
  else if first = 0xED then some [(0x80, 0x9F), (0x80, 0xBF)]
  else if first < 0xF0 then some [(0x80, 0xBF), (0x80, 0xBF)]
  else if first = 0xF0 then some [(0x90, 0xBF), (0x80, 0xBF), (0x80, 0xBF)]
  else if first < 0xF4 then some [(0x80, 0xBF), (0x80, 0xBF), (0x80, 0xBF)]
  else if first = 0xF4 then some [(0x80, 0x8F), (0x80, 0xBF), (0x80, 0xBF)]
  else none

/-- The bytes that are where they may be, up to the first that is not. -/
def matching : List (Nat × Nat) → List UInt8 → List UInt8
  | (low, high) :: ranges, byte :: bytes =>
      if low ≤ byte.toNat ∧ byte.toNat ≤ high then byte :: matching ranges bytes else []
  | _, _ => []

/-- The first character and how many bytes after its first it takes. What is no
character is replaced, as far as it could have become one. -/
def decodeFirst (first : UInt8) (rest : List UInt8) : Char × Nat :=
  match continuations first.toNat with
  | none => ('\uFFFD', 0)
  | some ranges =>
      let found := matching ranges rest
      if found.length < ranges.length then ('\uFFFD', found.length)
      else
        let start := if ranges = [] then first.toNat else first.toNat % 2 ^ (6 - ranges.length)
        (Char.ofNat (found.foldl (fun value byte => value * 64 + byte.toNat % 64) start),
          found.length)

/-- Decodes what is left after some bytes that have been taken already. -/
def decodeLossy : Nat → List UInt8 → List Char
  | _, [] => []
  | taken + 1, _ :: rest => decodeLossy taken rest
  | 0, first :: rest =>
      let (c, taken) := decodeFirst first rest
      c :: decodeLossy taken rest

/-- `String::from_utf8_lossy`. -/
def fromUtf8Lossy (bytes : List UInt8) : String := String.ofList (decodeLossy 0 bytes)

example : fromUtf8Lossy [0x61, 0xC3, 0xA9, 0xE2, 0x82, 0xAC, 0xF0, 0x9F, 0x92, 0x96] = "aé€💖" := by
  decide +kernel

example : fromUtf8Lossy [0xE2, 0x82, 0x61, 0xED, 0xA0, 0xFF] = "\uFFFDa\uFFFD\uFFFD\uFFFD" := by
  decide +kernel

/-! ## The loop -/

def newline : UInt8 := 10

/-- `serde_json::from_slice`, the frame size, and how many messages are received
before the receiver is dropped, if it ever is. -/
structure Reader where
  fromSlice : List UInt8 → Option Json.Value
  maxFrameSize : Nat
  receives : Option Nat

structure Framer where
  frame : List UInt8 := []
  oversized : Bool := false
  /-- What has been sent. -/
  sent : List Inbound := []

namespace Reader

variable (reader : Reader)

/-- `send`; it fails once the receiver is dropped. -/
def send (sent : List Inbound) (message : Inbound) : Except (List Inbound) (List Inbound) :=
  if reader.receives.any fun count => count ≤ sent.length then .error sent
  else .ok (sent ++ [message])

/-- What a line becomes, of which `frame` has been kept. -/
def message (frame : List UInt8) (oversized : Bool) : Inbound :=
  let raw := fromUtf8Lossy frame
  if oversized then .oversized raw
  else
    match reader.fromSlice frame with
    | some value => .frame raw value
    | none => .malformed raw

/-- The body of the inner loop; it returns from the whole when nobody receives any more. -/
def takeByte (framer : Framer) (byte : UInt8) : Except (List Inbound) Framer :=
  if byte = newline then do
    let sent ← if !framer.frame.isEmpty || framer.oversized then
        reader.send framer.sent (reader.message framer.frame framer.oversized)
      else .ok framer.sent
    return { sent := sent }
  else if framer.frame.length < reader.maxFrameSize then
    .ok { framer with frame := framer.frame ++ [byte] }
  else .ok { framer with oversized := true }

/-- What a line becomes that no newline ends, of which `frame` has been kept. -/
def leftover (frame : List UInt8) (oversized : Bool) : Inbound :=
  let raw := fromUtf8Lossy frame
  if oversized then .oversized raw else .malformed raw

/-- A `send` whose failure is ignored. -/
def deliver (sent : List Inbound) (message : Inbound) : List Inbound :=
  match reader.send sent message with
  | .ok sent | .error sent => sent

/-- What comes after the loop: the unterminated line, and the end. -/
def finish (framer : Framer) : List Inbound :=
  let sent :=
    if framer.frame.isEmpty then framer.sent
    else reader.deliver framer.sent (leftover framer.frame framer.oversized)
  reader.deliver sent .eof

/-- The outer loop, over what the reads return; after the last the stream is at its end. -/
def loop (framer : Framer) : List (Except Unit (List UInt8)) → List Inbound
  | [] | .ok [] :: _ | .error () :: _ => reader.finish framer
  | .ok bytes :: rest =>
      match bytes.foldlM reader.takeByte framer with
      | .ok framer => loop framer rest
      | .error sent => sent

/-- `frame_stream`: what is sent. -/
def frameStream (reads : List (Except Unit (List UInt8))) : List Inbound := reader.loop {} reads

/-! ## Lines -/

/-- The message of a line. -/
def lineMessage (line : List UInt8) : Inbound :=
  if line.length ≤ reader.maxFrameSize then
    match reader.fromSlice line with
    | some value => .frame (fromUtf8Lossy line) value
    | none => .malformed (fromUtf8Lossy line)
  else .oversized (fromUtf8Lossy (line.take reader.maxFrameSize))

/-- The message of a line that no newline ends. -/
def tailMessage (tail : List UInt8) : Inbound :=
  if tail.length ≤ reader.maxFrameSize then .malformed (fromUtf8Lossy tail)
  else .oversized (fromUtf8Lossy (tail.take reader.maxFrameSize))

def written (line : List UInt8) : Bool := !line.isEmpty

/-- What a stream says: its lines, what comes after the last newline, and its end. -/
def messages (stream : List UInt8) : List Inbound :=
  let pieces := stream.splitOn newline
  (pieces.dropLast.filter written).map reader.lineMessage ++
    ((pieces.getLast?.toList.filter written).map reader.tailMessage ++ [.eof])

/-- As many of them as are received. -/
def received (sent : List Inbound) : List Inbound :=
  match reader.receives with
  | some count => sent.take count
  | none => sent

variable {reader} {line rest : List UInt8}

theorem messages_of_line (h : ∀ byte ∈ line, (byte == newline) = false) :
    reader.messages line = ([line].filter written).map reader.tailMessage ++ [.eof] := by
  unfold messages
  rw [List.splitOn_eq_splitOnP, List.splitOnP_eq_singleton h]
  rfl

theorem messages_line_cons (h : ∀ byte ∈ line, (byte == newline) = false) :
    reader.messages (line ++ newline :: rest) =
      ([line].filter written).map reader.lineMessage ++ reader.messages rest := by
  unfold messages
  rw [List.splitOn_eq_splitOnP, List.splitOn_eq_splitOnP,
    List.splitOnP_append_cons_of_forall_mem h newline rfl]
  have hpieces := List.splitOnP_ne_nil (· == newline) rest
  obtain ⟨first, others, hfirst⟩ := List.exists_cons_of_ne_nil hpieces
  rw [hfirst]
  dsimp only
  rw [List.dropLast_cons_of_ne_nil (List.cons_ne_nil _ _), List.getLast?_cons_cons,
    ← List.singleton_append, List.filter_append, List.map_append, List.append_assoc]

/-! ## What is still to be sent -/

variable (reader) in
/-- What is sent of a line kept so far and the bytes after it. -/
def ahead (frame : List UInt8) (oversized : Bool) : List UInt8 → List Inbound
  | [] => (if frame.isEmpty then [] else [leftover frame oversized]) ++ [.eof]
  | byte :: rest =>
      if byte = newline then
        (if !frame.isEmpty || oversized then [reader.message frame oversized] else []) ++
          ahead [] false rest
      else if frame.length < reader.maxFrameSize then ahead (frame ++ [byte]) oversized rest
      else ahead frame true rest

theorem ahead_cons (frame : List UInt8) (oversized : Bool) (byte : UInt8) (rest : List UInt8) :
    reader.ahead frame oversized (byte :: rest) =
      if byte = newline then
        (if !frame.isEmpty || oversized then [reader.message frame oversized] else []) ++
          reader.ahead [] false rest
      else if frame.length < reader.maxFrameSize then reader.ahead (frame ++ [byte]) oversized rest
      else reader.ahead frame true rest := rfl

theorem message_eq_lineMessage :
    reader.message (line.take reader.maxFrameSize) (decide (reader.maxFrameSize < line.length)) =
      reader.lineMessage line := by
  unfold message lineMessage
  by_cases hfits : line.length ≤ reader.maxFrameSize
  · rw [if_pos hfits, List.take_of_length_le hfits, decide_eq_false (Nat.not_lt.mpr hfits)]
    rfl
  · rw [if_neg hfits, decide_eq_true (Nat.lt_of_not_le hfits)]
    rfl

theorem leftover_eq_tailMessage :
    leftover (line.take reader.maxFrameSize) (decide (reader.maxFrameSize < line.length)) =
      reader.tailMessage line := by
  unfold leftover tailMessage
  by_cases hfits : line.length ≤ reader.maxFrameSize
  · rw [if_pos hfits, List.take_of_length_le hfits, decide_eq_false (Nat.not_lt.mpr hfits)]
    rfl
  · rw [if_neg hfits, decide_eq_true (Nat.lt_of_not_le hfits)]
    rfl

/-- The beginning of a line is empty only if the line is. -/
theorem isEmpty_take (hsize : 1 ≤ reader.maxFrameSize) (line : List UInt8) :
    (line.take reader.maxFrameSize).isEmpty = line.isEmpty := by
  cases line with
  | nil => rw [List.take_nil]
  | cons byte rest =>
      obtain ⟨size, hsize⟩ := Nat.exists_eq_succ_of_ne_zero (Nat.ne_of_gt hsize)
      rw [hsize]
      rfl

/-- A line is kept as its beginning and whether there was more of it. -/
theorem ahead_eq_messages (hsize : 1 ≤ reader.maxFrameSize) (line bytes : List UInt8)
    (h : ∀ byte ∈ line, (byte == newline) = false) :
    reader.ahead (line.take reader.maxFrameSize) (decide (reader.maxFrameSize < line.length))
      bytes = reader.messages (line ++ bytes) := by
  induction bytes generalizing line with
  | nil =>
      rw [List.append_nil, messages_of_line h]
      unfold ahead
      rw [isEmpty_take hsize, leftover_eq_tailMessage]
      cases line with
      | nil => rfl
      | cons byte rest => rfl
  | cons byte rest ih =>
      rw [ahead_cons]
      by_cases hnewline : byte = newline
      · subst hnewline
        have hnext := ih [] (fun byte hbyte => by cases hbyte)
        rw [if_pos rfl, messages_line_cons h, isEmpty_take hsize, message_eq_lineMessage]
        rw [List.take_nil, List.nil_append] at hnext
        change _ ++ reader.ahead [] (decide (reader.maxFrameSize < 0)) rest = _
        rw [show ([] : List UInt8).length = 0 from rfl] at hnext
        rw [hnext]
        congr 1
        cases line with
        | nil => simp [written]
        | cons first others => simp [written]
      · have hline : ∀ other ∈ line ++ [byte], (other == newline) = false := by
          intro other hother
          rcases List.mem_append.mp hother with hold | hnew
          · exact h other hold
          · rw [List.mem_singleton.mp hnew]
            exact beq_false_of_ne hnewline
        have hnext := ih (line ++ [byte]) hline
        rw [List.append_assoc, List.singleton_append, List.length_append] at hnext
        rw [if_neg hnewline, ← hnext, List.length_take]
        by_cases hroom : line.length < reader.maxFrameSize
        · rw [if_pos (by omega), decide_eq_false (by omega), decide_eq_false (by simp; omega),
            List.take_of_length_le (by omega), List.take_of_length_le (by simp; omega)]
        · rw [if_neg (by omega), decide_eq_true (by simp; omega),
            List.take_append_of_le_length (by omega)]

/-! ## The receiver -/

variable {framer framer' : Framer} {sent : List Inbound}

variable (reader) in
/-- No more has been sent than is received. -/
def Within (sent : List Inbound) : Prop :=
  ∀ count, reader.receives = some count → sent.length ≤ count

theorem received_of_within (h : reader.Within sent) : reader.received sent = sent := by
  unfold received
  split
  · next count hcount => exact List.take_of_length_le (h count hcount)
  · rfl

/-- A message is sent, or nothing is received after what has been sent. -/
theorem send_cases (h : reader.Within sent) (message : Inbound) :
    reader.send sent message = .ok (sent ++ [message]) ∧ reader.Within (sent ++ [message]) ∨
      reader.send sent message = .error sent ∧ ∀ later, reader.received (sent ++ later) = sent := by
  unfold send received
  cases hreceives : reader.receives with
  | none =>
      refine .inl ⟨rfl, ?_⟩
      intro count hcount
      rw [hreceives] at hcount
      cases hcount
  | some count =>
      have hsent := h count hreceives
      by_cases hfull : count ≤ sent.length
      · refine .inr ⟨if_pos (decide_eq_true hfull), ?_⟩
        intro later
        have hlength : sent.length = count := Nat.le_antisymm hsent hfull
        show (sent ++ later).take count = sent
        rw [← hlength, List.take_left]
      · refine .inl ⟨if_neg ?_, ?_⟩
        · simpa using hfull
        · intro other hother
          rw [hreceives] at hother
          cases hother
          rw [List.length_append, List.length_singleton]
          omega

variable (reader) in
/-- All that is sent if the receiver stays. -/
def total (framer : Framer) (bytes : List UInt8) : List Inbound :=
  framer.sent ++ reader.ahead framer.frame framer.oversized bytes

/-- One byte: the loop goes on, or nothing more is received. -/
theorem takeByte_cases (h : reader.Within framer.sent) (byte : UInt8) :
    (∃ framer', reader.takeByte framer byte = .ok framer' ∧ reader.Within framer'.sent ∧
      ∀ rest, reader.total framer (byte :: rest) = reader.total framer' rest) ∨
    ∃ sent, reader.takeByte framer byte = .error sent ∧
      ∀ rest, reader.received (reader.total framer (byte :: rest)) = sent := by
  unfold takeByte total
  simp only [ahead_cons]
  by_cases hnewline : byte = newline
  · rw [if_pos hnewline]
    cases hline : !framer.frame.isEmpty || framer.oversized with
    | false =>
        refine .inl ⟨_, rfl, h, ?_⟩
        intro rest
        rw [if_pos hnewline]
        rfl
    | true =>
        rcases send_cases h (reader.message framer.frame framer.oversized) with
          ⟨hsend, hwithin⟩ | ⟨hsend, hclosed⟩
        · rw [if_pos rfl, hsend]
          refine .inl ⟨_, rfl, hwithin, ?_⟩
          intro rest
          rw [if_pos hnewline, if_pos rfl, List.append_assoc]
        · rw [if_pos rfl, hsend]
          refine .inr ⟨_, rfl, ?_⟩
          intro rest
          exact hclosed _
  · rw [if_neg hnewline]
    by_cases hroom : framer.frame.length < reader.maxFrameSize
    · rw [if_pos hroom]
      refine .inl ⟨_, rfl, h, ?_⟩
      intro rest
      rw [if_neg hnewline, if_pos hroom]
    · rw [if_neg hroom]
      refine .inl ⟨_, rfl, h, ?_⟩
      intro rest
      rw [if_neg hnewline, if_neg hroom]

theorem takeBytes_cases (h : reader.Within framer.sent) (bytes : List UInt8) :
    (∃ framer', bytes.foldlM reader.takeByte framer = .ok framer' ∧ reader.Within framer'.sent ∧
      ∀ rest, reader.total framer (bytes ++ rest) = reader.total framer' rest) ∨
    ∃ sent, bytes.foldlM reader.takeByte framer = .error sent ∧
      ∀ rest, reader.received (reader.total framer (bytes ++ rest)) = sent := by
  induction bytes generalizing framer with
  | nil => exact .inl ⟨framer, rfl, h, fun rest => rfl⟩
  | cons byte tail ih =>
      rw [List.foldlM_cons]
      rcases takeByte_cases h byte with ⟨middle, htake, hmiddle, htotal⟩ | ⟨sent, htake, hclosed⟩
      · rw [htake]
        rcases ih hmiddle with ⟨framer', hrest, hwithin, hsame⟩ | ⟨sent, hrest, hclosed⟩
        · refine .inl ⟨framer', hrest, hwithin, ?_⟩
          intro rest
          rw [List.cons_append, htotal, hsame]
        · refine .inr ⟨sent, hrest, ?_⟩
          intro rest
          rw [List.cons_append, htotal, hclosed]
      · rw [htake]
        exact .inr ⟨sent, rfl, fun rest => hclosed _⟩

theorem deliver_spec (h : reader.Within sent) (message : Inbound) :
    reader.Within (reader.deliver sent message) ∧ ∀ later,
      reader.received (reader.deliver sent message ++ later) =
        reader.received (sent ++ message :: later) := by
  unfold deliver
  rcases send_cases h message with ⟨hsend, hwithin⟩ | ⟨hsend, hclosed⟩
  · rw [hsend]
    refine ⟨hwithin, ?_⟩
    intro later
    rw [List.append_assoc, List.singleton_append]
  · rw [hsend]
    refine ⟨h, ?_⟩
    intro later
    rw [hclosed, hclosed]

theorem finish_eq (h : reader.Within framer.sent) :
    reader.finish framer = reader.received (reader.total framer []) := by
  have hend : ∀ {sent}, reader.Within sent →
      reader.deliver sent .eof = reader.received (sent ++ [.eof]) := by
    intro sent hsent
    obtain ⟨hwithin, hsame⟩ := deliver_spec hsent .eof
    rw [← hsame [], List.append_nil, received_of_within hwithin]
  unfold finish total ahead
  cases framer.frame.isEmpty with
  | true => exact hend h
  | false =>
      obtain ⟨hwithin, hsame⟩ := deliver_spec h (leftover framer.frame framer.oversized)
      exact (hend hwithin).trans (hsame _)

/-! ## The stream -/

/-- The bytes that are read before the end. -/
def stream : List (Except Unit (List UInt8)) → List UInt8
  | [] | .ok [] :: _ | .error () :: _ => []
  | .ok bytes :: rest => bytes ++ stream rest

theorem loop_eq (h : reader.Within framer.sent) (reads : List (Except Unit (List UInt8))) :
    reader.loop framer reads = reader.received (reader.total framer (stream reads)) := by
  induction reads generalizing framer with
  | nil => exact finish_eq h
  | cons read rest ih =>
      match read with
      | .error () => exact finish_eq h
      | .ok [] => exact finish_eq h
      | .ok (byte :: bytes) =>
          unfold loop stream
          rcases takeBytes_cases h (byte :: bytes) with
            ⟨framer', htake, hwithin, htotal⟩ | ⟨sent, htake, hclosed⟩
          · rw [htake, htotal]
            exact ih hwithin
          · rw [htake, hclosed]

/-- The messages are those of the lines, whatever the reads were. -/
theorem frameStream_exact (reader : Reader) (hsize : 1 ≤ reader.maxFrameSize)
    (reads : List (Except Unit (List UInt8))) :
    reader.frameStream reads = reader.received (reader.messages (stream reads)) ∧
      ∀ reads', stream reads' = stream reads →
        reader.frameStream reads' = reader.frameStream reads := by
  have hexact : ∀ reads, reader.frameStream reads =
      reader.received (reader.messages (stream reads)) := by
    intro reads
    have hstart : reader.Within ({} : Framer).sent := fun count _ => Nat.zero_le count
    have hahead := ahead_eq_messages hsize [] (stream reads)
      (fun byte hbyte => by cases hbyte)
    have hloop := loop_eq hstart reads
    rw [List.take_nil, List.nil_append] at hahead
    unfold frameStream
    rw [hloop, ← hahead]
    rfl
  refine ⟨hexact reads, ?_⟩
  intro reads' hsame
  rw [hexact reads', hexact reads, hsame]

/-- A reader of frames of one byte, one of which is a number. -/
def sampleReader : Reader where
  fromSlice := fun bytes => if bytes = [49] then some (.number (.integer 1)) else none
  maxFrameSize := 1
  receives := none

theorem frameStream_exact_sample :
    sampleReader.frameStream [.ok [49], .ok [10, 10, 49, 50]] =
      [.frame "1" (.number (.integer 1)), .oversized "1", .eof] :=
  (frameStream_exact sampleReader (Nat.le_refl 1) [.ok [49], .ok [10, 10, 49, 50]]).1.trans rfl

end Reader

end YakShed.Codex.Framing

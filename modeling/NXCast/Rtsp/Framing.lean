import NXCast.Framework.Framing
import NXCast.Rtsp.Request

/-!
# Framing of the RTSP stream

The verdict of `airplayRtspParseRequest` is that of the first message in the buffer, whatever
stands behind it (`rtspStable`), so the parser is a stable framer in the sense of `Framing`.

`AirPlayServerConnection` is the read loop of a client thread in `server.c`: it parses as
long as whole requests are buffered, and otherwise makes room and receives.  The buffer grows
by doubling up to the message limit, and a chunk is anything `recv` can put into the room
that is left.  Routing, answering and the reverse connection are left out; they neither read
nor move the buffered bytes.
-/

namespace NXCast

open Framing List Option

/-! ## The header end -/

variable {bytes : List UInt8} {headerEnd : ℕ}

/-- The header section is at least the empty line, and lies inside the buffer. -/
lemma rtspFindHeaderEnd_bounds (h : rtspFindHeaderEnd bytes = some headerEnd) :
    4 ≤ headerEnd ∧ headerEnd ≤ bytes.length := by
  induction bytes generalizing headerEnd with
  | nil => simp [rtspFindHeaderEnd] at h
  | cons first rest ih =>
    rw [rtspFindHeaderEnd] at h
    split_ifs at h with hpfx
    · simp only [some.injEq] at h
      exact ⟨by omega, h ▸ hpfx.length_le⟩
    obtain ⟨position, hpos, rfl⟩ := map_eq_some_iff.mp h
    have := ih hpos
    rw [length_cons]
    omega

variable {p : List UInt8}

lemma rtspFindHeaderEnd_append (h : rtspFindHeaderEnd p = some headerEnd)
    (q : List UInt8) : rtspFindHeaderEnd (p ++ q) = some headerEnd := by
  induction p generalizing headerEnd with
  | nil => simp [rtspFindHeaderEnd] at h
  | cons first rest ih =>
    rw [rtspFindHeaderEnd] at h
    rw [cons_append, rtspFindHeaderEnd]
    split_ifs at h with hpfx
    · have hlong : [0x0d, 0x0a, 0x0d, 0x0a] <+: first :: (rest ++ q) :=
        hpfx.trans (prefix_append (first :: rest) q)
      rw [if_pos hlong, h]
    obtain ⟨position, hpos, rfl⟩ := map_eq_some_iff.mp h
    have hlen := (rtspFindHeaderEnd_bounds hpos).1
    have hinside := (rtspFindHeaderEnd_bounds hpos).2
    rw [if_neg, ih hpos, map_some]
    -- four bytes of the longer buffer are four bytes of the shorter one
    intro hlong
    refine hpfx (prefix_of_prefix_length_le hlong (prefix_append (first :: rest) q) ?_)
    simp only [length_cons, length_nil]
    omega

/-- A header end that is found only in the longer buffer lies behind the shorter one. -/
lemma rtspFindHeaderEnd_of_append {q : List UInt8} (hnone : rtspFindHeaderEnd p = none)
    (h : rtspFindHeaderEnd (p ++ q) = some headerEnd) : p.length < headerEnd := by
  induction p generalizing headerEnd with
  | nil =>
    have := (rtspFindHeaderEnd_bounds h).1
    exact Nat.lt_of_lt_of_le (by simp) this
  | cons first rest ih =>
    rw [rtspFindHeaderEnd] at hnone
    rw [cons_append, rtspFindHeaderEnd] at h
    split at hnone
    · cases hnone
    rename_i hpfx
    rw [map_eq_none_iff] at hnone
    split_ifs at h with hlong
    · simp only [some.injEq] at h
      by_contra hshort
      refine hpfx (prefix_of_prefix_length_le hlong
        (prefix_append (first :: rest) q) ?_)
      simp only [length_cons, length_nil] at hshort ⊢
      omega
    · obtain ⟨position, hpos, rfl⟩ := map_eq_some_iff.mp h
      have := ih hnone hpos
      rw [length_cons]
      omega

/-! ## The parser, after its header end -/

/-- What the parser concludes from the header section alone: a refusal, or the request line,
the headers and the length of the body. -/
def rtspHead (text : List UInt8) :
    Except AirPlayRtspError ((CString × CString × CString × List AirPlayRtspHeader) × ℕ) :=
  match rtspParseHeaderSection text with
  | none => .error .invalidFormat
  | some (method, uri, protocol, headers) =>
    if rtspHeadersUnambiguous headers = false then .error .invalidFormat
    else
      match rtspBodyLength headers with
      | .error error => .error error
      | .ok bodyLength =>
        if text.length + bodyLength > 2 ^ 64 - 1 ∨
            text.length + bodyLength > airplayRtspMaxMessageBytes then .error .limitExceeded
        else .ok ((method, uri, protocol, headers), bodyLength)

/-- What the parser concludes from a whole message. -/
def rtspMessage (head : CString × CString × CString × List AirPlayRtspHeader)
    (headerEnd bodyLength : ℕ) (body : List UInt8) : AirPlayRtspParseResult :=
  match rtspCseq head.2.2.2 with
  | none => .error .invalidFormat
  | some (hasCseq, cseq) =>
    .ok ⟨head.1, head.2.1, head.2.2.1, head.2.2.2, body, bodyLength, hasCseq, cseq⟩
      (headerEnd + bodyLength)

/-- Once the header end is known, the parser reads the header section and the body, nothing
else. -/
lemma airplayRtspParseRequest_of_headerEnd (hlen : bytes.length ≤ airplayRtspMaxMessageBytes)
    (h : rtspFindHeaderEnd bytes = some headerEnd) :
    airplayRtspParseRequest bytes =
      if headerEnd > airplayRtspMaxHeaderBytes then .error .limitExceeded
      else
        match rtspHead (bytes.take headerEnd) with
        | .error error => .error error
        | .ok (head, bodyLength) =>
          if bytes.length < headerEnd + bodyLength then .needMore
          else rtspMessage head headerEnd bodyLength ((bytes.drop headerEnd).take bodyLength) := by
  have htake : (bytes.take headerEnd).length = headerEnd := by
    rw [length_take]
    exact Nat.min_eq_left (rtspFindHeaderEnd_bounds h).2
  rw [airplayRtspParseRequest, if_neg (Nat.not_lt.mpr hlen), h]
  simp only [rtspHead, htake]
  by_cases hhead : headerEnd > airplayRtspMaxHeaderBytes
  · rw [if_pos hhead, if_pos hhead]
  rw [if_neg hhead, if_neg hhead]
  cases rtspParseHeaderSection (bytes.take headerEnd) with
  | none => rfl
  | some head =>
    obtain ⟨method, uri, protocol, headers⟩ := head
    dsimp only
    by_cases hambiguous : rtspHeadersUnambiguous headers = false
    · rw [if_pos hambiguous, if_pos hambiguous]
    rw [if_neg hambiguous, if_neg hambiguous]
    cases rtspBodyLength headers with
    | error error => rfl
    | ok bodyLength =>
      dsimp only
      by_cases htotal : headerEnd + bodyLength > 2 ^ 64 - 1 ∨
          headerEnd + bodyLength > airplayRtspMaxMessageBytes
      · rw [if_pos htotal, if_pos htotal]
      rw [if_neg htotal, if_neg htotal]
      dsimp only
      by_cases hmore : bytes.length < headerEnd + bodyLength
      · rw [if_pos hmore, if_pos hmore]
      · rw [if_neg hmore, if_neg hmore]
        unfold rtspMessage
        cases rtspCseq headers <;> rfl

lemma airplayRtspParseRequest_of_none (hlen : bytes.length ≤ airplayRtspMaxMessageBytes)
    (h : rtspFindHeaderEnd bytes = none) :
    airplayRtspParseRequest bytes =
      if bytes.length ≥ airplayRtspMaxHeaderBytes then .error .limitExceeded else .needMore := by
  rw [airplayRtspParseRequest, if_neg (Nat.not_lt.mpr hlen), h]

/-- **A decided verdict stays.**  Bytes behind the buffer change nothing but "need more". -/
theorem airplayRtspParseRequest_append {q : List UInt8}
    (hlen : (p ++ q).length ≤ airplayRtspMaxMessageBytes)
    (hdecided : airplayRtspParseRequest p ≠ .needMore) :
    airplayRtspParseRequest (p ++ q) = airplayRtspParseRequest p := by
  have hshort : p.length ≤ airplayRtspMaxMessageBytes := by
    rw [length_append] at hlen
    omega
  cases hend : rtspFindHeaderEnd p with
  | none =>
    rw [airplayRtspParseRequest_of_none hshort hend] at hdecided ⊢
    split_ifs at hdecided with hfull
    · rw [if_pos hfull]
      cases hlong : rtspFindHeaderEnd (p ++ q) with
      | none =>
        rw [airplayRtspParseRequest_of_none hlen hlong, if_pos]
        rw [length_append]
        omega
      | some headerEnd =>
        have hbehind := rtspFindHeaderEnd_of_append hend hlong
        rw [airplayRtspParseRequest_of_headerEnd hlen hlong, if_pos (by omega)]
    · exact absurd rfl hdecided
  | some headerEnd =>
    obtain ⟨-, hinside⟩ := rtspFindHeaderEnd_bounds hend
    rw [airplayRtspParseRequest_of_headerEnd hshort hend] at hdecided ⊢
    rw [airplayRtspParseRequest_of_headerEnd hlen (rtspFindHeaderEnd_append hend q),
      take_append_of_le_length hinside]
    by_cases hheader : headerEnd > airplayRtspMaxHeaderBytes
    · rw [if_pos hheader, if_pos hheader]
    rw [if_neg hheader] at hdecided ⊢
    rw [if_neg hheader]
    cases hhead : rtspHead (p.take headerEnd) with
    | error error => rfl
    | ok result =>
      obtain ⟨head, bodyLength⟩ := result
      simp only [hhead] at hdecided ⊢
      by_cases hmore : p.length < headerEnd + bodyLength
      · rw [if_pos hmore] at hdecided
        exact absurd rfl hdecided
      rw [if_neg hmore, if_neg (by rw [length_append]; omega),
        drop_append_of_le_length hinside, take_append_of_le_length]
      rw [length_drop]
      omega

/-- A parser's result as a framer's verdict. -/
def AirPlayRtspParseResult.verdict :
    AirPlayRtspParseResult → Verdict AirPlayRtspRequest AirPlayRtspError
  | .ok request consumed => .frame request consumed
  | .needMore => .more
  | .error code => .bad code

/-- The parser as a framer. -/
def rtspFramer (bytes : List UInt8) : Verdict AirPlayRtspRequest AirPlayRtspError :=
  (airplayRtspParseRequest bytes).verdict

variable {request : AirPlayRtspRequest}

lemma rtspFramer_eq_frame {consumed : ℕ} :
    rtspFramer bytes = .frame request consumed ↔
      airplayRtspParseRequest bytes = .ok request consumed := by
  rw [rtspFramer]
  cases airplayRtspParseRequest bytes <;> simp [AirPlayRtspParseResult.verdict]

lemma rtspFramer_eq_bad {error : AirPlayRtspError} :
    rtspFramer bytes = .bad error ↔ airplayRtspParseRequest bytes = .error error := by
  rw [rtspFramer]
  cases airplayRtspParseRequest bytes <;> simp [AirPlayRtspParseResult.verdict]

lemma rtspFramer_eq_more :
    rtspFramer bytes = .more ↔ airplayRtspParseRequest bytes = .needMore := by
  rw [rtspFramer]
  cases airplayRtspParseRequest bytes <;> simp [AirPlayRtspParseResult.verdict]

/-! ## What an accepted request is -/

/-- How often a header name occurs. -/
def rtspHeaderCount (headers : List AirPlayRtspHeader) (name : CString) : ℕ :=
  headers.countP fun header => rtspHeaderNameEqual header.name name

/-- The number that the `Content-Length` header spells, zero without one. -/
def rtspContentLength (headers : List AirPlayRtspHeader) : ℕ :=
  match airplayRtspRequestHeader headers (cstring "Content-Length") with
  | none => 0
  | some text => Decimal.value text.bytes

/-- The message a request was read from: the header section, then the body that
`Content-Length` announces, and no ambiguity about either. -/
structure RtspMessage (bytes : List UInt8) (request : AirPlayRtspRequest) (consumed : ℕ) :
    Prop where
  headerEnd : ∃ headerEnd, rtspFindHeaderEnd bytes = some headerEnd ∧
    consumed = headerEnd + request.bodyLength ∧
    request.body = (bytes.drop headerEnd).take request.bodyLength
  bodyLength_eq : request.bodyLength = rtspContentLength request.headers
  consumed_le : consumed ≤ bytes.length
  body_length : request.body.length = request.bodyLength
  contentLength_le : rtspHeaderCount request.headers (cstring "Content-Length") ≤ 1
  cseq_le : rtspHeaderCount request.headers (cstring "CSeq") ≤ 1
  no_transferEncoding : rtspHeaderCount request.headers (cstring "Transfer-Encoding") = 0

variable {headers : List AirPlayRtspHeader}

lemma transferEncoding_of_unambiguous (h : rtspHeadersUnambiguous headers) :
    rtspHeaderCount headers (cstring "Transfer-Encoding") = 0 := by
  induction headers with
  | nil => rfl
  | cons header later ih =>
    rw [rtspHeadersUnambiguous] at h
    rw [rtspHeaderCount, countP_cons, ← rtspHeaderCount]
    split at h
    · cases h
    rename_i hname
    rw [if_neg hname, Nat.add_zero]
    split at h
    · exact ih h
    · split at h
      · cases h
      · exact ih h

lemma count_le_one_of_unambiguous {name : CString}
    (hname : name = cstring "Content-Length" ∨ name = cstring "CSeq")
    (h : rtspHeadersUnambiguous headers) : rtspHeaderCount headers name ≤ 1 := by
  induction headers with
  | nil => exact Nat.zero_le _
  | cons header later ih =>
    rw [rtspHeadersUnambiguous] at h
    rw [rtspHeaderCount, countP_cons, ← rtspHeaderCount]
    split at h
    · cases h
    split at h
    · rename_i hother
      simp only [Bool.and_eq_true, Bool.not_eq_true'] at hother
      have hdifferent : rtspHeaderNameEqual header.name name = false := by
        rcases hname with rfl | rfl
        · exact hother.1
        · exact hother.2
      rw [hdifferent]
      exact ih h
    split at h
    · cases h
    rename_i hlater
    by_cases hsame : rtspHeaderNameEqual header.name name = true
    · -- no later header may carry the name again
      have hzero : rtspHeaderCount later name = 0 := by
        rw [rtspHeaderCount, countP_eq_zero]
        intro other hother hequal
        refine hlater (any_eq_true.mpr ⟨other, hother, ?_⟩)
        exact rtspHeaderNameEqual_of_common hsame hequal
      rw [hzero, if_pos hsame]
    · rw [if_neg hsame]
      exact ih h

lemma rtspBodyLength_eq_ok {bodyLength : ℕ} (h : rtspBodyLength headers = .ok bodyLength) :
    bodyLength = rtspContentLength headers := by
  unfold rtspBodyLength at h
  unfold rtspContentLength
  cases hhead : airplayRtspRequestHeader headers (cstring "Content-Length") with
  | none =>
    rw [hhead] at h
    simpa using h.symm
  | some text =>
    simp only [hhead] at h
    split at h
    · cases h
    rename_i hdigs
    rw [Bool.not_eq_false] at hdigs
    rw [rtspParseDecimal_eq hdigs (by decide)] at h
    split at h
    · cases h
    rename_i hvalue
    simp only [Except.ok.injEq] at h
    split at hvalue
    · simp only [some.injEq] at hvalue
      rw [← h, ← hvalue]
    · cases hvalue

lemma rtspMessage_of_ok {consumed : ℕ}
    (h : airplayRtspParseRequest bytes = .ok request consumed) :
    RtspMessage bytes request consumed := by
  have hlen : bytes.length ≤ airplayRtspMaxMessageBytes := by
    by_contra hlong
    rw [airplayRtspParseRequest, if_pos (by omega)] at h
    cases h
  cases hend : rtspFindHeaderEnd bytes with
  | none =>
    rw [airplayRtspParseRequest_of_none hlen hend] at h
    split at h <;> cases h
  | some headerEnd =>
    obtain ⟨-, hinside⟩ := rtspFindHeaderEnd_bounds hend
    rw [airplayRtspParseRequest_of_headerEnd hlen hend] at h
    split at h
    · cases h
    cases hhead : rtspHead (bytes.take headerEnd) with
    | error error =>
      rw [hhead] at h
      cases h
    | ok result =>
      obtain ⟨⟨method, uri, protocol, headers⟩, bodyLength⟩ := result
      simp only [hhead] at h
      split at h
      · cases h
      rename_i hwhole
      simp only [rtspMessage] at h
      split at h
      · cases h
      simp only [AirPlayRtspParseResult.ok.injEq] at h
      obtain ⟨rfl, rfl⟩ := h
      unfold rtspHead at hhead
      split at hhead
      · cases hhead
      split at hhead
      · cases hhead
      rename_i hunambiguous
      rw [Bool.not_eq_false] at hunambiguous
      split at hhead
      · cases hhead
      rename_i hbody
      split at hhead
      · cases hhead
      simp only [Except.ok.injEq, Prod.mk.injEq] at hhead
      obtain ⟨⟨rfl, rfl, rfl, rfl⟩, rfl⟩ := hhead
      exact {
        headerEnd := ⟨headerEnd, hend, rfl, rfl⟩
        bodyLength_eq := rtspBodyLength_eq_ok hbody
        consumed_le := Nat.le_of_not_lt hwhole
        body_length := by
          rw [length_take, length_drop]
          exact Nat.min_eq_left (by omega)
        contentLength_le := count_le_one_of_unambiguous (.inl rfl) hunambiguous
        cseq_le := count_le_one_of_unambiguous (.inr rfl) hunambiguous
        no_transferEncoding := transferEncoding_of_unambiguous hunambiguous }

/-- **The parser is a stable framer.** -/
theorem rtspStable : Stable rtspFramer airplayRtspMaxMessageBytes where
  frame_append := by
    intro p q request consumed hlen h
    rw [rtspFramer_eq_frame] at h ⊢
    rw [airplayRtspParseRequest_append hlen (by rw [h]; simp), h]
  bad_append := by
    intro p q error hlen h
    rw [rtspFramer_eq_bad] at h ⊢
    rw [airplayRtspParseRequest_append hlen (by rw [h]; simp), h]
  consumed := by
    intro p request consumed h
    have hmessage := rtspMessage_of_ok (rtspFramer_eq_frame.mp h)
    obtain ⟨headerEnd, hend, hused, -⟩ := hmessage.headerEnd
    have := (rtspFindHeaderEnd_bounds hend).1
    exact ⟨by omega, hmessage.consumed_le⟩

/-- A buffer at the message limit always holds a whole message or a refusal. -/
lemma airplayRtspParseRequest_of_full (h : bytes.length = airplayRtspMaxMessageBytes) :
    airplayRtspParseRequest bytes ≠ .needMore := by
  have hlen : bytes.length ≤ airplayRtspMaxMessageBytes := h.le
  cases hend : rtspFindHeaderEnd bytes with
  | none =>
    rw [airplayRtspParseRequest_of_none hlen hend, if_pos]
    · simp
    · rw [h, airplayRtspMaxMessageBytes]
      exact Nat.le_add_right _ _
  | some headerEnd =>
    obtain ⟨-, hinside⟩ := rtspFindHeaderEnd_bounds hend
    have htake : (bytes.take headerEnd).length = headerEnd := by
      rw [length_take]
      exact Nat.min_eq_left hinside
    rw [airplayRtspParseRequest_of_headerEnd hlen hend]
    split
    · simp
    cases hhead : rtspHead (bytes.take headerEnd) with
    | error error => simp
    | ok result =>
      obtain ⟨head, bodyLength⟩ := result
      have hfits : headerEnd + bodyLength ≤ airplayRtspMaxMessageBytes := by
        unfold rtspHead at hhead
        split at hhead
        · cases hhead
        split at hhead
        · cases hhead
        split at hhead
        · cases hhead
        split at hhead
        · cases hhead
        · simp only [Except.ok.injEq, Prod.mk.injEq] at hhead
          omega
      simp only
      rw [if_neg (by omega), rtspMessage]
      split <;> simp

/-! ## The read loop of a connection -/

/-- What a client thread keeps between two calls of `recv`. -/
structure AirPlayServerConnection where
  session : Session UInt8 AirPlayRtspRequest AirPlayRtspError
  capacity : ℕ

/-- The connection before the first `recv`, with `AIRPLAY_SERVER_INITIAL_BUFFER_BYTES`. -/
def AirPlayServerConnection.initial : AirPlayServerConnection := ⟨⟨[], [], none⟩, 8192⟩

/-- `airplay_server_grow_buffer` -/
def airplayServerGrowBuffer (capacity used : ℕ) : Option ℕ :=
  if used > capacity ∨ capacity ≥ airplayRtspMaxMessageBytes then none
  else
    let nextCapacity :=
      if capacity > airplayRtspMaxMessageBytes / 2 then airplayRtspMaxMessageBytes
      else capacity * 2
    some (if nextCapacity < used ∨ nextCapacity > airplayRtspMaxMessageBytes then
      airplayRtspMaxMessageBytes else nextCapacity)

/-- The capacity `recv` is called with. -/
def AirPlayServerConnection.receiveCapacity (connection : AirPlayServerConnection) : Option ℕ :=
  if connection.session.pending.length = connection.capacity then
    airplayServerGrowBuffer connection.capacity connection.session.pending.length
  else some connection.capacity

/-- One round of the read loop: receive a chunk and handle every request that is now whole.
`none` stands for a chunk that `recv` cannot return, because it does not fit the room given to
it.  After an error the loop has ended and nothing is received any more. -/
def airplayServerReceive (connection : AirPlayServerConnection) (chunk : List UInt8) :
    Option AirPlayServerConnection :=
  match connection.session.failure with
  | some _ => some connection
  | none =>
    match connection.receiveCapacity with
    | none =>
      some { connection with
        session := { connection.session with pending := [], failure := some .limitExceeded } }
    | some capacity =>
      if chunk = [] ∨ chunk.length > capacity - connection.session.pending.length then none
      else some ⟨feed rtspFramer connection.session chunk, capacity⟩

/-- A connection that receives its stream in the given chunks. -/
def airplayServerRun (connection : AirPlayServerConnection) :
    List (List UInt8) → Option AirPlayServerConnection
  | [] => some connection
  | chunk :: chunks => (airplayServerReceive connection chunk).bind (airplayServerRun · chunks)

/-- What holds between two rounds: the buffer fits its capacity, the capacity the message
limit, and every whole request has been handled. -/
structure AirPlayServerConnection.Sound (connection : AirPlayServerConnection) : Prop where
  pending_le : connection.session.pending.length ≤ connection.capacity
  capacity_pos : 0 < connection.capacity
  capacity_le : connection.capacity ≤ airplayRtspMaxMessageBytes
  drained : drain rtspFramer connection.session = connection.session

lemma airplayServerGrowBuffer_bounds {capacity used next : ℕ} (hpos : 0 < capacity)
    (h : airplayServerGrowBuffer capacity used = some next) :
    used < next ∧ next ≤ airplayRtspMaxMessageBytes := by
  unfold airplayServerGrowBuffer at h
  split at h
  · cases h
  simp only [some.injEq] at h
  subst h
  have hdoubled : used < (if capacity > airplayRtspMaxMessageBytes / 2 then
      airplayRtspMaxMessageBytes else capacity * 2) := by
    split <;> omega
  generalize (if capacity > airplayRtspMaxMessageBytes / 2 then airplayRtspMaxMessageBytes
    else capacity * 2) = nextCapacity at hdoubled ⊢
  split <;> omega

namespace AirPlayServerConnection.Sound

variable {connection : AirPlayServerConnection}

lemma initial : AirPlayServerConnection.initial.Sound where
  pending_le := Nat.zero_le _
  capacity_pos := by decide
  capacity_le := by decide
  drained := drain_more (rtspFramer_eq_more.mpr rfl)

variable (h : connection.Sound)

include h

/-- There is always room to receive into, because a full buffer never asks for more. -/
lemma receiveCapacity_eq_some (hopen : connection.session.failure = none) :
    ∃ capacity, connection.receiveCapacity = some capacity ∧
      connection.session.pending.length < capacity ∧ capacity ≤ airplayRtspMaxMessageBytes := by
  obtain ⟨⟨frames, pending, failure⟩, capacity⟩ := connection
  obtain ⟨hpend, hpos, hcapacity, hdrain⟩ := h
  simp only at hopen hpend hpos hcapacity
  subst hopen
  unfold receiveCapacity
  simp only
  by_cases hfull : pending.length = capacity
  · rw [if_pos hfull]
    by_cases hmax : capacity ≥ airplayRtspMaxMessageBytes
    · -- the buffer is at the message limit, so it was not drained
      exfalso
      have hneed := airplayRtspParseRequest_of_full (hfull.trans (le_antisymm hcapacity hmax))
      cases hparse : rtspFramer pending with
      | more => exact hneed (rtspFramer_eq_more.mp hparse)
      | bad error =>
        simp only [drain_bad hparse, Session.mk.injEq] at hdrain
        simp at hdrain
      | frame request consumed =>
        have hshorter := length_pending_drain_le rtspStable
          ⟨frames ++ [request], pending.drop consumed, none⟩
        obtain ⟨hpos, hle⟩ := rtspStable.consumed hparse
        rw [← drain_frame rtspStable hparse, hdrain, length_drop] at hshorter
        simp only at hshorter
        omega
    · have hgrow : ∃ next, airplayServerGrowBuffer capacity pending.length = some next := by
        unfold airplayServerGrowBuffer
        rw [if_neg (by omega)]
        exact ⟨_, rfl⟩
      obtain ⟨next, hnext⟩ := hgrow
      exact ⟨next, hnext, airplayServerGrowBuffer_bounds hpos hnext⟩
  · rw [if_neg hfull]
    exact ⟨capacity, rfl, by omega, hcapacity⟩

/-- One round feeds the chunk to the framer, and the connection stays sound. -/
lemma receive {chunk : List UInt8} {next : AirPlayServerConnection}
    (hreceive : airplayServerReceive connection chunk = some next) :
    next.Sound ∧ next.session =
      chunk.foldl (fun session byte => feed rtspFramer session [byte]) connection.session := by
  unfold airplayServerReceive at hreceive
  cases hfail : connection.session.failure with
  | some error =>
    simp only [hfail, some.injEq] at hreceive
    subst hreceive
    refine ⟨h, ?_⟩
    induction chunk with
    | nil => rfl
    | cons byte chunk ih =>
      obtain ⟨⟨frames, pending, failure⟩, capacity⟩ := connection
      subst hfail
      exact ih
  | none =>
    obtain ⟨capacity, hcapacity, hpend, hmax⟩ := h.receiveCapacity_eq_some hfail
    simp only [hfail, hcapacity] at hreceive
    split at hreceive
    · cases hreceive
    rename_i hroom
    simp only [some.injEq] at hreceive
    subst hreceive
    have hlen := length_pending_feed_le rtspStable connection.session chunk
    refine ⟨⟨by simp only; omega, by simp only; omega, hmax, drain_feed rtspStable h.drained chunk⟩, ?_⟩
    exact feed_eq_bytes rtspStable h.drained (by omega)

lemma run {chunks : List (List UInt8)} {final : AirPlayServerConnection}
    (hrun : airplayServerRun connection chunks = some final) :
    final.Sound ∧ final.session =
      chunks.flatten.foldl (fun session byte => feed rtspFramer session [byte])
        connection.session := by
  induction chunks generalizing connection with
  | nil =>
    simp only [airplayServerRun, some.injEq] at hrun
    subst hrun
    exact ⟨h, rfl⟩
  | cons chunk chunks ih =>
    rw [airplayServerRun, bind_eq_some_iff] at hrun
    obtain ⟨next, hreceive, hrest⟩ := hrun
    obtain ⟨hnext, hsess⟩ := h.receive hreceive
    obtain ⟨hfinal, hfold⟩ := ih hnext hrest
    refine ⟨hfinal, ?_⟩
    rw [hfold, hsess, flatten_cons, foldl_append]

lemma run_bytes (stream : List UInt8) :
    ∃ final, airplayServerRun connection (stream.map fun byte => [byte]) = some final := by
  induction stream generalizing connection with
  | nil => exact ⟨connection, rfl⟩
  | cons byte stream ih =>
    have hreceive : ∃ next, airplayServerReceive connection [byte] = some next := by
      unfold airplayServerReceive
      cases hfail : connection.session.failure with
      | some error => exact ⟨_, rfl⟩
      | none =>
        obtain ⟨capacity, hcapacity, hroom, -⟩ := h.receiveCapacity_eq_some hfail
        simp only [hcapacity]
        rw [if_neg]
        · exact ⟨_, rfl⟩
        · simp only [cons_ne_nil, length_singleton, false_or]
          omega
    obtain ⟨next, hnext⟩ := hreceive
    obtain ⟨final, hfinal⟩ := ih (h.receive hnext).1
    refine ⟨final, ?_⟩
    rw [map_cons, airplayServerRun, hnext]
    exact hfinal

end AirPlayServerConnection.Sound

/-- **Framing does not depend on the chunks.**  An accepted request and a refusal are decided by
the message itself, an accepted request is exactly one unambiguous message, and a connection
that receives one stream in two ways cuts the same requests off it.  (Some way there always is:
`AirPlayServerConnection.Sound.run_bytes`.) -/
theorem airplayRtspParseRequest_framing {p q : List UInt8}
    (hlength : (p ++ q).length ≤ airplayRtspMaxMessageBytes) :
    (∀ request consumed, airplayRtspParseRequest p = .ok request consumed →
      airplayRtspParseRequest (p ++ q) = .ok request consumed ∧
        RtspMessage p request consumed) ∧
    (∀ error, airplayRtspParseRequest p = .error error →
      airplayRtspParseRequest (p ++ q) = .error error) ∧
    ∀ chunks chunks' final final', chunks.flatten = chunks'.flatten →
      airplayServerRun .initial chunks = some final →
      airplayServerRun .initial chunks' = some final' → final.session = final'.session := by
  refine ⟨fun request consumed h => ⟨?_, rtspMessage_of_ok h⟩, fun error h => ?_, ?_⟩
  · rw [airplayRtspParseRequest_append hlength (by rw [h]; simp), h]
  · rw [airplayRtspParseRequest_append hlength (by rw [h]; simp), h]
  · intro chunks chunks' final final' hstream hrun hrun'
    rw [(AirPlayServerConnection.Sound.initial.run hrun).2,
      (AirPlayServerConnection.Sound.initial.run hrun').2, hstream]

/-- A request with a body keeps its extent when the next request follows. -/
theorem airplayRtspParseRequest_framing_of_body :
    let message := asciiBytes "SET / RTSP/1.0\r\nContent-Length: 2\r\n\r\nok"
    let request : AirPlayRtspRequest :=
      ⟨cstring "SET", cstring "/", cstring "RTSP/1.0", [⟨cstring "Content-Length", cstring "2"⟩],
        asciiBytes "ok", 2, false, 0⟩
    airplayRtspParseRequest (message ++ asciiBytes "GET ") = .ok request 39 ∧
      RtspMessage message request 39 :=
  (airplayRtspParseRequest_framing (by decide)).1 _ _ (by decide +kernel)

/-- A whole message, byte by byte. -/
lemma feed_message {message : List UInt8} {request : AirPlayRtspRequest}
    (h : airplayRtspParseRequest message = .ok request message.length) (frames : List AirPlayRtspRequest) :
    message.foldl (fun session byte => feed rtspFramer session [byte]) ⟨frames, [], none⟩ =
      ⟨frames ++ [request], [], none⟩ := by
  have hnone : rtspFramer [] = .more := rtspFramer_eq_more.mpr rfl
  have hlen : message.length ≤ airplayRtspMaxMessageBytes := by
    by_contra hlong
    rw [airplayRtspParseRequest, if_pos (Nat.lt_of_not_le hlong)] at h
    cases h
  rw [← feed_eq_bytes rtspStable (drain_more hnone) (by simpa using hlen), feed_open, nil_append,
    drain_frame rtspStable (rtspFramer_eq_frame.mpr h), drop_length, drain_more hnone]

/-- **Pipelined requests.**  A stream of whole messages, however it is received, is cut into their
requests, one after the other, and nothing is left in the buffer. -/
theorem airplayServerRun_pipelined {messages : List (List UInt8 × AirPlayRtspRequest)}
    (hmessages : ∀ message ∈ messages,
      airplayRtspParseRequest message.1 = .ok message.2 message.1.length)
    {chunks : List (List UInt8)} (hstream : chunks.flatten = messages.flatMap Prod.fst)
    {final : AirPlayServerConnection} (hrun : airplayServerRun .initial chunks = some final) :
    final.session = ⟨messages.map Prod.snd, [], none⟩ := by
  have hfold : ∀ frames, (messages.flatMap Prod.fst).foldl
      (fun session byte => feed rtspFramer session [byte]) ⟨frames, [], none⟩ =
        ⟨frames ++ messages.map Prod.snd, [], none⟩ := by
    clear hstream hrun
    induction messages with
    | nil => simp
    | cons message messages ih =>
      intro frames
      rw [flatMap_cons, foldl_append, feed_message (hmessages message mem_cons_self),
        ih fun other hother => hmessages other (mem_cons_of_mem _ hother), append_assoc]
      rfl
  rw [(AirPlayServerConnection.Sound.initial.run hrun).2, hstream]
  exact hfold []

/-- Two requests, byte by byte. -/
theorem airplayServerRun_pipelined_two :
    let request : AirPlayRtspRequest :=
      ⟨cstring "GET", cstring "/", cstring "RTSP/1.0", [], [], 0, false, 0⟩
    let message := asciiBytes "GET / RTSP/1.0\r\n\r\n"
    ∃ final, airplayServerRun .initial ((message ++ message).map fun byte => [byte]) = some final ∧
      final.session = ⟨[request, request], [], none⟩ := by
  intro request message
  have hparse : airplayRtspParseRequest message = .ok request message.length := by decide +kernel
  obtain ⟨final, hrun⟩ := AirPlayServerConnection.Sound.initial.run_bytes (message ++ message)
  have hmessages : ∀ pair ∈ [(message, request), (message, request)],
      airplayRtspParseRequest pair.1 = .ok pair.2 pair.1.length := by
    simp [hparse]
  refine ⟨final, hrun, airplayServerRun_pipelined hmessages ?_ hrun⟩
  simp [← flatMap_def]

end NXCast

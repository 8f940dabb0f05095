import NXCast.Rtsp.Request

/-!
# The outbound request encoder

`airplayRtspOutboundRequestEncode` is `airplay_rtsp_outbound_request_encode` of `rtsp.c`,
with its two passes: the first checks the request and adds up the size, the second writes
into a buffer of that size.  Both format every line into one array of `rtspLineBytes`
characters; the first pass has refused a line that does not fit, so the second appends the
line itself.  Allocation is assumed to succeed.

`airplayRtspOutboundRequestEncode_eq_some` is what the two passes come to: an accepted
request is written as its start line, one line for each header, the generated
`Content-Length`, the empty line and the body.
-/

namespace NXCast

open Option List

/-- `AirPlayRtspOutboundRequest` -/
structure AirPlayRtspOutboundRequest where
  method : CString
  uri : CString
  protocol : CString
  headers : List AirPlayRtspHeader
  body : List UInt8

/-! ## Lines -/

/-- The two bytes behind every line. -/
def rtspCrlf : List UInt8 := [0x0d, 0x0a]

/-- The size of the array that lines are formatted in. -/
def rtspLineBytes : ℕ := airplayRtspMaxHeaderNameBytes + airplayRtspMaxHeaderValueBytes + 8

variable (request : AirPlayRtspOutboundRequest)

/-- The text of the start line. -/
def AirPlayRtspOutboundRequest.startLine : List UInt8 :=
  request.method.bytes ++ 0x20 :: (request.uri.bytes ++ 0x20 :: request.protocol.bytes)

/-- The text of a header line. -/
def AirPlayRtspHeader.line (header : AirPlayRtspHeader) : List UInt8 :=
  header.name.bytes ++ 0x3a :: 0x20 :: header.value.bytes

/-- The header that the encoder adds itself. -/
def contentLengthHeader (bodyLength : ℕ) : AirPlayRtspHeader :=
  ⟨cstring "Content-Length", CString.ofBuffer (Decimal.digits bodyLength)⟩

/-! ## The sizing pass -/

/-- `rtsp_size_add` -/
def rtspSizeAdd (left right : ℕ) : Option ℕ :=
  if right > 2 ^ 64 - 1 - left then none else some (left + right)

/-- One formatted line, added to the size. -/
def rtspSizeLine (total : ℕ) (line : List UInt8) : Option ℕ :=
  if (line ++ rtspCrlf).length ≥ rtspLineBytes then none
  else rtspSizeAdd total (line ++ rtspCrlf).length

/-- The header loop of the sizing pass. -/
def rtspSizeHeaders : List AirPlayRtspHeader → ℕ → Option ℕ
  | [], total => some total
  | header :: later, total =>
    if rtspValidToken header.name = false ∨ rtspValidHeaderValue header.value = false ∨
        header.name.strlen > airplayRtspMaxHeaderNameBytes ∨
        header.value.strlen > airplayRtspMaxHeaderValueBytes ∨
        rtspHeaderNameEqual header.name (cstring "Content-Length") = true then none
    else if later.any fun other => rtspHeaderNameEqual header.name other.name then none
    else (rtspSizeLine total header.line).bind (rtspSizeHeaders later)

/-! ## The writing pass -/

/-- `rtsp_encoded_append` -/
def rtspEncodedAppend (outputSize : ℕ) (output bytes : List UInt8) : Option (List UInt8) :=
  if output.length > outputSize ∨ bytes.length > outputSize - output.length then none
  else some (output ++ bytes)

/-- `airplay_rtsp_outbound_request_encode` -/
def airplayRtspOutboundRequestEncode :
    Option (List UInt8) :=
  if rtspValidToken request.method = false ∨ rtspValidUri request.uri = false ∨
      request.protocol ≠ cstring "HTTP/1.1" ∨ request.headers.length > airplayRtspMaxHeaders ∨
      request.body.length > airplayRtspMaxBodyBytes then none
  else do
    let total ← rtspSizeLine 0 request.startLine
    let total ← rtspSizeHeaders request.headers total
    let total ← rtspSizeLine total (contentLengthHeader request.body.length).line
    let total ← rtspSizeAdd total 2
    let total ← rtspSizeAdd total request.body.length
    if total > airplayRtspMaxMessageBytes then none
    else
      let output ← rtspEncodedAppend total [] (request.startLine ++ rtspCrlf)
      let output ← request.headers.foldlM
        (fun output header => rtspEncodedAppend total output (header.line ++ rtspCrlf)) output
      let output ← rtspEncodedAppend total output
        ((contentLengthHeader request.body.length).line ++ rtspCrlf)
      let output ← rtspEncodedAppend total output rtspCrlf
      let output ← rtspEncodedAppend total output request.body
      if output.length ≠ total then none else some output

/-! ## What an accepted request is written as -/

/-- A header that one line can carry. -/
structure AirPlayRtspHeader.Sendable (header : AirPlayRtspHeader) : Prop where
  name_valid : rtspValidToken header.name = true
  value_valid : rtspValidHeaderValue header.value = true
  name_le : header.name.strlen ≤ airplayRtspMaxHeaderNameBytes
  value_le : header.value.strlen ≤ airplayRtspMaxHeaderValueBytes

/-- The lines of a header section, each with its end. -/
def rtspHeaderLines (headers : List AirPlayRtspHeader) : List UInt8 :=
  headers.flatMap fun header => header.line ++ rtspCrlf

/-- The headers an accepted request is sent with. -/
def AirPlayRtspOutboundRequest.sentHeaders :
    List AirPlayRtspHeader :=
  request.headers ++ [contentLengthHeader request.body.length]

/-- The header section of an accepted request. -/
def AirPlayRtspOutboundRequest.headerSection :
    List UInt8 :=
  request.startLine ++ rtspCrlf ++ rtspHeaderLines request.sentHeaders ++ rtspCrlf

/-- What the sizing pass has checked. -/
structure AirPlayRtspOutboundRequest.Accepted (request : AirPlayRtspOutboundRequest) : Prop where
  method_valid : rtspValidToken request.method = true
  uri_valid : rtspValidUri request.uri = true
  protocol_eq : request.protocol = cstring "HTTP/1.1"
  body_le : request.body.length ≤ airplayRtspMaxBodyBytes
  sendable : ∀ header ∈ request.headers, header.Sendable
  not_contentLength : ∀ header ∈ request.headers,
    rtspHeaderNameEqual header.name (cstring "Content-Length") = false
  distinct : request.headers.Pairwise fun header later =>
    rtspHeaderNameEqual header.name later.name = false

/-- The header loop accepts only headers that can be sent, no two of them with one name. -/
lemma rtspSizeHeaders_eq_some {headers : List AirPlayRtspHeader} {total next : ℕ}
    (h : rtspSizeHeaders headers total = some next) :
    (∀ header ∈ headers, header.Sendable ∧
      rtspHeaderNameEqual header.name (cstring "Content-Length") = false) ∧
    headers.Pairwise (fun header later => rtspHeaderNameEqual header.name later.name = false) := by
  induction headers generalizing total with
  | nil => simp
  | cons header later ih =>
    rw [rtspSizeHeaders] at h
    split at h
    · cases h
    rename_i hvalid
    simp only [not_or, Bool.not_eq_false, Bool.not_eq_true, Nat.not_lt, gt_iff_lt] at hvalid
    obtain ⟨hname, hvalue, hnameLe, hvalueLe, hother⟩ := hvalid
    split at h
    · cases h
    rename_i hlater
    obtain ⟨middle, -, hrest⟩ := bind_eq_some_iff.mp h
    obtain ⟨hsendable, hdist⟩ := ih hrest
    refine ⟨?_, pairwise_cons.mpr ⟨fun other hmem => ?_, hdist⟩⟩
    · intro candidate hcandidate
      rcases mem_cons.mp hcandidate with rfl | hmem
      · exact ⟨⟨hname, hvalue, hnameLe, hvalueLe⟩, hother⟩
      · exact hsendable candidate hmem
    · by_contra hequal
      rw [Bool.not_eq_false] at hequal
      exact hlater (any_eq_true.mpr ⟨other, hmem, hequal⟩)

lemma rtspEncodedAppend_eq_some {outputSize : ℕ} {output bytes next : List UInt8}
    (h : rtspEncodedAppend outputSize output bytes = some next) : next = output ++ bytes := by
  unfold rtspEncodedAppend at h
  split at h
  · cases h
  · simpa using h.symm

lemma foldlM_rtspEncodedAppend_eq_some {outputSize : ℕ} {headers : List AirPlayRtspHeader}
    {output next : List UInt8} (h : headers.foldlM
      (fun output header => rtspEncodedAppend outputSize output (header.line ++ rtspCrlf))
      output = some next) : next = output ++ rtspHeaderLines headers := by
  induction headers generalizing output with
  | nil =>
    simp only [foldlM_nil, pure, some.injEq] at h
    simp [rtspHeaderLines, h]
  | cons header later ih =>
    obtain ⟨middle, hmiddle, hrest⟩ := bind_eq_some_iff.mp h
    rw [ih hrest, rtspEncodedAppend_eq_some hmiddle]
    simp [rtspHeaderLines]

/-- **What the encoder writes.**  The header section, then the body. -/
theorem airplayRtspOutboundRequestEncode_eq_some {request : AirPlayRtspOutboundRequest}
    {bytes : List UInt8} (h : airplayRtspOutboundRequestEncode request = some bytes) :
    request.Accepted ∧ bytes = request.headerSection ++ request.body ∧
      bytes.length ≤ airplayRtspMaxMessageBytes := by
  unfold airplayRtspOutboundRequestEncode at h
  split at h
  · cases h
  rename_i hvalid
  simp only [not_or, Bool.not_eq_false, Nat.not_lt, gt_iff_lt, ne_eq, not_not] at hvalid
  obtain ⟨hmethod, huri, hprot, -, hbody⟩ := hvalid
  obtain ⟨total₁, -, h⟩ := bind_eq_some_iff.mp h
  obtain ⟨total₂, hheaders, h⟩ := bind_eq_some_iff.mp h
  obtain ⟨total₃, -, h⟩ := bind_eq_some_iff.mp h
  obtain ⟨total₄, -, h⟩ := bind_eq_some_iff.mp h
  obtain ⟨total, -, h⟩ := bind_eq_some_iff.mp h
  split at h
  · cases h
  rename_i hmessage
  obtain ⟨output₁, hstart, h⟩ := bind_eq_some_iff.mp h
  obtain ⟨output₂, hlines, h⟩ := bind_eq_some_iff.mp h
  obtain ⟨output₃, hlen, h⟩ := bind_eq_some_iff.mp h
  obtain ⟨output₄, hempty, h⟩ := bind_eq_some_iff.mp h
  obtain ⟨output, hwrote, h⟩ := bind_eq_some_iff.mp h
  split at h
  · cases h
  rename_i hused
  simp only [some.injEq] at h
  subst h
  obtain ⟨hsendable, hdist⟩ := rtspSizeHeaders_eq_some hheaders
  refine ⟨⟨hmethod, huri, hprot, hbody, fun header hmem => (hsendable header hmem).1,
    fun header hmem => (hsendable header hmem).2, hdist⟩, ?_, by omega⟩
  rw [rtspEncodedAppend_eq_some hwrote, rtspEncodedAppend_eq_some hempty,
    rtspEncodedAppend_eq_some hlen, foldlM_rtspEncodedAppend_eq_some hlines,
    rtspEncodedAppend_eq_some hstart]
  simp [AirPlayRtspOutboundRequest.headerSection, AirPlayRtspOutboundRequest.sentHeaders,
    rtspHeaderLines]

end NXCast

import NXCast.Rtsp.Text

/-!
# The RTSP request parser

`airplayRtspParseRequest` is `airplay_rtsp_parse_request` of `rtsp.c`.  Indices into the
buffer become suffixes of the byte list: the cursor of the header loop is the rest of the
header section, and the part of the function that only looks at the header works on
`bytes.take headerEnd`.  Allocation is assumed to succeed.
-/

namespace NXCast

/-- `AirPlayRtspHeader` -/
structure AirPlayRtspHeader where
  name : CString
  value : CString
deriving DecidableEq

/-- `AirPlayRtspRequest` -/
structure AirPlayRtspRequest where
  method : CString
  uri : CString
  protocol : CString
  headers : List AirPlayRtspHeader
  body : List UInt8
  bodyLength : ℕ
  hasCseq : Bool
  cseq : UInt32
deriving DecidableEq

/-- `AirPlayRtspError`, without the `NONE` of a successful call. -/
inductive AirPlayRtspError where
  | invalidArgument
  | invalidFormat
  | limitExceeded
  | outOfMemory
deriving DecidableEq, Repr

/-- `AirPlayRtspParseResult`, with what the call writes through its output parameters. -/
inductive AirPlayRtspParseResult where
  | ok (request : AirPlayRtspRequest) (consumed : ℕ)
  | needMore
  | error (error : AirPlayRtspError)
deriving DecidableEq

/-! ## Finding line ends -/

/-- `rtsp_find_header_end`: the position after the first empty line. -/
def rtspFindHeaderEnd : List UInt8 → Option ℕ
  | [] => none
  | first :: rest =>
    if [0x0d, 0x0a, 0x0d, 0x0a] <+: first :: rest then some 4
    else (rtspFindHeaderEnd rest).map (· + 1)

/-- `rtsp_find_crlf`: the position of the first line end in the section from the cursor on. -/
def rtspFindCrlf : List UInt8 → Option ℕ
  | [] => none
  | first :: rest =>
    if [0x0d, 0x0a] <+: first :: rest then some 0 else (rtspFindCrlf rest).map (· + 1)

lemma rtspFindCrlf_length {text : List UInt8} {lineEnd : ℕ}
    (h : rtspFindCrlf text = some lineEnd) : lineEnd + 2 ≤ text.length := by
  induction text generalizing lineEnd with
  | nil => simp [rtspFindCrlf] at h
  | cons first rest ih =>
    rw [rtspFindCrlf] at h
    split_ifs at h with hpfx
    · simp only [Option.some.injEq] at h
      rw [← h]
      exact hpfx.length_le
    · obtain ⟨position, hpos, rfl⟩ := Option.map_eq_some_iff.mp h
      have := ih hpos
      rw [List.length_cons]
      omega

/-! ## The request line -/

/-- The scan of `rtsp_parse_request_line`: the positions of the first two spaces, refusing a
third one and every other byte outside the printable range. -/
def rtspScanSpaces : List UInt8 → ℕ → Option ℕ → Option ℕ → Option (Option ℕ × Option ℕ)
  | [], _, firstSpace, secondSpace => some (firstSpace, secondSpace)
  | byte :: line, index, firstSpace, secondSpace =>
    if byte = 0x20 then
      match firstSpace, secondSpace with
      | none, secondSpace => rtspScanSpaces line (index + 1) (some index) secondSpace
      | some first, none => rtspScanSpaces line (index + 1) (some first) (some index)
      | some _, some _ => none
    else if byte.toNat < 0x21 ∨ byte.toNat > 0x7e then none
    else rtspScanSpaces line (index + 1) firstSpace secondSpace

/-- `rtsp_parse_request_line`: method, URI and protocol. -/
def rtspParseRequestLine (line : List UInt8) : Option (CString × CString × CString) :=
  if line.length = 0 then none
  else
    match rtspScanSpaces line 0 none none with
    | some (some firstSpace, some secondSpace) =>
      if firstSpace = 0 ∨ secondSpace ≤ firstSpace + 1 ∨ secondSpace + 1 ≥ line.length then none
      else
        match rtspCopySlice (airplayRtspMaxMethodBytes + 1) (line.take firstSpace),
          rtspCopySlice (airplayRtspMaxUriBytes + 1)
            ((line.drop (firstSpace + 1)).take (secondSpace - firstSpace - 1)),
          rtspCopySlice (airplayRtspMaxProtocolBytes + 1) (line.drop (secondSpace + 1)) with
        | some method, some uri, some protocol =>
          if rtspValidToken method = false ∨
              (protocol ≠ cstring "RTSP/1.0" ∧ protocol ≠ cstring "HTTP/1.1") then none
          else some (method, uri, protocol)
        | _, _, _ => none
    | _ => none

/-! ## Header lines -/

/-- A blank around a header value. -/
def rtspBlank (byte : UInt8) : Bool := decide (byte = 0x20) || decide (byte = 0x09)

/-- The two loops that strip the blanks around a header value. -/
def rtspStripBlanks (text : List UInt8) : List UInt8 :=
  ((text.dropWhile rtspBlank).reverse.dropWhile rtspBlank).reverse

/-- The scan of `rtsp_parse_header_line`: the position of the first colon, refusing control
characters. -/
def rtspScanColon : List UInt8 → ℕ → Option ℕ → Option (Option ℕ)
  | [], _, colon => some colon
  | byte :: line, index, colon =>
    if byte = 0x3a ∧ colon = none then rtspScanColon line (index + 1) (some index)
    else if rtspControlCharacter byte = true then none
    else rtspScanColon line (index + 1) colon

/-- `rtsp_parse_header_line`: the headers with the one of this line added. -/
def rtspParseHeaderLine (line : List UInt8) (headers : List AirPlayRtspHeader) :
    Option (List AirPlayRtspHeader) :=
  if line.length = 0 ∨ headers.length ≥ airplayRtspMaxHeaders then none
  else
    match rtspScanColon line 0 none with
    | some (some colon) =>
      if colon = 0 then none
      else
        match rtspCopySlice (airplayRtspMaxHeaderNameBytes + 1) (line.take colon),
          rtspCopySlice (airplayRtspMaxHeaderValueBytes + 1)
            (rtspStripBlanks (line.drop (colon + 1))) with
        | some name, some value =>
          if rtspValidToken name = false ∨ rtspValidHeaderValue value = false then none
          else some (headers ++ [⟨name, value⟩])
        | _, _ => none
    | _ => none

/-- The header loop, on the rest of the header section; it stops before the empty line. -/
def rtspParseHeaderLines (headers : List AirPlayRtspHeader) (rest : List UInt8) :
    Option (List AirPlayRtspHeader) :=
  if rest.length ≤ 2 then
    if rest.length = 2 then some headers else none
  else
    match rtspFindCrlf rest with
    | none => none
    | some lineEnd =>
      if lineEnd = 0 then none
      else
        match rtspParseHeaderLine (rest.take lineEnd) headers with
        | none => none
        | some headers => rtspParseHeaderLines headers (rest.drop (lineEnd + 2))
termination_by rest.length
decreasing_by
  simp only [List.length_drop]
  omega

/-- The request line and the header lines of a header section. -/
def rtspParseHeaderSection (text : List UInt8) :
    Option (CString × CString × CString × List AirPlayRtspHeader) :=
  match rtspFindCrlf text with
  | none => none
  | some lineEnd =>
    match rtspParseRequestLine (text.take lineEnd) with
    | none => none
    | some (method, uri, protocol) =>
      match rtspParseHeaderLines [] (text.drop (lineEnd + 2)) with
      | none => none
      | some headers => some (method, uri, protocol, headers)

/-! ## Header checks -/

/-- The loop that refuses `Transfer-Encoding` and a repeated `Content-Length` or `CSeq`. -/
def rtspHeadersUnambiguous : List AirPlayRtspHeader → Bool
  | [] => true
  | header :: later =>
    if rtspHeaderNameEqual header.name (cstring "Transfer-Encoding") then false
    else if !rtspHeaderNameEqual header.name (cstring "Content-Length") &&
        !rtspHeaderNameEqual header.name (cstring "CSeq") then
      rtspHeadersUnambiguous later
    else if later.any fun other => rtspHeaderNameEqual header.name other.name then false
    else rtspHeadersUnambiguous later

/-- `airplay_rtsp_request_header` -/
def airplayRtspRequestHeader (headers : List AirPlayRtspHeader) (name : CString) :
    Option CString :=
  (headers.find? fun header => rtspHeaderNameEqual header.name name).map (·.value)

/-- The body length that the headers announce. -/
def rtspBodyLength (headers : List AirPlayRtspHeader) : Except AirPlayRtspError ℕ :=
  match airplayRtspRequestHeader headers (cstring "Content-Length") with
  | none => .ok 0
  | some text =>
    if rtspDecimalSyntaxValid text = false then .error .invalidFormat
    else
      match rtspParseDecimal text airplayRtspMaxBodyBytes with
      | none => .error .limitExceeded
      | some bodyLength => .ok bodyLength

/-- The `CSeq` of the headers, when it is a number that fits. -/
def rtspCseq (headers : List AirPlayRtspHeader) : Option (Bool × UInt32) :=
  match airplayRtspRequestHeader headers (cstring "CSeq") with
  | none => some (false, 0)
  | some text =>
    if rtspDecimalSyntaxValid text = false then none
    else (rtspParseDecimal text (2 ^ 32 - 1)).map fun cseq => (true, UInt32.ofNat cseq)

/-! ## The parser -/

/-- `airplay_rtsp_parse_request` -/
def airplayRtspParseRequest (bytes : List UInt8) : AirPlayRtspParseResult :=
  if bytes.length > airplayRtspMaxMessageBytes then .error .limitExceeded
  else
    match rtspFindHeaderEnd bytes with
    | none =>
      if bytes.length ≥ airplayRtspMaxHeaderBytes then .error .limitExceeded else .needMore
    | some headerEnd =>
      if headerEnd > airplayRtspMaxHeaderBytes then .error .limitExceeded
      else
        match rtspParseHeaderSection (bytes.take headerEnd) with
        | none => .error .invalidFormat
        | some (method, uri, protocol, headers) =>
          if rtspHeadersUnambiguous headers = false then .error .invalidFormat
          else
            match rtspBodyLength headers with
            | .error error => .error error
            | .ok bodyLength =>
              if headerEnd + bodyLength > 2 ^ 64 - 1 ∨
                  headerEnd + bodyLength > airplayRtspMaxMessageBytes then .error .limitExceeded
              else if bytes.length < headerEnd + bodyLength then .needMore
              else
                match rtspCseq headers with
                | none => .error .invalidFormat
                | some (hasCseq, cseq) =>
                  .ok { method, uri, protocol, headers, bodyLength, hasCseq, cseq
                        body := (bytes.drop headerEnd).take bodyLength }
                    (headerEnd + bodyLength)

end NXCast

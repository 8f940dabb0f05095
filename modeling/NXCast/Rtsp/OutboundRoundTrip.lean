import NXCast.Rtsp.Framing
import NXCast.Rtsp.Outbound

/-!
# The outbound encoder against the parser

Every request that `airplayRtspOutboundRequestEncode` accepts and whose header section is
within the limits of `airplayRtspParseRequest` parses back to what was sent, with the values
of its headers stripped of the blanks around them.

The argument is about lines.  No line that the encoder writes is empty and none holds a
carriage return, so the first line end is that of the start line, the first empty line is the
one behind the headers (`rtspFindHeaderEnd_section`), and each header line is cut at its
first colon, which no header name holds (`rtspParseHeaderLine_line`).
-/

namespace NXCast

open List AirPlayRtspOutboundRequest AirPlayRtspHeader CString Decimal

/-! ## Characters of a line -/

lemma rtspIsTokenCharacter_bounds {byte : UInt8} (h : rtspIsTokenCharacter byte) :
    0x21 ≤ byte.toNat ∧ byte.toNat ≤ 0x7e ∧ byte.toNat ≠ 0x3a := by
  have hall : ∀ n : Fin 256, rtspIsTokenCharacter (UInt8.ofNat n) →
      0x21 ≤ (UInt8.ofNat n).toNat ∧ (UInt8.ofNat n).toNat ≤ 0x7e ∧
        (UInt8.ofNat n).toNat ≠ 0x3a := by
    decide +kernel
  have hbyte := hall ⟨byte.toNat, byte.toNat_lt⟩
  rw [UInt8.ofNat_toNat] at hbyte
  exact hbyte h

/-- A text whose bytes are all printable and not blank. -/
def Printable (text : List UInt8) : Prop := ∀ byte ∈ text, 0x21 ≤ byte.toNat ∧ byte.toNat ≤ 0x7e

variable {value : CString}

lemma printable_of_validToken (h : rtspValidToken value) : Printable value.bytes := by
  intro byte hbyte
  simp only [rtspValidToken, Bool.and_eq_true, all_eq_true] at h
  have hbounds := rtspIsTokenCharacter_bounds (h.2 byte hbyte)
  exact ⟨hbounds.1, hbounds.2.1⟩

lemma printable_of_validUri (h : rtspValidUri value) : Printable value.bytes := by
  intro byte hbyte
  simp only [rtspValidUri, Bool.and_eq_true, all_eq_true, decide_eq_true_eq] at h
  exact h.1.2 byte hbyte

lemma ne_nil_of_validToken (h : rtspValidToken value) : value.bytes ≠ [] := by
  simp only [rtspValidToken, Bool.and_eq_true, Bool.not_eq_true', isEmpty_eq_false_iff] at h
  exact h.1

variable {text : List UInt8}

lemma Printable.not_cr (h : Printable text) : (0x0d : UInt8) ∉ text := by
  intro hmem
  have := (h _ hmem).1
  simp at this

lemma startLine_not_cr {request : AirPlayRtspOutboundRequest} (h : request.Accepted) :
    (0x0d : UInt8) ∉ request.startLine := by
  have hmethod := (printable_of_validToken h.method_valid).not_cr
  have huri := (printable_of_validUri h.uri_valid).not_cr
  rw [startLine, h.protocol_eq]
  have hprot : (0x0d : UInt8) ∉ (cstring "HTTP/1.1").bytes := by decide
  simp [hmethod, huri, hprot]

namespace AirPlayRtspHeader

lemma line_ne_nil (header : AirPlayRtspHeader) : header.line ≠ [] := by
  simp [line]

lemma Sendable.line_not_cr {header : AirPlayRtspHeader} (h : header.Sendable) :
    (0x0d : UInt8) ∉ header.line := by
  have hname := (printable_of_validToken h.name_valid).not_cr
  have hvalue : (0x0d : UInt8) ∉ header.value.bytes := by
    intro hmem
    have hctl := all_eq_true.mp h.value_valid _ hmem
    simp [rtspControlCharacter] at hctl
  simp [line, hname, hvalue]

end AirPlayRtspHeader

/-! ## Finding the line ends of a written section -/

lemma rtspFindCrlf_line {line : List UInt8} (h : (0x0d : UInt8) ∉ line) (rest : List UInt8) :
    rtspFindCrlf (line ++ (rtspCrlf ++ rest)) = some line.length := by
  induction line with
  | nil => simp [rtspFindCrlf, rtspCrlf]
  | cons byte line ih =>
    rw [mem_cons, not_or] at h
    rw [cons_append, rtspFindCrlf, if_neg, ih h.2, Option.map_some, length_cons]
    intro hpfx
    rw [cons_prefix_cons] at hpfx
    exact h.1 hpfx.1

lemma rtspFindHeaderEnd_cons {byte : UInt8} (h : byte ≠ 0x0d) (rest : List UInt8) :
    rtspFindHeaderEnd (byte :: rest) = (rtspFindHeaderEnd rest).map (· + 1) := by
  rw [rtspFindHeaderEnd, if_neg]
  intro hpfx
  rw [cons_prefix_cons] at hpfx
  exact h hpfx.1.symm

lemma rtspFindHeaderEnd_text (h : (0x0d : UInt8) ∉ text) (rest : List UInt8) :
    rtspFindHeaderEnd (text ++ rest) = (rtspFindHeaderEnd rest).map (· + text.length) := by
  induction text with
  | nil => simp
  | cons byte text ih =>
    rw [mem_cons, not_or] at h
    rw [cons_append, rtspFindHeaderEnd_cons (Ne.symm h.1), ih h.2, Option.map_map]
    rfl

lemma rtspFindHeaderEnd_crlf {byte : UInt8} (h : byte ≠ 0x0d) (rest : List UInt8) :
    rtspFindHeaderEnd (rtspCrlf ++ byte :: rest) =
      (rtspFindHeaderEnd (byte :: rest)).map (· + 2) := by
  show rtspFindHeaderEnd (0x0d :: 0x0a :: byte :: rest) = _
  rw [rtspFindHeaderEnd, if_neg, rtspFindHeaderEnd_cons (by decide), Option.map_map]
  · rfl
  intro hpfx
  simp only [cons_prefix_cons] at hpfx
  exact h hpfx.2.2.1.symm

variable {headers : List AirPlayRtspHeader}

/-- **The header section ends behind its lines.**  The induction is on the header lines: each
starts with a byte that is no carriage return. -/
lemma rtspFindHeaderEnd_section {line : List UInt8} (hline : (0x0d : UInt8) ∉ line)
    (hheaders : ∀ header ∈ headers, header.Sendable) (body : List UInt8) :
    rtspFindHeaderEnd (line ++ (rtspCrlf ++ (rtspHeaderLines headers ++ (rtspCrlf ++ body)))) =
      some (line.length + 2 + (rtspHeaderLines headers).length + 2) := by
  induction headers generalizing line with
  | nil =>
    rw [rtspFindHeaderEnd_text hline]
    simp [rtspHeaderLines, rtspCrlf, rtspFindHeaderEnd]
    omega
  | cons header headers ih =>
    have hsendable := hheaders header (by simp)
    have hrest := ih hsendable.line_not_cr fun other hmem => hheaders other (by simp [hmem])
    obtain ⟨first, tail, htext⟩ := exists_cons_of_ne_nil header.line_ne_nil
    have hfirst : first ≠ 0x0d := by
      rintro rfl
      exact hsendable.line_not_cr (by rw [htext]; simp)
    have hlines : rtspHeaderLines (header :: headers) ++ (rtspCrlf ++ body) =
        header.line ++ (rtspCrlf ++ (rtspHeaderLines headers ++ (rtspCrlf ++ body))) := by
      simp [rtspHeaderLines]
    rw [rtspFindHeaderEnd_text hline, hlines, htext, cons_append,
      rtspFindHeaderEnd_crlf hfirst, ← cons_append, ← htext, hrest]
    simp only [Option.map_some, rtspHeaderLines, flatMap_cons, length_append, rtspCrlf,
      length_cons, length_nil]
    congr 1
    omega

/-! ## The start line -/

lemma rtspScanSpaces_text (h : Printable text) (line : List UInt8) (index : ℕ)
    (firstSpace secondSpace : Option ℕ) :
    rtspScanSpaces (text ++ line) index firstSpace secondSpace =
      rtspScanSpaces line (index + text.length) firstSpace secondSpace := by
  induction text generalizing index with
  | nil => rfl
  | cons byte text ih =>
    have hbyte := h byte (by simp)
    have hspace : byte ≠ 0x20 := by
      rintro rfl
      simp at hbyte
    rw [cons_append, rtspScanSpaces.eq_def]
    simp only
    rw [if_neg hspace, if_neg (by omega), ih fun other hmem => h other (by simp [hmem])]
    congr 1
    rw [length_cons]
    omega

lemma rtspScanSpaces_firstSpace (line : List UInt8) (index : ℕ) :
    rtspScanSpaces (0x20 :: line) index none none =
      rtspScanSpaces line (index + 1) (some index) none := rfl

lemma rtspScanSpaces_secondSpace (line : List UInt8) (index first : ℕ) :
    rtspScanSpaces (0x20 :: line) index (some first) none =
      rtspScanSpaces line (index + 1) (some first) (some index) := rfl

lemma rtspCopySlice_bytes {size : ℕ} (h : value.strlen < size) :
    rtspCopySlice size value.bytes = some value := by
  have hfits : ¬ value.bytes.length ≥ size := Nat.not_le.mpr h
  rw [rtspCopySlice, if_neg hfits, ofBuffer_bytes]

/-- The start line of an accepted request reads back, once the method fits. -/
lemma rtspParseRequestLine_startLine {request : AirPlayRtspOutboundRequest}
    (h : request.Accepted) (hmethod : request.method.strlen ≤ airplayRtspMaxMethodBytes) :
    rtspParseRequestLine request.startLine =
      some (request.method, request.uri, request.protocol) := by
  have hmethodNil := ne_nil_of_validToken h.method_valid
  have huri := h.uri_valid
  simp only [rtspValidUri, Bool.and_eq_true, Bool.not_eq_true', isEmpty_eq_false_iff,
    decide_eq_true_eq] at huri
  have hmethodPos : 0 < request.method.bytes.length := length_pos_iff.mpr hmethodNil
  have huriPos : 0 < request.uri.bytes.length := length_pos_iff.mpr huri.1.1
  have hprot : request.protocol.bytes = asciiBytes "HTTP/1.1" := by
    rw [h.protocol_eq]
    decide
  have hprintable : Printable (asciiBytes "HTTP/1.1") := by
    have hall : ∀ byte ∈ asciiBytes "HTTP/1.1", 0x21 ≤ byte.toNat ∧ byte.toNat ≤ 0x7e := by decide +kernel
    exact hall
  have hscan : rtspScanSpaces request.startLine 0 none none =
      some (some request.method.bytes.length,
        some (request.method.bytes.length + 1 + request.uri.bytes.length)) := by
    rw [startLine,
      rtspScanSpaces_text (printable_of_validToken h.method_valid), rtspScanSpaces_firstSpace,
      rtspScanSpaces_text (printable_of_validUri h.uri_valid), rtspScanSpaces_secondSpace,
      hprot, ← append_nil (asciiBytes "HTTP/1.1"), rtspScanSpaces_text hprintable,
      Nat.zero_add]
    rfl
  have hlen : request.startLine.length =
      request.method.bytes.length + 1 + request.uri.bytes.length + 9 := by
    simp only [startLine, length_append, length_cons, hprot]
    have : (asciiBytes "HTTP/1.1").length = 8 := by decide
    omega
  have htake : request.startLine.take request.method.bytes.length = request.method.bytes := by
    simp [startLine]
  have hmiddle : ((request.startLine.drop (request.method.bytes.length + 1)).take
      (request.method.bytes.length + 1 + request.uri.bytes.length -
        request.method.bytes.length - 1)) = request.uri.bytes := by
    have hcount : request.method.bytes.length + 1 + request.uri.bytes.length -
        request.method.bytes.length - 1 = request.uri.bytes.length := by omega
    rw [hcount, startLine, ← drop_drop]
    simp
  have hlast : request.startLine.drop
      (request.method.bytes.length + 1 + request.uri.bytes.length + 1) =
        request.protocol.bytes := by
    rw [startLine, ← drop_drop, ← drop_drop, ← drop_drop]
    simp
  have hprotocolLe : request.protocol.strlen < airplayRtspMaxProtocolBytes + 1 := by
    rw [h.protocol_eq]
    decide
  rw [rtspParseRequestLine, if_neg (by omega), hscan]
  simp only
  rw [if_neg (by omega), htake, hmiddle, hlast, rtspCopySlice_bytes (by omega),
    rtspCopySlice_bytes (by omega), rtspCopySlice_bytes hprotocolLe]
  simp only
  simp [h.method_valid, h.protocol_eq]

/-! ## Header lines -/

/-- A header as the parser receives it. -/
def AirPlayRtspHeader.received (header : AirPlayRtspHeader) : AirPlayRtspHeader :=
  ⟨header.name, CString.ofBuffer (rtspStripBlanks header.value.bytes)⟩

lemma rtspStripBlanks_subset (text : List UInt8) : rtspStripBlanks text ⊆ text := by
  intro byte hbyte
  rw [rtspStripBlanks, mem_reverse] at hbyte
  have hinner := (dropWhile_sublist _).subset hbyte
  rw [mem_reverse] at hinner
  exact (dropWhile_sublist _).subset hinner

lemma rtspStripBlanks_length_le (text : List UInt8) :
    (rtspStripBlanks text).length ≤ text.length := by
  rw [rtspStripBlanks, length_reverse]
  refine (dropWhile_sublist _).length_le.trans ?_
  rw [length_reverse]
  exact (dropWhile_sublist _).length_le

lemma rtspStripBlanks_cons (text : List UInt8) :
    rtspStripBlanks (0x20 :: text) = rtspStripBlanks text := by
  rw [rtspStripBlanks, rtspStripBlanks, dropWhile_cons_of_pos (by decide)]

lemma rtspStripBlanks_of_no_blank (h : ∀ byte ∈ text, rtspBlank byte = false) :
    rtspStripBlanks text = text := by
  have hkeep : ∀ bytes : List UInt8, (∀ byte ∈ bytes, rtspBlank byte = false) →
      bytes.dropWhile rtspBlank = bytes := by
    intro bytes hbytes
    cases bytes with
    | nil => rfl
    | cons byte bytes =>
      rw [dropWhile_cons_of_neg]
      rw [hbytes byte (by simp)]
      simp
  rw [rtspStripBlanks, hkeep text h, hkeep text.reverse, reverse_reverse]
  intro byte hbyte
  exact h byte (mem_reverse.mp hbyte)

lemma AirPlayRtspHeader.received_value (header : AirPlayRtspHeader) :
    header.received.value.bytes = rtspStripBlanks header.value.bytes :=
  bytes_ofBuffer fun hzero =>
    header.value.nul_free (rtspStripBlanks_subset _ hzero)

lemma rtspScanColon_name {name : List UInt8}
    (h : ∀ byte ∈ name, rtspIsTokenCharacter byte) (line : List UInt8) (index : ℕ) :
    rtspScanColon (name ++ line) index none = rtspScanColon line (index + name.length) none := by
  induction name generalizing index with
  | nil => rfl
  | cons byte name ih =>
    have hbounds := rtspIsTokenCharacter_bounds (h byte (by simp))
    have hcolon : byte ≠ 0x3a := by
      rintro rfl
      simp at hbounds
    have hctl : rtspControlCharacter byte = false := by
      have hdel : byte ≠ 0x7f := by
        rintro rfl
        simp at hbounds
      simp only [rtspControlCharacter, hdel, decide_false, Bool.or_false, decide_eq_false_iff_not]
      omega
    rw [cons_append, rtspScanColon, if_neg (fun hboth => hcolon hboth.1),
      if_neg (by simp [hctl]), ih fun other hmem => h other (by simp [hmem])]
    congr 1
    rw [length_cons]
    omega

lemma rtspScanColon_value (h : ∀ byte ∈ text, rtspControlCharacter byte = false) (index colon : ℕ) :
    rtspScanColon text index (some colon) = some (some colon) := by
  induction text generalizing index with
  | nil => rfl
  | cons byte text ih =>
    rw [rtspScanColon, if_neg (by simp), if_neg (by simp [h byte (by simp)]),
      ih fun other hmem => h other (by simp [hmem])]

/-- **A header line reads back.** -/
lemma rtspParseHeaderLine_line {header : AirPlayRtspHeader} (h : header.Sendable)
    (hcount : headers.length < airplayRtspMaxHeaders) :
    rtspParseHeaderLine header.line headers = some (headers ++ [header.received]) := by
  have hname := h.name_valid
  simp only [rtspValidToken, Bool.and_eq_true, all_eq_true] at hname
  have hvalue := h.value_valid
  simp only [rtspValidHeaderValue, all_eq_true, Bool.not_eq_true'] at hvalue
  have hnamePos : 0 < header.name.bytes.length :=
    length_pos_iff.mpr (ne_nil_of_validToken h.name_valid)
  have hscan : rtspScanColon header.line 0 none = some (some header.name.bytes.length) := by
    rw [line, rtspScanColon_name hname.2, rtspScanColon, if_pos ⟨rfl, rfl⟩, Nat.zero_add]
    refine rtspScanColon_value (fun byte hmem => ?_) _ _
    rcases mem_cons.mp hmem with rfl | hmem
    · decide
    · exact hvalue byte hmem
  have hlen : header.line.length ≠ 0 := by
    rw [ne_eq, length_eq_zero_iff]
    exact header.line_ne_nil
  have htake : header.line.take header.name.bytes.length = header.name.bytes := by
    simp [line]
  have hdrop : header.line.drop (header.name.bytes.length + 1) = 0x20 :: header.value.bytes := by
    rw [line, ← drop_drop]
    simp
  have hvalueFits : ¬ (rtspStripBlanks header.value.bytes).length ≥
      airplayRtspMaxHeaderValueBytes + 1 := by
    have hstrip := rtspStripBlanks_length_le header.value.bytes
    have hle := h.value_le
    rw [strlen] at hle
    omega
  have hrecv : rtspValidHeaderValue header.received.value := by
    rw [rtspValidHeaderValue, header.received_value, all_eq_true]
    intro byte hmem
    rw [hvalue byte (rtspStripBlanks_subset _ hmem)]
    rfl
  rw [rtspParseHeaderLine, if_neg (by omega), hscan]
  simp only
  rw [if_neg (by omega), htake, hdrop, rtspStripBlanks_cons,
    rtspCopySlice_bytes (Nat.lt_succ_of_le h.name_le), rtspCopySlice, if_neg hvalueFits]
  simp only
  rw [if_neg]
  · rfl
  rintro (hbad | hbad)
  · rw [h.name_valid] at hbad
    cases hbad
  · exact Bool.false_ne_true (hbad.symm.trans hrecv)

lemma rtspParseHeaderLines_lines {sent : List AirPlayRtspHeader}
    (h : ∀ header ∈ sent, header.Sendable)
    (hcount : headers.length + sent.length ≤ airplayRtspMaxHeaders) :
    rtspParseHeaderLines headers (rtspHeaderLines sent ++ rtspCrlf) =
      some (headers ++ sent.map received) := by
  induction sent generalizing headers with
  | nil =>
    rw [rtspParseHeaderLines, if_pos (by simp [rtspHeaderLines, rtspCrlf])]
    simp [rtspHeaderLines, rtspCrlf]
  | cons header sent ih =>
    have hsendable := h header (by simp)
    have hlines : rtspHeaderLines (header :: sent) ++ rtspCrlf =
        header.line ++ (rtspCrlf ++ (rtspHeaderLines sent ++ rtspCrlf)) := by
      simp [rtspHeaderLines]
    have hpos : 0 < header.line.length := length_pos_iff.mpr header.line_ne_nil
    have hcrlf : rtspCrlf.length = 2 := rfl
    rw [length_cons] at hcount
    have hdrop : (header.line ++ (rtspCrlf ++ (rtspHeaderLines sent ++ rtspCrlf))).drop
        (header.line.length + 2) = rtspHeaderLines sent ++ rtspCrlf := by
      rw [← drop_drop, drop_left, ← hcrlf, drop_left]
    rw [rtspParseHeaderLines, hlines, if_neg (by simp only [length_append, hcrlf]; omega),
      rtspFindCrlf_line hsendable.line_not_cr]
    simp only
    rw [if_neg (by omega), take_left, rtspParseHeaderLine_line hsendable (by omega)]
    simp only
    rw [hdrop, ih (fun other hmem => h other (by simp [hmem]))
      (by rw [length_append, length_singleton]; omega)]
    simp

/-! ## Header checks -/

/-- Distinct names, none of them `Transfer-Encoding`, are unambiguous. -/
lemma rtspHeadersUnambiguous_of_distinct
    (hdist : headers.Pairwise fun header later => rtspHeaderNameEqual header.name later.name = false)
    (htransfer : ∀ header ∈ headers, rtspHeaderNameEqual header.name (cstring "Transfer-Encoding") = false) :
    rtspHeadersUnambiguous headers := by
  induction headers with
  | nil => rfl
  | cons header later ih =>
    obtain ⟨hother, hlater⟩ := pairwise_cons.mp hdist
    have hrest := ih hlater fun other hmem => htransfer other (by simp [hmem])
    rw [rtspHeadersUnambiguous, if_neg (by simp [htransfer header (by simp)])]
    split
    · exact hrest
    rw [if_neg, hrest]
    rw [any_eq_true]
    rintro ⟨other, hmem, hequal⟩
    rw [hother other hmem] at hequal
    cases hequal

lemma airplayRtspRequestHeader_contentLength
    (h : ∀ header ∈ headers, rtspHeaderNameEqual header.name (cstring "Content-Length") = false)
    (bodyLength : ℕ) :
    airplayRtspRequestHeader (headers ++ [contentLengthHeader bodyLength])
      (cstring "Content-Length") = some (contentLengthHeader bodyLength).value := by
  have hname : rtspHeaderNameEqual (contentLengthHeader bodyLength).name
      (cstring "Content-Length") := by
    rfl
  rw [airplayRtspRequestHeader, find?_append, find?_eq_none.mpr, Option.none_or, find?_cons]
  · simp only [hname, Option.map_some]
  · intro header hmem
    simp [h header hmem]

lemma contentLengthHeader_value (bodyLength : ℕ) :
    (contentLengthHeader bodyLength).value.bytes = digits bodyLength := by
  refine bytes_ofBuffer fun hzero => ?_
  have hdigit := isDigit_of_mem_digits bodyLength 0 hzero
  simp [Decimal.IsDigit] at hdigit

lemma rtspBodyLength_contentLength
    (h : ∀ header ∈ headers, rtspHeaderNameEqual header.name (cstring "Content-Length") = false)
    {bodyLength : ℕ} (hle : bodyLength ≤ airplayRtspMaxBodyBytes) :
    rtspBodyLength (headers ++ [contentLengthHeader bodyLength]) = .ok bodyLength := by
  have hdigs : rtspDecimalSyntaxValid (contentLengthHeader bodyLength).value := by
    simp only [rtspDecimalSyntaxValid, contentLengthHeader_value, Bool.and_eq_true,
      Bool.not_eq_true', isEmpty_eq_false_iff, all_eq_true]
    exact ⟨digits_ne_nil bodyLength, fun byte hmem =>
      isdigit_iff.mpr (isDigit_of_mem_digits bodyLength byte hmem)⟩
  rw [rtspBodyLength, airplayRtspRequestHeader_contentLength h]
  simp only
  rw [if_neg (by simp [hdigs]), rtspParseDecimal_eq hdigs (by decide),
    contentLengthHeader_value, value_digits, if_pos hle]

lemma contentLengthHeader_sendable {bodyLength : ℕ} (hlt : bodyLength < 10 ^ 7) :
    (contentLengthHeader bodyLength).Sendable where
  name_valid := by
    show rtspValidToken (cstring "Content-Length") = true
    decide
  value_valid := by
    rw [rtspValidHeaderValue, contentLengthHeader_value, all_eq_true]
    intro byte hmem
    have hdigit := isDigit_of_mem_digits bodyLength byte hmem
    unfold Decimal.IsDigit at hdigit
    have hdel : byte ≠ 0x7f := by
      rintro rfl
      simp at hdigit
    simp only [rtspControlCharacter, hdel, decide_false, Bool.or_false, Bool.not_eq_true',
      decide_eq_false_iff_not]
    omega
  name_le := by
    show (cstring "Content-Length").strlen ≤ airplayRtspMaxHeaderNameBytes
    decide
  value_le := by
    have hlen : (digits bodyLength).length ≤ 7 :=
      length_digits_le (by decide) hlt
    rw [strlen, contentLengthHeader_value, airplayRtspMaxHeaderValueBytes]
    omega

lemma contentLengthHeader_received (bodyLength : ℕ) :
    (contentLengthHeader bodyLength).received = contentLengthHeader bodyLength := by
  have hvalue : rtspStripBlanks (contentLengthHeader bodyLength).value.bytes =
      digits bodyLength := by
    rw [contentLengthHeader_value]
    refine rtspStripBlanks_of_no_blank fun byte hmem => ?_
    have hdigit := isDigit_of_mem_digits bodyLength byte hmem
    unfold Decimal.IsDigit at hdigit
    simp only [rtspBlank, Bool.or_eq_false_iff, decide_eq_false_iff_not]
    constructor
    all_goals
      rintro rfl
      simp at hdigit
  rw [received, hvalue]
  rfl

/-! ## The round trip -/

/-- The header section of a request fits the parser: its method, the number of its headers and
its length. -/
structure AirPlayRtspOutboundRequest.WithinParser (request : AirPlayRtspOutboundRequest) :
    Prop where
  method_le : request.method.strlen ≤ airplayRtspMaxMethodBytes
  headers_le : request.sentHeaders.length ≤ airplayRtspMaxHeaders
  section_le : request.headerSection.length ≤ airplayRtspMaxHeaderBytes

/-- The value of a `CSeq` header is a decimal of 32 bits, blanks around it aside. -/
def AirPlayRtspHeader.IsCseqNumber (header : AirPlayRtspHeader) : Prop :=
  rtspDecimalSyntaxValid header.received.value = true ∧
    Decimal.value header.received.value.bytes ≤ 2 ^ 32 - 1

instance (header : AirPlayRtspHeader) : Decidable header.IsCseqNumber :=
  inferInstanceAs (Decidable (_ ∧ _))

/-- The headers an accepted request arrives with. -/
def AirPlayRtspOutboundRequest.receivedHeaders (request : AirPlayRtspOutboundRequest) :
    List AirPlayRtspHeader :=
  request.headers.map AirPlayRtspHeader.received ++ [contentLengthHeader request.body.length]

namespace AirPlayRtspOutboundRequest

variable {request : AirPlayRtspOutboundRequest}

lemma Accepted.sendable_sent (h : request.Accepted) :
    ∀ header ∈ request.sentHeaders, header.Sendable := by
  intro header hmem
  rcases mem_append.mp hmem with hmem | hmem
  · exact h.sendable header hmem
  · rw [mem_singleton.mp hmem]
    exact contentLengthHeader_sendable (h.body_le.trans_lt (by decide))

lemma map_received_sentHeaders (request : AirPlayRtspOutboundRequest) :
    request.sentHeaders.map received = request.receivedHeaders := by
  rw [sentHeaders, receivedHeaders, map_append, map_singleton, contentLengthHeader_received]

lemma Accepted.parseHeaderSection (h : request.Accepted) (hfits : request.WithinParser) :
    rtspParseHeaderSection request.headerSection =
      some (request.method, request.uri, request.protocol, request.receivedHeaders) := by
  have hsec : request.headerSection =
      request.startLine ++ (rtspCrlf ++ (rtspHeaderLines request.sentHeaders ++ rtspCrlf)) := by
    simp [headerSection]
  have hdrop : request.headerSection.drop (request.startLine.length + 2) =
      rtspHeaderLines request.sentHeaders ++ rtspCrlf := by
    have hcrlf : rtspCrlf.length = 2 := rfl
    rw [hsec, ← drop_drop, drop_left, ← hcrlf, drop_left]
  have htake : request.headerSection.take request.startLine.length = request.startLine := by
    rw [hsec, take_left]
  have hfind : rtspFindCrlf request.headerSection = some request.startLine.length := by
    rw [hsec]
    exact rtspFindCrlf_line (startLine_not_cr h) _
  rw [rtspParseHeaderSection, hfind]
  simp only
  rw [htake, hdrop, rtspParseRequestLine_startLine h hfits.method_le]
  rw [rtspParseHeaderLines_lines h.sendable_sent (by simpa using hfits.headers_le)]
  simp only [nil_append, map_received_sentHeaders]

/-- What was accepted and has no `Transfer-Encoding` is unambiguous to the parser. -/
lemma Accepted.unambiguous (h : request.Accepted) (htransfer : ∀ header ∈ request.headers,
      rtspHeaderNameEqual header.name (cstring "Transfer-Encoding") = false) :
    rtspHeadersUnambiguous request.receivedHeaders := by
  refine rtspHeadersUnambiguous_of_distinct ?_ ?_
  · rw [receivedHeaders, pairwise_append]
    refine ⟨pairwise_map.mpr h.distinct, pairwise_singleton _ _, ?_⟩
    intro received hrecv generated hgenerated
    obtain ⟨header, hmem, rfl⟩ := mem_map.mp hrecv
    rw [mem_singleton.mp hgenerated]
    exact h.not_contentLength header hmem
  · intro received hrecv
    rcases mem_append.mp hrecv with hrecv | hgenerated
    · obtain ⟨header, hmem, rfl⟩ := mem_map.mp hrecv
      exact htransfer header hmem
    · rw [mem_singleton.mp hgenerated]
      show rtspHeaderNameEqual (cstring "Content-Length") (cstring "Transfer-Encoding") = false
      decide

/-- A `CSeq` that is a 32-bit decimal, or none at all, satisfies the parser. -/
lemma cseq_received (hcseq : ∀ header ∈ request.headers,
      rtspHeaderNameEqual header.name (cstring "CSeq") → header.IsCseqNumber) :
    ∃ hasCseq cseq, rtspCseq request.receivedHeaders = some (hasCseq, cseq) := by
  cases hfound : airplayRtspRequestHeader request.receivedHeaders (cstring "CSeq") with
  | none => exact ⟨false, 0, by rw [rtspCseq, hfound]⟩
  | some text =>
    obtain ⟨received, hfind, rfl⟩ := Option.map_eq_some_iff.mp hfound
    have hname := find?_some hfind
    rcases mem_append.mp (mem_of_find?_eq_some hfind) with hrecv | hgenerated
    · obtain ⟨header, hmem, rfl⟩ := mem_map.mp hrecv
      obtain ⟨hdigs, hvalue⟩ := hcseq header hmem hname
      refine ⟨true, UInt32.ofNat (value header.received.value.bytes), ?_⟩
      rw [rtspCseq, hfound]
      simp only
      rw [if_neg (by simp [hdigs]), rtspParseDecimal_eq hdigs (by decide), if_pos hvalue,
        Option.map_some]
    · -- the generated header is not the `CSeq`
      rw [mem_singleton.mp hgenerated] at hname
      have hother : rtspHeaderNameEqual (cstring "Content-Length") (cstring "CSeq") = false := by
        decide
      exact nomatch hother.symm.trans hname

end AirPlayRtspOutboundRequest

/-- **The outbound round trip.**  A request that the encoder accepts and whose header section
fits the parser is parsed, as one message, to the request that was sent. -/
theorem airplayRtspParseRequest_of_encode {request : AirPlayRtspOutboundRequest}
    {bytes : List UInt8} (hencode : airplayRtspOutboundRequestEncode request = some bytes)
    (hfits : request.WithinParser) (htransfer : ∀ header ∈ request.headers,
      rtspHeaderNameEqual header.name (cstring "Transfer-Encoding") = false)
    (hcseq : ∀ header ∈ request.headers,
      rtspHeaderNameEqual header.name (cstring "CSeq") = true → header.IsCseqNumber) :
    ∃ hasCseq cseq, airplayRtspParseRequest bytes =
        .ok ⟨request.method, request.uri, request.protocol, request.receivedHeaders,
          request.body, request.body.length, hasCseq, cseq⟩ bytes.length := by
  obtain ⟨haccepted, rfl, hmessage⟩ := airplayRtspOutboundRequestEncode_eq_some hencode
  have hend : rtspFindHeaderEnd (request.headerSection ++ request.body) =
      some request.headerSection.length := by
    have hfind := rtspFindHeaderEnd_section (startLine_not_cr haccepted)
      haccepted.sendable_sent request.body
    have hsection : request.headerSection ++ request.body = request.startLine ++ (rtspCrlf ++
          (rtspHeaderLines request.sentHeaders ++ (rtspCrlf ++ request.body))) := by
      simp [AirPlayRtspOutboundRequest.headerSection]
    rw [hsection, hfind]
    simp only [AirPlayRtspOutboundRequest.headerSection, List.length_append, rtspCrlf,
      List.length_cons, List.length_nil]
  have htotal : ¬ (request.headerSection.length + request.body.length > 2 ^ 64 - 1 ∨
      request.headerSection.length + request.body.length > airplayRtspMaxMessageBytes) := by
    rw [List.length_append] at hmessage
    have hlimit : airplayRtspMaxMessageBytes ≤ 2 ^ 64 - 1 := by decide
    omega
  have hhead : rtspHead request.headerSection =
      .ok ((request.method, request.uri, request.protocol, request.receivedHeaders),
        request.body.length) := by
    have hbody : rtspBodyLength request.receivedHeaders = .ok request.body.length := by
      refine rtspBodyLength_contentLength (fun received hreceived => ?_) haccepted.body_le
      obtain ⟨header, hmem, rfl⟩ := List.mem_map.mp hreceived
      exact haccepted.not_contentLength header hmem
    rw [rtspHead, haccepted.parseHeaderSection hfits]
    simp only
    rw [if_neg (by simp [haccepted.unambiguous htransfer]), hbody]
    simp only
    rw [if_neg htotal]
  obtain ⟨hasCseq, cseq, hnumber⟩ := AirPlayRtspOutboundRequest.cseq_received hcseq
  refine ⟨hasCseq, cseq, ?_⟩
  rw [airplayRtspParseRequest_of_headerEnd hmessage hend, if_neg (Nat.not_lt.mpr hfits.section_le),
    List.take_left, hhead]
  simp only
  rw [if_neg (by rw [List.length_append]; omega), List.drop_left, List.take_length, rtspMessage,
    hnumber, List.length_append]

/-- An event message with a padded `CSeq`. -/
theorem airplayRtspParseRequest_of_encode_event :
    let request : AirPlayRtspOutboundRequest :=
      ⟨cstring "POST", cstring "/event", cstring "HTTP/1.1",
        [⟨cstring "CSeq", cstring " 7\t"⟩], asciiBytes "ok"⟩
    ∃ bytes, airplayRtspOutboundRequestEncode request = some bytes ∧
      ∃ hasCseq cseq, airplayRtspParseRequest bytes =
        .ok ⟨cstring "POST", cstring "/event", cstring "HTTP/1.1", request.receivedHeaders,
          asciiBytes "ok", 2, hasCseq, cseq⟩ bytes.length := by
  intro request
  have hencode : airplayRtspOutboundRequestEncode request = some (asciiBytes
      "POST /event HTTP/1.1\r\nCSeq:  7\t\r\nContent-Length: 2\r\n\r\nok") := by
    decide +kernel
  have hfits : request.WithinParser :=
    ⟨by decide +kernel, by decide +kernel, by decide +kernel⟩
  exact ⟨_, hencode, airplayRtspParseRequest_of_encode hencode hfits (by decide +kernel)
    (by decide +kernel)⟩

end NXCast

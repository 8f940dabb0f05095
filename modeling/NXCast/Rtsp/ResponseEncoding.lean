import NXCast.Framework.Runs
import NXCast.Rtsp.OutboundRoundTrip
import NXCast.Rtsp.Response

/-!
# The response encoder

The calls of `rtsp.c` that build a response, in the order in which they write it, and
`airplay_rtsp_response_encode` with its two passes.  Allocation is an answer of each call.

Whatever the calls and their answers, an encoded response reads back line by line
(`rtspResponse_encoding`): no header holds a carriage return, none is a second `Content-Length`, and the
first empty line is the one in front of the body.
-/

namespace NXCast

open Decimal AirPlayRtspResponse

/-- `AIRPLAY_RTSP_MAX_RESPONSE_MESSAGE_BYTES` -/
def airplayRtspMaxResponseMessageBytes : ℕ := airplayRtspMaxHeaderBytes + airplayRtspMaxResponseBodyBytes

/-- `rtsp_reason_phrase` -/
def rtspReasonPhrase : ℕ → CString
  | 101 => cstring "Switching Protocols"
  | 200 => cstring "OK"
  | 400 => cstring "Bad Request"
  | 405 => cstring "Method Not Allowed"
  | 409 => cstring "Conflict"
  | 404 => cstring "Not Found"
  | 408 => cstring "Request Timeout"
  | 413 => cstring "Content Too Large"
  | 421 => cstring "Misdirected Request"
  | 455 => cstring "Method Not Valid in This State"
  | 461 => cstring "Unsupported Transport"
  | 500 => cstring "Internal Server Error"
  | 501 => cstring "Not Implemented"
  | 503 => cstring "Service Unavailable"
  | _ => cstring "Error"

/-! ## Building -/

/-- `airplay_rtsp_response_set_status`, on a response in memory. -/
def airplayRtspResponseSetStatus (statusCode : ℕ) : StateM AirPlayRtspResponse Bool := do
  if statusCode < 100 ∨ statusCode > 999 then return false
  modify fun response => { response with statusCode }
  return true

/-- `airplay_rtsp_response_init`, on a response in memory. -/
def airplayRtspResponseInit (protocol : CString) (statusCode : ℕ) : StateM AirPlayRtspResponse Bool := do
  if protocol ≠ cstring "RTSP/1.0" ∧ protocol ≠ cstring "HTTP/1.1" then return false
  set (⟨protocol, 0, [], [], false, false⟩ : AirPlayRtspResponse)
  airplayRtspResponseSetStatus statusCode

/-- `airplay_rtsp_response_add_header`, on a response in memory. -/
def airplayRtspResponseAddHeader (name value : CString) : StateM AirPlayRtspResponse Bool := do
  let response ← get
  if rtspValidToken name = false ∨ rtspValidHeaderValue value = false ∨
      rtspHeaderNameEqual name (cstring "Content-Length") = true ∨
      response.headers.length ≥ airplayRtspMaxHeaders then return false
  if name.strlen > airplayRtspMaxHeaderNameBytes ∨
      value.strlen > airplayRtspMaxHeaderValueBytes then return false
  if response.headers.any fun header => rtspHeaderNameEqual header.name name then return false
  modify fun response => { response with headers := response.headers ++ [⟨name, value⟩] }
  return true

/-- `airplay_rtsp_response_set_body`, on a response in memory; `memory` says whether there is room for the
copy of the body. -/
def airplayRtspResponseSetBody (memory : Bool) (body : List UInt8) (contentType : Option CString) :
    StateM AirPlayRtspResponse Bool := do
  if body.length > airplayRtspMaxResponseBodyBytes then return false
  if body.length ≠ 0 ∧ memory = false then return false
  if let some contentType := contentType then
    unless ← airplayRtspResponseAddHeader (cstring "Content-Type") contentType do return false
  modify fun response => { response with body }
  return true

/-- A call that builds a response, and the flag that its owner writes. -/
inductive RtspResponseCall where
  | init (protocol : CString) (statusCode : ℕ)
  | setStatus (statusCode : ℕ)
  | addHeader (name value : CString)
  | setBody (memory : Bool) (body : List UInt8) (contentType : Option CString)
  | closeConnection (close : Bool)

/-- What a call answers, and the response after it. -/
def RtspResponseCall.run : RtspResponseCall → StateM AirPlayRtspResponse Bool
  | init protocol statusCode => airplayRtspResponseInit protocol statusCode
  | setStatus statusCode => airplayRtspResponseSetStatus statusCode
  | addHeader name value => airplayRtspResponseAddHeader name value
  | setBody memory body contentType => airplayRtspResponseSetBody memory body contentType
  | closeConnection close => fun response => (true, { response with closeConnection := close })

namespace AirPlayRtspResponse

variable (response : AirPlayRtspResponse)

/-- A response that `airplay_rtsp_response_init` made and other calls went on with. -/
def Built : Prop :=
  ∃ protocol statusCode first, init protocol statusCode = some first ∧
    Runs.Reachable (fun response call => (RtspResponseCall.run call response).2) first
      (fun _ _ => True) response

/-! ## Encoding -/

/-- The text of the status line. -/
def statusLine : List UInt8 :=
  response.protocol.bytes ++
    0x20 :: (Decimal.digits response.statusCode ++ 0x20 :: (rtspReasonPhrase response.statusCode).bytes)

/-- The header of a response that closes the connection. -/
def connectionClose : List UInt8 := asciiBytes "Connection: close\r\n"

/-- That header in the sizing pass. -/
def sizeClose (total : ℕ) : Option ℕ :=
  if response.closeConnection then rtspSizeAdd total connectionClose.length else some total

/-- That header in the writing pass. -/
def appendClose (outputSize : ℕ) (output : List UInt8) :
    Option (List UInt8) :=
  if response.closeConnection then rtspEncodedAppend outputSize output connectionClose else some output

/-- The sizing pass of `airplay_rtsp_response_encode`. -/
def encodedSize : Option ℕ := do
  let total ← rtspSizeLine 0 response.statusLine
  let total ← response.headers.foldlM (fun total header => rtspSizeLine total header.line) total
  let total ← rtspSizeLine total (contentLengthHeader response.body.length).line
  let total ← response.sizeClose total
  let total ← rtspSizeAdd total 2
  let total ← rtspSizeAdd total response.body.length
  if total > airplayRtspMaxResponseMessageBytes then none else some total

/-- The writing pass of `airplay_rtsp_response_encode`. -/
def encodedBytes (total : ℕ) (response : AirPlayRtspResponse) : Option (List UInt8) := do
  let output ← rtspEncodedAppend total [] (response.statusLine ++ rtspCrlf)
  let output ← response.headers.foldlM
    (fun output header => rtspEncodedAppend total output (header.line ++ rtspCrlf)) output
  let output ← rtspEncodedAppend total output
    ((contentLengthHeader response.body.length).line ++ rtspCrlf)
  let output ← response.appendClose total output
  let output ← rtspEncodedAppend total output rtspCrlf
  let output ← rtspEncodedAppend total output response.body
  if output.length ≠ total then none else some output

end AirPlayRtspResponse

/-- `airplay_rtsp_response_encode` -/
def airplayRtspResponseEncode (memory : Bool) (response : AirPlayRtspResponse) : Option (List UInt8) :=
  if response.statusCode < 100 ∨ response.body.length > airplayRtspMaxResponseBodyBytes then none
  else do
    let total ← response.encodedSize
    if memory = false then none else response.encodedBytes total

/-! ## Reading back -/

/-- The lines in front of the first empty one, and what is behind it. -/
def rtspSplitLines (text : List UInt8) : Option (List (List UInt8) × List UInt8) :=
  match h : rtspFindCrlf text with
  | none => none
  | some 0 => some ([], text.drop 2)
  | some (lineEnd + 1) =>
    (rtspSplitLines (text.drop (lineEnd + 3))).map fun rest =>
      (text.take (lineEnd + 1) :: rest.1, rest.2)
termination_by text.length
decreasing_by
  have hlength := rtspFindCrlf_length h
  rw [List.length_drop]
  omega

/-- Lines that end where they should read back, and so does what is behind the empty line. -/
lemma rtspSplitLines_lines {lines : List (List UInt8)}
    (hlines : ∀ line ∈ lines, line ≠ [] ∧ (0x0d : UInt8) ∉ line) (body : List UInt8) :
    rtspSplitLines ((lines.flatMap fun line => line ++ rtspCrlf) ++ (rtspCrlf ++ body)) =
      some (lines, body) := by
  induction lines with
  | nil =>
    have hfind : rtspFindCrlf (rtspCrlf ++ body) = some 0 :=
      rtspFindCrlf_line List.not_mem_nil body
    rw [List.flatMap_nil, List.nil_append, rtspSplitLines]
    split
    · rename_i hnone
      exact nomatch hfind.symm.trans hnone
    · rfl
    · rename_i lineEnd hsome
      exact absurd (Option.some.inj (hfind.symm.trans hsome)) (Nat.succ_ne_zero lineEnd).symm
  | cons line lines ih =>
    obtain ⟨hne, hcr⟩ := hlines line List.mem_cons_self
    have hrest := ih fun other hother => hlines other (List.mem_cons_of_mem line hother)
    generalize htail : (lines.flatMap fun line => line ++ rtspCrlf) ++ (rtspCrlf ++ body) = tail at hrest
    have htext : (((line :: lines).flatMap fun line => line ++ rtspCrlf) ++ (rtspCrlf ++ body)) =
        line ++ (rtspCrlf ++ tail) := by
      rw [List.flatMap_cons, ← htail]
      simp only [List.append_assoc]
    have hfind := rtspFindCrlf_line hcr tail
    have hpos : 0 < line.length := List.length_pos_iff.mpr hne
    rw [htext, rtspSplitLines]
    split
    · rename_i hnone
      exact nomatch hfind.symm.trans hnone
    · rename_i hzero
      have hlen := Option.some.inj (hfind.symm.trans hzero)
      omega
    rename_i lineEnd hsome
    have hlen : line.length = lineEnd + 1 := Option.some.inj (hfind.symm.trans hsome)
    have hdrop : (line ++ (rtspCrlf ++ tail)).drop (lineEnd + 3) = tail := by
      rw [show lineEnd + 3 = line.length + rtspCrlf.length by rw [hlen]; rfl, ← List.drop_drop,
        List.drop_left, List.drop_left]
    rw [hdrop, hrest, ← hlen, List.take_left]
    rfl

/-! ## What the calls leave -/

/-- A call that answers as a function of the response that changes it on success. -/
lemma setStatus_run (statusCode : ℕ) (response : AirPlayRtspResponse) :
    airplayRtspResponseSetStatus statusCode response =
      match response.setStatus statusCode with
      | some next => (true, next)
      | none => (false, response) := by
  unfold airplayRtspResponseSetStatus setStatus
  split_ifs <;> rfl

lemma addHeader_run (name value : CString) (response : AirPlayRtspResponse) :
    airplayRtspResponseAddHeader name value response =
      match response.addHeader name value with
      | some next => (true, next)
      | none => (false, response) := by
  unfold airplayRtspResponseAddHeader addHeader
  change (StateT.bind _ _ : StateM AirPlayRtspResponse Bool) response = _
  unfold StateT.bind
  dsimp only [get, getThe, MonadStateOf.get, StateT.get, pure, bind]
  split_ifs <;> rfl

lemma setBody_run (memory : Bool) (body : List UInt8) (contentType : Option CString)
    (response : AirPlayRtspResponse) :
    airplayRtspResponseSetBody memory body contentType response =
      if body.length > airplayRtspMaxResponseBodyBytes ∨ (body.length ≠ 0 ∧ memory = false) then
        (false, response)
      else match contentType with
        | none => (true, { response with body })
        | some contentType =>
          match response.addHeader (cstring "Content-Type") contentType with
          | some next => (true, { next with body })
          | none => (false, response) := by
  unfold airplayRtspResponseSetBody
  by_cases hlong : body.length > airplayRtspMaxResponseBodyBytes
  · rw [if_pos (Or.inl hlong), if_pos hlong]
    rfl
  by_cases hroom : body.length ≠ 0 ∧ memory = false
  · rw [if_pos (Or.inr hroom), if_neg hlong, if_pos hroom]
    rfl
  rw [if_neg (not_or.mpr ⟨hlong, hroom⟩), if_neg hlong, if_neg hroom]
  cases contentType with
  | none => rfl
  | some contentType =>
    change (StateT.bind (airplayRtspResponseAddHeader _ _) _ : StateM AirPlayRtspResponse Bool) response = _
    unfold StateT.bind
    rw [addHeader_run]
    dsimp only
    cases response.addHeader (cstring "Content-Type") contentType <;> rfl

namespace AirPlayRtspResponse

/-- What every call keeps: the headers can be sent, one of each name, and none of them is the length of
the body. -/
structure Sound (response : AirPlayRtspResponse) : Prop where
  protocol : response.protocol = cstring "RTSP/1.0" ∨ response.protocol = cstring "HTTP/1.1"
  status : response.statusCode ≤ 999
  count : response.headers.length ≤ airplayRtspMaxHeaders
  sendable : ∀ header ∈ response.headers, header.Sendable
  not_contentLength : ∀ header ∈ response.headers,
    rtspHeaderNameEqual header.name (cstring "Content-Length") = false
  distinct : response.headers.Pairwise fun header later =>
    rtspHeaderNameEqual header.name later.name = false
  body : response.body.length ≤ airplayRtspMaxResponseBodyBytes

variable {response next : AirPlayRtspResponse}

lemma Sound.setStatus (h : response.Sound) {statusCode : ℕ} (hset : response.setStatus statusCode = some next) :
    next.Sound := by
  unfold AirPlayRtspResponse.setStatus at hset
  split_ifs at hset with hrange
  obtain rfl := Option.some.inj hset
  exact { h with status := not_lt.mp (not_or.mp hrange).2 }

lemma sound_blank {protocol : CString}
    (hprot : ¬(protocol ≠ cstring "RTSP/1.0" ∧ protocol ≠ cstring "HTTP/1.1")) :
    Sound ⟨protocol, 0, [], [], false, false⟩ where
  protocol := by
    rw [not_and_or, not_not, not_not] at hprot
    exact hprot
  status := Nat.zero_le _
  count := Nat.zero_le _
  sendable := nofun
  not_contentLength := nofun
  distinct := List.Pairwise.nil
  body := Nat.zero_le _

lemma Sound.addHeader (h : response.Sound) {name value : CString}
    (hadd : response.addHeader name value = some next) :
    next.Sound ∧ next = { response with headers := response.headers ++ [⟨name, value⟩] } := by
  unfold AirPlayRtspResponse.addHeader at hadd
  split_ifs at hadd with hvalid hlen hdouble
  obtain rfl := Option.some.inj hadd
  simp only [not_or, Bool.not_eq_false, Bool.not_eq_true, ge_iff_le, Nat.not_le, gt_iff_lt, Nat.not_lt]
    at hvalid hlen
  obtain ⟨hname, hvalue, hother, hroom⟩ := hvalid
  have hsendable : AirPlayRtspHeader.Sendable ⟨name, value⟩ := ⟨hname, hvalue, hlen.1, hlen.2⟩
  have hfresh : ∀ header ∈ response.headers, rtspHeaderNameEqual header.name name = false := by
    intro header hhead
    by_contra hequal
    rw [Bool.not_eq_false] at hequal
    exact hdouble (List.any_eq_true.mpr ⟨header, hhead, hequal⟩)
  refine ⟨⟨h.protocol, h.status, ?_, fun header hmem => ?_, fun header hmem => ?_, ?_, h.body⟩, rfl⟩
  · rw [List.length_append, List.length_singleton]
    exact hroom
  · rcases List.mem_append.mp hmem with hmem | hmem
    · exact h.sendable header hmem
    · rw [List.mem_singleton.mp hmem]
      exact hsendable
  · rcases List.mem_append.mp hmem with hmem | hmem
    · exact h.not_contentLength header hmem
    · rw [List.mem_singleton.mp hmem]
      exact hother
  · rw [List.pairwise_append]
    refine ⟨h.distinct, List.pairwise_singleton _ _, fun header hhead later hlater => ?_⟩
    rw [List.mem_singleton.mp hlater]
    exact hfresh header hhead

/-- **One call.** -/
lemma Sound.run (h : response.Sound) (call : RtspResponseCall) : (call.run response).2.Sound := by
  cases call with
  | init protocol statusCode =>
    change (airplayRtspResponseInit protocol statusCode response).2.Sound
    unfold airplayRtspResponseInit
    by_cases hprot : protocol ≠ cstring "RTSP/1.0" ∧ protocol ≠ cstring "HTTP/1.1"
    · rw [if_pos hprot]
      exact h
    rw [if_neg hprot]
    change (airplayRtspResponseSetStatus statusCode ⟨protocol, 0, [], [], false, false⟩).2.Sound
    rw [setStatus_run]
    cases hset : AirPlayRtspResponse.setStatus statusCode ⟨protocol, 0, [], [], false, false⟩ with
    | none => exact sound_blank hprot
    | some next => exact (sound_blank hprot).setStatus hset
  | setStatus statusCode =>
    change (airplayRtspResponseSetStatus statusCode response).2.Sound
    rw [setStatus_run]
    cases hset : response.setStatus statusCode with
    | none => exact h
    | some next => exact h.setStatus hset
  | addHeader name value =>
    change (airplayRtspResponseAddHeader name value response).2.Sound
    rw [addHeader_run]
    cases hadd : response.addHeader name value with
    | none => exact h
    | some next => exact (h.addHeader hadd).1
  | setBody memory body contentType =>
    change (airplayRtspResponseSetBody memory body contentType response).2.Sound
    rw [setBody_run]
    split_ifs with hroom
    · exact h
    rw [not_or, not_lt] at hroom
    cases contentType with
    | none => exact { h with body := hroom.1 }
    | some contentType =>
      dsimp only
      cases hadd : response.addHeader (cstring "Content-Type") contentType with
      | none => exact h
      | some next => exact { (h.addHeader hadd).1 with body := hroom.1 }
  | closeConnection close => exact { h with }

lemma Built.sound (h : response.Built) : response.Sound := by
  obtain ⟨protocol, statusCode, first, hinit, hreach⟩ := h
  refine hreach.invariant ?_ fun response call hresp _ => hresp.run call
  unfold init at hinit
  split_ifs at hinit with hprot
  exact (sound_blank hprot).setStatus hinit

/-! ## The two passes -/

/-- The lines of an encoded response. -/
def wireLines (response : AirPlayRtspResponse) : List (List UInt8) :=
  response.statusLine :: (response.headers.map AirPlayRtspHeader.line ++
    (contentLengthHeader response.body.length).line ::
      if response.closeConnection then [asciiBytes "Connection: close"] else [])

/-- An encoded response. -/
def encoding (response : AirPlayRtspResponse) : List UInt8 :=
  (response.wireLines.flatMap fun line => line ++ rtspCrlf) ++ (rtspCrlf ++ response.body)

/-- The close header with its line end, where there is one. -/
def closeText (response : AirPlayRtspResponse) : List UInt8 :=
  if response.closeConnection then connectionClose else []

lemma encoding_eq (response : AirPlayRtspResponse) :
    response.encoding = response.statusLine ++ rtspCrlf ++ rtspHeaderLines response.headers ++
      ((contentLengthHeader response.body.length).line ++ rtspCrlf) ++ response.closeText ++ rtspCrlf ++
        response.body := by
  have hclose : response.closeText =
      (if response.closeConnection then [asciiBytes "Connection: close"] else []).flatMap
        fun line => line ++ rtspCrlf := by
    unfold closeText
    cases response.closeConnection <;> rfl
  rw [encoding, wireLines, List.flatMap_cons, List.flatMap_append, List.flatMap_cons, ← hclose,
    rtspHeaderLines, List.flatMap_map]
  simp only [List.append_assoc]

variable {total : ℕ}

lemma rtspSizeLine_of_fits {line : List UInt8} (hline : (line ++ rtspCrlf).length < rtspLineBytes)
    (htotal : total + rtspLineBytes < 2 ^ 64) :
    rtspSizeLine total line = some (total + (line ++ rtspCrlf).length) := by
  rw [rtspSizeLine, if_neg (not_le.mpr hline), rtspSizeAdd, if_neg]
  omega

variable {headers : List AirPlayRtspHeader}

lemma sizeHeaders_of_fits
    (hheaders : ∀ header ∈ headers, (header.line ++ rtspCrlf).length < rtspLineBytes)
    (htotal : total + headers.length * rtspLineBytes < 2 ^ 64) :
    headers.foldlM (fun total header => rtspSizeLine total header.line) total =
      some (total + (rtspHeaderLines headers).length) := by
  induction headers generalizing total with
  | nil => rfl
  | cons header headers ih =>
    have hfits := hheaders header List.mem_cons_self
    rw [List.length_cons, Nat.succ_mul] at htotal
    have hlines : rtspHeaderLines (header :: headers) =
        header.line ++ rtspCrlf ++ rtspHeaderLines headers := List.flatMap_cons
    have hlen := congrArg List.length hlines
    rw [List.length_append] at hlen
    rw [List.foldlM_cons, rtspSizeLine_of_fits hfits (by omega), Option.bind_eq_bind, Option.bind_some,
      ih (fun other hother => hheaders other (List.mem_cons_of_mem header hother)) (by omega),
      hlen, Nat.add_assoc]

lemma rtspSizeAdd_of_fits {left right : ℕ} (h : left + right < 2 ^ 64) :
    rtspSizeAdd left right = some (left + right) := by
  rw [rtspSizeAdd, if_neg]
  omega

lemma sizeClose_of_fits (h : total + connectionClose.length < 2 ^ 64) :
    response.sizeClose total = some (total + response.closeText.length) := by
  unfold sizeClose closeText
  split_ifs
  · exact rtspSizeAdd_of_fits h
  · rfl

variable {output : List UInt8}

variable {outputSize : ℕ}

lemma rtspEncodedAppend_of_fits {bytes : List UInt8}
    (h : output.length + bytes.length ≤ outputSize) :
    rtspEncodedAppend outputSize output bytes = some (output ++ bytes) := by
  rw [rtspEncodedAppend, if_neg]
  omega

lemma appendHeaders_of_fits
    (h : output.length + (rtspHeaderLines headers).length ≤ outputSize) :
    headers.foldlM (fun output header => rtspEncodedAppend outputSize output (header.line ++ rtspCrlf))
      output = some (output ++ rtspHeaderLines headers) := by
  induction headers generalizing output with
  | nil => rw [rtspHeaderLines, List.flatMap_nil, List.append_nil]; rfl
  | cons header headers ih =>
    have hlines : rtspHeaderLines (header :: headers) =
        header.line ++ rtspCrlf ++ rtspHeaderLines headers := List.flatMap_cons
    rw [hlines, List.length_append] at h
    rw [List.foldlM_cons, rtspEncodedAppend_of_fits (by omega), Option.bind_eq_bind, Option.bind_some, ih,
      hlines, List.append_assoc]
    rw [List.length_append]
    omega

lemma rtspHeaderLines_length_le
    (h : ∀ header ∈ headers, (header.line ++ rtspCrlf).length < rtspLineBytes) :
    (rtspHeaderLines headers).length ≤ headers.length * rtspLineBytes := by
  induction headers with
  | nil => exact Nat.zero_le _
  | cons header headers ih =>
    have hlines : rtspHeaderLines (header :: headers) =
        header.line ++ rtspCrlf ++ rtspHeaderLines headers := List.flatMap_cons
    have hfits := h header List.mem_cons_self
    have hrest := ih fun other hother => h other (List.mem_cons_of_mem header hother)
    rw [hlines, List.length_append, List.length_cons, Nat.succ_mul]
    omega

lemma appendClose_of_fits
    (h : output.length + response.closeText.length ≤ outputSize) :
    response.appendClose outputSize output = some (output ++ response.closeText) := by
  unfold appendClose closeText at *
  split_ifs at h ⊢
  · exact rtspEncodedAppend_of_fits h
  · rw [List.append_nil]

lemma sendable_fits {header : AirPlayRtspHeader} (h : header.Sendable) :
    (header.line ++ rtspCrlf).length < rtspLineBytes := by
  have hname := h.name_le
  have hvalue := h.value_le
  unfold CString.strlen at hname hvalue
  rw [AirPlayRtspHeader.line, rtspLineBytes]
  simp only [List.length_append, List.length_cons, rtspCrlf, List.length_nil]
  omega

lemma reasonPhrase_bounds (statusCode : ℕ) :
    (0x0d : UInt8) ∉ (rtspReasonPhrase statusCode).bytes ∧ (rtspReasonPhrase statusCode).bytes.length < 64 := by
  unfold rtspReasonPhrase
  split <;> decide

lemma Sound.statusLine_fits (h : response.Sound) :
    (response.statusLine ++ rtspCrlf).length < rtspLineBytes := by
  have hreason := (reasonPhrase_bounds response.statusCode).2
  have hdigs : (digits response.statusCode).length ≤ 3 :=
    length_digits_le (by decide) (Nat.lt_succ_of_le h.status)
  have hprot : response.protocol.bytes.length = 8 := by
    rcases h.protocol with hprot | hprot <;> rw [hprot] <;> decide
  rw [statusLine, rtspLineBytes, airplayRtspMaxHeaderNameBytes, airplayRtspMaxHeaderValueBytes]
  simp only [List.length_append, List.length_cons, rtspCrlf, List.length_nil, hprot]
  omega

lemma Sound.encodedSize_eq (h : response.Sound) :
    response.encodedSize = if response.encoding.length > airplayRtspMaxResponseMessageBytes then none
      else some response.encoding.length := by
  have hheaders : ∀ header ∈ response.headers, (header.line ++ rtspCrlf).length < rtspLineBytes :=
    fun header hmem => sendable_fits (h.sendable header hmem)
  have hcount := h.count
  have hbody := h.body
  have hstat := h.statusLine_fits
  have hlen : ((contentLengthHeader response.body.length).line ++ rtspCrlf).length < rtspLineBytes :=
    sendable_fits (contentLengthHeader_sendable (by
      unfold airplayRtspMaxResponseBodyBytes at hbody
      omega))
  have hsec : (rtspHeaderLines response.headers).length ≤ airplayRtspMaxHeaders * rtspLineBytes := by
    refine (rtspHeaderLines_length_le hheaders).trans (Nat.mul_le_mul_right _ hcount)
  have hlimits : airplayRtspMaxHeaders * rtspLineBytes = 48 * 2118 ∧ rtspLineBytes = 2118 ∧
      airplayRtspMaxResponseBodyBytes = 4194304 ∧ connectionClose.length = 19 := ⟨rfl, rfl, rfl, rfl⟩
  have hmul : response.headers.length * rtspLineBytes ≤ airplayRtspMaxHeaders * rtspLineBytes :=
    Nat.mul_le_mul_right _ hcount
  have hclose : response.closeText.length ≤ 19 := by
    unfold closeText
    split_ifs <;> decide
  have hencoding : 0 + (response.statusLine ++ rtspCrlf).length +
      (rtspHeaderLines response.headers).length +
        ((contentLengthHeader response.body.length).line ++ rtspCrlf).length +
          response.closeText.length + 2 + response.body.length = response.encoding.length := by
    rw [encoding_eq]
    simp only [List.length_append, rtspCrlf, List.length_cons, List.length_nil]
    omega
  unfold encodedSize
  rw [rtspSizeLine_of_fits hstat (by omega), Option.bind_eq_bind, Option.bind_some,
    sizeHeaders_of_fits hheaders (by omega)]
  change Option.bind (rtspSizeLine _ _) _ = _
  rw [rtspSizeLine_of_fits hlen (by omega)]
  change Option.bind (response.sizeClose _) _ = _
  rw [sizeClose_of_fits (by omega)]
  change Option.bind (rtspSizeAdd _ _) _ = _
  rw [rtspSizeAdd_of_fits (by omega)]
  change Option.bind (rtspSizeAdd _ _) _ = _
  rw [rtspSizeAdd_of_fits (by omega), Option.bind_some, hencoding]

lemma encodedBytes_eq (response : AirPlayRtspResponse) :
    response.encodedBytes response.encoding.length = some response.encoding := by
  have hencoding := congrArg List.length response.encoding_eq
  simp only [List.length_append] at hencoding
  unfold encodedBytes
  rw [rtspEncodedAppend_of_fits (by simp only [List.length_nil, List.length_append]; omega),
    Option.bind_eq_bind, Option.bind_some, List.nil_append,
    appendHeaders_of_fits (by simp only [List.length_append]; omega)]
  change Option.bind (rtspEncodedAppend _ _ _) _ = _
  rw [rtspEncodedAppend_of_fits (by simp only [List.length_append]; omega)]
  change Option.bind (response.appendClose _ _) _ = _
  rw [appendClose_of_fits (by simp only [List.length_append]; omega)]
  change Option.bind (rtspEncodedAppend _ _ _) _ = _
  rw [rtspEncodedAppend_of_fits (by simp only [List.length_append]; omega)]
  change Option.bind (rtspEncodedAppend _ _ _) _ = _
  rw [rtspEncodedAppend_of_fits (by simp only [List.length_append]; omega), ← encoding_eq,
    Option.bind_some, if_neg (not_not_intro rfl)]

/-- **What is encoded.** -/
lemma Sound.encode_eq (h : response.Sound) (memory : Bool) :
    airplayRtspResponseEncode memory response =
      if response.statusCode < 100 ∨ response.encoding.length > airplayRtspMaxResponseMessageBytes ∨
          memory = false then none else some response.encoding := by
  unfold airplayRtspResponseEncode
  by_cases hstat : response.statusCode < 100
  · rw [if_pos (.inl hstat), if_pos (.inl hstat)]
  rw [if_neg (not_or.mpr ⟨hstat, not_lt.mpr h.body⟩), h.encodedSize_eq]
  by_cases hlong : response.encoding.length > airplayRtspMaxResponseMessageBytes
  · rw [if_pos hlong, if_pos (.inr (.inl hlong))]
    rfl
  rw [if_neg hlong, Option.bind_eq_bind, Option.bind_some, encodedBytes_eq]
  cases memory with
  | false => rw [if_pos rfl, if_pos (.inr (.inr rfl))]
  | true => rw [if_neg nofun, if_neg (by simp [hstat, hlong])]

lemma Sound.wireLines_clean (h : response.Sound) :
    ∀ line ∈ response.wireLines, line ≠ [] ∧ (0x0d : UInt8) ∉ line := by
  intro line hline
  rw [wireLines, List.mem_cons, List.mem_append, List.mem_cons] at hline
  rcases hline with rfl | hhead | rfl | hclose
  · refine ⟨fun hnil => ?_, ?_⟩
    · rw [statusLine] at hnil
      exact List.cons_ne_nil _ _ (List.append_eq_nil_iff.mp hnil).2
    have hprot : (0x0d : UInt8) ∉ response.protocol.bytes := by
      rcases h.protocol with hprot | hprot <;> rw [hprot] <;> decide
    have hdigs : (0x0d : UInt8) ∉ digits response.statusCode := by
      intro hmem
      exact absurd (isDigit_of_mem_digits _ _ hmem).1 (by decide)
    have hreason := (reasonPhrase_bounds response.statusCode).1
    rw [statusLine]
    simp [hprot, hdigs, hreason]
  · obtain ⟨header, hmem, rfl⟩ := List.mem_map.mp hhead
    exact ⟨header.line_ne_nil, (h.sendable header hmem).line_not_cr⟩
  · have hbody := h.body
    have hsendable : (contentLengthHeader response.body.length).Sendable :=
      contentLengthHeader_sendable (by
        unfold airplayRtspMaxResponseBodyBytes at hbody
        omega)
    exact ⟨AirPlayRtspHeader.line_ne_nil _, hsendable.line_not_cr⟩
  · split_ifs at hclose
    · rw [List.mem_singleton.mp hclose]
      decide
    · exact absurd hclose List.not_mem_nil

end AirPlayRtspResponse

open AirPlayRtspResponse

/-- **Response encoding.** Both passes come to one length, and what is sent splits at its line ends into the
status line, the added headers in their order, the length of the body, the close header where it was asked
for, the empty line and the body.  A call that fails leaves the response as it was, and one that succeeds
adds its header behind the others. -/
theorem rtspResponse_encoding {response : AirPlayRtspResponse} (h : response.Built) :
    (∀ total, response.encodedSize = some total →
      ∃ bytes, response.encodedBytes total = some bytes ∧ bytes.length = total) ∧
    (∀ memory bytes, airplayRtspResponseEncode memory response = some bytes →
      rtspSplitLines bytes = some (response.statusLine :: (response.headers.map AirPlayRtspHeader.line ++
        (contentLengthHeader response.body.length).line ::
          if response.closeConnection then [asciiBytes "Connection: close"] else []), response.body)) ∧
    (∀ header ∈ response.headers,
      rtspHeaderNameEqual header.name (cstring "Content-Length") = false) ∧
    (∀ name value, ∃ answer next, airplayRtspResponseAddHeader name value response = (answer, next) ∧
      next = if answer then { response with headers := response.headers ++ [⟨name, value⟩] } else response) ∧
    ∀ memory body contentType, ∃ answer next,
      airplayRtspResponseSetBody memory body contentType response = (answer, next) ∧
      next = if answer then
          { response with
            body
            headers := response.headers ++
              contentType.toList.map fun value => ⟨cstring "Content-Type", value⟩ }
        else response := by
  have hsound := h.sound
  refine ⟨fun total htotal => ?_, fun memory bytes hbytes => ?_, hsound.not_contentLength,
    fun name value => ?_, fun memory body contentType => ?_⟩
  · rw [hsound.encodedSize_eq] at htotal
    split_ifs at htotal
    obtain rfl := Option.some.inj htotal
    exact ⟨response.encoding, response.encodedBytes_eq, rfl⟩
  · rw [hsound.encode_eq] at hbytes
    split_ifs at hbytes
    obtain rfl := Option.some.inj hbytes
    exact rtspSplitLines_lines hsound.wireLines_clean response.body
  · rw [addHeader_run]
    cases hadd : response.addHeader name value with
    | none => exact ⟨false, response, rfl, rfl⟩
    | some next => exact ⟨true, next, rfl, (hsound.addHeader hadd).2⟩
  rw [setBody_run]
  split_ifs
  · exact ⟨false, response, rfl, rfl⟩
  cases contentType with
  | none =>
    refine ⟨true, _, rfl, ?_⟩
    simp
  | some contentType =>
    dsimp only
    cases hadd : response.addHeader (cstring "Content-Type") contentType with
    | none => exact ⟨false, response, rfl, rfl⟩
    | some next =>
      refine ⟨true, _, rfl, ?_⟩
      rw [(hsound.addHeader hadd).2]
      rfl

/-- A response to a numbered request whose body looks like the end of a header section. -/
def cseqCalls : List RtspResponseCall :=
  [.addHeader (cstring "CSeq") (cstring "1"), .setBody true rtspCrlf (some (cstring "text/plain")),
    .closeConnection true]

theorem rtspResponse_encoding_cseq :
    ∃ bytes, (airplayRtspResponseEncode true (Runs.run (fun response call => (call.run response).2)
        ⟨cstring "RTSP/1.0", 200, [], [], false, false⟩ cseqCalls)) = some bytes ∧
      rtspSplitLines bytes = some ([asciiBytes "RTSP/1.0 200 OK", asciiBytes "CSeq: 1",
        asciiBytes "Content-Type: text/plain", asciiBytes "Content-Length: 2",
        asciiBytes "Connection: close"], rtspCrlf) := by
  obtain ⟨bytes, hbytes⟩ := Option.isSome_iff_exists.mp (show (airplayRtspResponseEncode true
    (Runs.run (fun response call => (RtspResponseCall.run call response).2)
      ⟨cstring "RTSP/1.0", 200, [], [], false, false⟩ cseqCalls)).isSome = true by decide +kernel)
  have hbuilt : Built (Runs.run (fun response call => (RtspResponseCall.run call response).2)
      ⟨cstring "RTSP/1.0", 200, [], [], false, false⟩ cseqCalls) :=
    ⟨cstring "RTSP/1.0", 200, _, rfl, Runs.Reachable.start.run cseqCalls⟩
  refine ⟨bytes, hbytes, ((rtspResponse_encoding hbuilt).2.1 true bytes hbytes).trans ?_⟩
  decide +kernel

end NXCast

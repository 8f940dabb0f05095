import NXCast.Rtsp.Request

/-!
# RTSP and HTTP responses

The part of `rtsp.c` that builds a response: its status, headers and body.  The reason phrase
is a function of the status and is left out.
-/

namespace NXCast

/-- `AIRPLAY_RTSP_MAX_RESPONSE_BODY_BYTES` -/
def airplayRtspMaxResponseBodyBytes : ℕ := 4 * 1024 * 1024

/-- `AirPlayRtspResponse` -/
structure AirPlayRtspResponse where
  protocol : CString
  statusCode : ℕ
  headers : List AirPlayRtspHeader
  body : List UInt8
  closeConnection : Bool
  registerReverseConnection : Bool
deriving DecidableEq

namespace AirPlayRtspResponse

/-- `airplay_rtsp_response_set_status` -/
def setStatus (statusCode : ℕ) (response : AirPlayRtspResponse) : Option AirPlayRtspResponse :=
  if statusCode < 100 ∨ statusCode > 999 then none else some { response with statusCode }

/-- `airplay_rtsp_response_init` -/
def init (protocol : CString) (statusCode : ℕ) : Option AirPlayRtspResponse :=
  if protocol ≠ cstring "RTSP/1.0" ∧ protocol ≠ cstring "HTTP/1.1" then none
  else setStatus statusCode ⟨protocol, 0, [], [], false, false⟩

/-- `airplay_rtsp_response_add_header` -/
def addHeader (name value : CString) (response : AirPlayRtspResponse) :
    Option AirPlayRtspResponse :=
  if rtspValidToken name = false ∨ rtspValidHeaderValue value = false ∨
      rtspHeaderNameEqual name (cstring "Content-Length") = true ∨
      response.headers.length ≥ airplayRtspMaxHeaders then none
  else if name.strlen > airplayRtspMaxHeaderNameBytes ∨
      value.strlen > airplayRtspMaxHeaderValueBytes then none
  else if response.headers.any fun header => rtspHeaderNameEqual header.name name then none
  else some { response with headers := response.headers ++ [⟨name, value⟩] }

/-- `airplay_rtsp_response_set_body`, with a content type. -/
def setBody (body : List UInt8) (contentType : CString) (response : AirPlayRtspResponse) :
    Option AirPlayRtspResponse :=
  if body.length > airplayRtspMaxResponseBodyBytes then none
  else (response.addHeader (cstring "Content-Type") contentType).map fun response =>
    { response with body }

/-- A connection closes after the response. -/
def close (response : AirPlayRtspResponse) : AirPlayRtspResponse :=
  { response with closeConnection := true }

/-- A header that can be sent is added where there is room and none of its name. -/
lemma addHeader_eq_some {name value : CString} {response : AirPlayRtspResponse}
    (hname : rtspValidToken name ∧ name.strlen ≤ airplayRtspMaxHeaderNameBytes ∧
      rtspHeaderNameEqual name (cstring "Content-Length") = false)
    (hvalue : rtspValidHeaderValue value ∧ value.strlen ≤ airplayRtspMaxHeaderValueBytes)
    (hroom : response.headers.length < airplayRtspMaxHeaders)
    (hfresh : ∀ header ∈ response.headers, rtspHeaderNameEqual header.name name = false) :
    response.addHeader name value =
      some { response with headers := response.headers ++ [⟨name, value⟩] } := by
  have hany : (response.headers.any fun header => rtspHeaderNameEqual header.name name) = false := by
    rw [List.any_eq_false]
    intro header hhead
    rw [hfresh header hhead]
    exact Bool.false_ne_true
  unfold addHeader
  rw [if_neg, if_neg, if_neg]
  · rw [hany]
    exact Bool.false_ne_true
  · rw [not_or, not_lt, not_lt]
    exact ⟨hname.2.1, hvalue.2⟩
  · simp only [hname.1, hvalue.1, hname.2.2]
    simpa using hroom

end AirPlayRtspResponse

/-- `content_type_is`, by `strncasecmp`. -/
def contentTypeIs (request : AirPlayRtspRequest) (expected : String) : Bool :=
  match airplayRtspRequestHeader request.headers (cstring "Content-Type") with
  | none => false
  | some value =>
    decide ((value.bytes.take (asciiBytes expected).length).map tolower =
        (asciiBytes expected).map tolower) &&
      ((value.bytes.drop (asciiBytes expected).length).head?.all fun byte => byte = 0x3b)

end NXCast

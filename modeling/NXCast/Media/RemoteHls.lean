import NXCast.Media.HlsMaster
import NXCast.Plist.Decode

/-!
# The remote HLS store

The state of `remote_hls.c` and its operations.  A sender that plays an HLS item hands its
playlists over one by one: `airplay_remote_hls_begin` asks for the master playlist, each
accepted response is answered with the request for the next media playlist, and the last one
makes the store ready.  From then on it serves the playlists to the local player.

Counters and flags that only reach the trace are left out, and so are the entries of the media
array beyond `media_count`.  An action is returned together with its result; a cleared event is
`none`.
-/

namespace NXCast

open List Decimal

/-- `AIRPLAY_REMOTE_HLS_LOCAL_PREFIX` -/
def airplayRemoteHlsLocalPrefix : List UInt8 := asciiBytes "/airplay-hls/"

/-- `AIRPLAY_REMOTE_HLS_CONTENT_TYPE` -/
def airplayRemoteHlsContentType : CString := cstring "application/vnd.apple.mpegurl"

/-- `AirPlayRemoteHls` -/
structure AirPlayRemoteHls where
  sessionId : UInt64
  generation : UInt32
  nextRequestId : UInt32
  expectedRequestId : UInt32
  controlPort : UInt16
  pendingMediaIndex : ℕ
  token : List UInt8
  appleSessionId : List UInt8
  masterSource : List UInt8
  expectedUrl : List UInt8
  playbackUrl : List UInt8
  masterPlaylist : Option (List UInt8)
  media : List AirPlayRemoteHlsMedia
  active : Bool
  expectingMaster : Bool
deriving DecidableEq

/-- A store as `airplay_remote_hls_create` makes it and `hls_reset_locked` leaves it. -/
def AirPlayRemoteHls.cleared : AirPlayRemoteHls :=
  ⟨0, 0, 0, 0, 0, 0, [], [], [], [], [], none, [], false, false⟩

/-- `AirPlayRemoteHlsEvent` -/
structure AirPlayRemoteHlsEvent where
  requestId : UInt32
  appleSessionId : List UInt8
  body : List UInt8
deriving DecidableEq

/-- `AirPlayRemoteHlsActionKind` -/
inductive AirPlayRemoteHlsActionKind where
  | ack
  | requestNext
  | ready
deriving DecidableEq

/-- `AirPlayRemoteHlsActionResult` -/
inductive AirPlayRemoteHlsActionResult where
  | ok
  | badContentType
  | invalidArgument
  | plistDecode
  | badShape
  | badStatus
  | badRequestId
  | badUrlOrData
  | badPlaylist
  | sessionMismatch
  | requestMismatch
  | urlMismatch
  | rewriteFailed
  | badState
deriving DecidableEq

/-- `AirPlayRemoteHlsAction` -/
structure AirPlayRemoteHlsAction where
  kind : AirPlayRemoteHlsActionKind
  generation : UInt32
  event : Option AirPlayRemoteHlsEvent
  playbackUrl : List UInt8
deriving DecidableEq

/-- The action after `memset`. -/
def AirPlayRemoteHlsAction.zero : AirPlayRemoteHlsAction := ⟨.ack, 0, none, []⟩

/-! ## Requests to the sender -/

/-- The text `hls_xml_append_escaped` appends. -/
def hlsXmlEscaped (text : List UInt8) : List UInt8 :=
  text.flatMap fun character =>
    if character = 0x26 then asciiBytes "&amp;"
    else if character = 0x3c then asciiBytes "&lt;"
    else if character = 0x3e then asciiBytes "&gt;"
    else if character = 0x22 then asciiBytes "&quot;"
    else if character = 0x27 then asciiBytes "&apos;"
    else [character]

/-- The bytes of the lines of a long literal. -/
def literalBytes (lines : List String) : List UInt8 :=
  lines.flatMap fun line => line.toUTF8.data.toList

/-- The text of `hls_build_event_body` up to the request id. -/
def hlsEventHead : List UInt8 :=
  literalBytes
    ["<?xml version=\"1.0\" encoding=\"UTF-8\"?>\n",
      "<!DOCTYPE plist PUBLIC \"-//Apple//DTD PLIST 1.0//EN\" ",
      "\"http://www.apple.com/DTDs/PropertyList-1.0.dtd\">\n",
      "<plist version=\"1.0\"><dict>",
      "<key>sessionID</key><integer>1</integer>",
      "<key>type</key><string>unhandledURLRequest</string>",
      "<key>request</key><dict>",
      "<key>FCUP_Response_ClientInfo</key><integer>1</integer>",
      "<key>FCUP_Response_ClientRef</key><integer>40030004</integer>",
      "<key>FCUP_Response_RequestID</key><integer>"]

/-- The text between the request id and the URL. -/
def hlsEventRequestUrl : List UInt8 :=
  literalBytes ["</integer><key>FCUP_Response_URL</key><string>"]

/-- The text between the URL and the Apple session id. -/
def hlsEventHeaders : List UInt8 :=
  literalBytes
    ["</string><key>sessionID</key><integer>1</integer>",
      "<key>FCUP_Response_Headers</key><dict>",
      "<key>X-Playback-Session-Id</key><string>"]

/-- The text behind the Apple session id. -/
def hlsEventTail : List UInt8 :=
  literalBytes
    ["</string><key>User-Agent</key>",
      "<string>AppleCoreMedia/1.0.0.11B554a (Apple TV; U; CPU OS 7_0_4 ",
      "like Mac OS X; en_us)</string></dict></dict></dict></plist>\n"]

/-- `hls_build_event_body` -/
def hlsBuildEventBody (url : List UInt8) (requestId : UInt32) (appleSessionId : List UInt8) :
    Option (List UInt8) :=
  hlsBuffer (64 * 1024) (hlsEventHead ++ Decimal.digits requestId.toNat ++ hlsEventRequestUrl ++
    hlsXmlEscaped url ++ hlsEventHeaders ++ hlsXmlEscaped appleSessionId ++ hlsEventTail)

/-- The request id after `previous`; zero is skipped. -/
def hlsNextRequestId (previous : UInt32) : UInt32 :=
  if previous + 1 = 0 then previous + 1 + 1 else previous + 1

/-- `hls_prepare_event_locked` -/
def hlsPrepareEvent (url : List UInt8) (hls : AirPlayRemoteHls) :
    AirPlayRemoteHls × Option AirPlayRemoteHlsEvent :=
  if hls.active = false then (hls, none)
  else
    let requestId := hlsNextRequestId hls.nextRequestId
    match hlsCopy (airplayRemoteHlsUrlMax + 1) url with
    | none => ({ hls with nextRequestId := requestId }, none)
    | some expectedUrl =>
      match hlsCopy (airplayRemoteHlsAppleSessionMax + 1) hls.appleSessionId,
          hlsBuildEventBody url requestId hls.appleSessionId with
      | some appleSessionId, some body =>
        ({ hls with nextRequestId := requestId, expectedUrl, expectedRequestId := requestId },
          some ⟨requestId, appleSessionId, body⟩)
      | _, _ => ({ hls with nextRequestId := requestId, expectedUrl }, none)

/-! ## A new exchange -/

/-- `airplay_remote_hls_locator_supported` -/
def airplayRemoteHlsLocatorSupported (locator : List UInt8) : Bool :=
  hlsTextSafe locator airplayRemoteHlsUrlMax &&
    !startsWithCase locator "http://" && !startsWithCase locator "https://" &&
    match TextSearch.first (asciiBytes "/master.m3u8") locator with
    | none => false
    | some master => (locator.drop (master + 12)).head?.all fun byte => byte = 0x3f || byte = 0x23

/-- The hexadecimal digit of a number below 16. -/
def hlsHexDigit (digit : ℕ) : UInt8 := UInt8.ofNat (if digit < 10 then 0x30 + digit else 0x57 + digit)

/-- `value` printed in `width` hexadecimal digits. -/
def hlsHex (width value : ℕ) : List UInt8 :=
  (List.range width).map fun i => hlsHexDigit (value / 16 ^ (width - 1 - i) % 16)

variable (sessionId : UInt64)

variable (generation : UInt32)

/-- The token of a session and a generation. -/
def hlsToken : List UInt8 :=
  hlsHex 16 sessionId.toNat ++ asciiBytes "-" ++ hlsHex 8 generation.toNat

/-- `airplay_remote_hls_begin`; no event stands for the result `false`. -/
def airplayRemoteHlsBegin (controlPort : UInt16)
    (appleSessionId locator : List UInt8) (hls : AirPlayRemoteHls) :
    AirPlayRemoteHls × Option AirPlayRemoteHlsEvent :=
  if sessionId = 0 ∨ generation = 0 ∨ controlPort = 0 ∨
      hlsTextSafe appleSessionId airplayRemoteHlsAppleSessionMax = false ∨
      airplayRemoteHlsLocatorSupported locator = false then (hls, none)
  else
    let token := hlsToken sessionId generation
    let playbackUrl := asciiBytes "http://127.0.0.1:" ++ Decimal.digits controlPort.toNat ++
      airplayRemoteHlsLocalPrefix ++ token ++ asciiBytes "/master.m3u8"
    match hlsPrint airplayRemoteHlsTokenMax token,
        hlsCopy (airplayRemoteHlsAppleSessionMax + 1) appleSessionId,
        hlsCopy (airplayRemoteHlsUrlMax + 1) locator,
        hlsPrint airplayRemoteHlsLocalUrlMax playbackUrl with
    | some token, some appleSessionId, some masterSource, some playbackUrl =>
      match hlsPrepareEvent locator { AirPlayRemoteHls.cleared with
        sessionId, generation, controlPort, token, appleSessionId, masterSource, playbackUrl
        active := true
        expectingMaster := true } with
      | (hls, some event) => (hls, some event)
      | (_, none) => (.cleared, none)
    | _, _, _, _ => (.cleared, none)

/-- `airplay_remote_hls_reset` -/
def airplayRemoteHlsReset (hls : AirPlayRemoteHls) :
    AirPlayRemoteHls :=
  if (sessionId = 0 ∨ hls.sessionId = sessionId) ∧
      (generation = 0 ∨ hls.generation = generation) then .cleared
  else hls

/-! ## Responses of the sender -/

/-- A playlist the sender hands over. -/
structure HlsResponse where
  requestId : UInt32
  url : List UInt8
  playlist : List UInt8
deriving DecidableEq

/-- The part of `airplay_remote_hls_handle_action` in front of the lock: an action of another
type than `unhandledURLResponse` is acknowledged and holds no response.  An empty data block has
no bytes to point to. -/
def hlsReadAction (body : List UInt8) :
    Except AirPlayRemoteHlsActionResult (Option HlsResponse) :=
  if sessionId = 0 ∨ body = [] then .error .invalidArgument
  else
    match airplayPlistDecode body with
    | .ok (.dict entries) =>
      match (airplayPlistDictGet (.dict entries) (cstring "type")).bind airplayPlistGetString,
          airplayPlistDictGet (.dict entries) (cstring "params") with
      | some type, some (.dict params) =>
        if type ≠ cstring "unhandledURLResponse" then .ok none
        else
          match (airplayPlistDictGet (.dict params)
              (cstring "FCUP_Response_RequestID")).bind airplayPlistGetUint with
          | none => .error .badRequestId
          | some requestId =>
            if requestId = 0 ∨ requestId.toNat > 2 ^ 32 - 1 then .error .badRequestId
            else
              match (airplayPlistDictGet (.dict params)
                    (cstring "FCUP_Response_URL")).bind airplayPlistGetString,
                  (airplayPlistDictGet (.dict params)
                    (cstring "FCUP_Response_Data")).bind airplayPlistGetData with
              | some url, some (byte :: bytes) =>
                if hlsPlaylistValid (byte :: bytes) = false then .error .badPlaylist
                else .ok (some ⟨requestId.toUInt32, url.bytes, byte :: bytes⟩)
              | _, _ => .error .badUrlOrData
      | _, _ => .error .badShape
    | _ => .error .plistDecode

/-- A playlist is rewritten and stored; a result other than `none` is the reason why not. -/
def hlsStorePlaylist (playlist : List UInt8) (hls : AirPlayRemoteHls) :
    AirPlayRemoteHls × Option AirPlayRemoteHlsActionResult :=
  if hls.expectingMaster then
    match hlsRewriteMaster hls.masterSource playlist with
    | .error _ scan => ({ hls with media := scan.media }, some .rewriteFailed)
    | .ok _ scan =>
      -- a master without media playlists is a media playlist itself
      match (if scan.media = [] then hlsRewriteMedia hls.masterSource playlist
        else some scan.output) with
      | none => ({ hls with media := scan.media }, some .rewriteFailed)
      | some rewritten =>
        ({ hls with
            media := scan.media
            masterPlaylist := some rewritten
            expectingMaster := false
            pendingMediaIndex := 0 }, none)
  else
    match hls.media[hls.pendingMediaIndex]? with
    | none => (hls, some .badState)
    | some media =>
      match hlsRewriteMedia media.sourceUrl playlist with
      | none => (hls, some .rewriteFailed)
      | some rewritten =>
        ({ hls with
            media := hls.media.set hls.pendingMediaIndex { media with playlist := some rewritten }
            pendingMediaIndex := hls.pendingMediaIndex + 1 }, none)

/-- What follows on a stored playlist: the request for the next one, or the store is ready. -/
def hlsContinue (action : AirPlayRemoteHlsAction) (hls : AirPlayRemoteHls) :
    AirPlayRemoteHls × AirPlayRemoteHlsAction × AirPlayRemoteHlsActionResult :=
  match hls.media[hls.pendingMediaIndex]? with
  | some media =>
    match hlsPrepareEvent media.sourceUrl hls with
    | (hls, none) => (hls, action, .rewriteFailed)
    | (hls, some event) => (hls, { action with kind := .requestNext, event := some event }, .ok)
  | none =>
    match hlsCopy (airplayRemoteHlsLocalUrlMax + 1) hls.playbackUrl with
    | none => (hls, action, .badState)
    | some playbackUrl =>
      ({ hls with expectedRequestId := 0, expectedUrl := [] },
        { action with kind := .ready, playbackUrl }, .ok)

/-- The part of `airplay_remote_hls_handle_action` under the lock. -/
def hlsTakeResponse (response : HlsResponse) (hls : AirPlayRemoteHls) :
    AirPlayRemoteHls × AirPlayRemoteHlsAction × AirPlayRemoteHlsActionResult :=
  if hls.active = false ∨ hls.sessionId ≠ sessionId then (hls, .zero, .sessionMismatch)
  else if hls.expectedRequestId ≠ response.requestId then (hls, .zero, .requestMismatch)
  else if hls.expectedUrl ≠ response.url then (hls, .zero, .urlMismatch)
  else
    let action := { AirPlayRemoteHlsAction.zero with generation := hls.generation }
    match hlsStorePlaylist response.playlist hls with
    | (hls, some result) => (hls, action, result)
    | (hls, none) => hlsContinue action hls

/-- `airplay_remote_hls_handle_action` -/
def airplayRemoteHlsHandleAction (body : List UInt8)
    (hls : AirPlayRemoteHls) :
    AirPlayRemoteHls × AirPlayRemoteHlsAction × AirPlayRemoteHlsActionResult :=
  match hlsReadAction sessionId body with
  | .error result => (hls, .zero, result)
  | .ok none => (hls, .zero, .ok)
  | .ok (some response) => hlsTakeResponse sessionId response hls

/-! ## Serving -/

/-- `airplay_remote_hls_is_local_uri` -/
def airplayRemoteHlsIsLocalUri (uri : List UInt8) : Bool :=
  airplayRemoteHlsLocalPrefix.isPrefixOf uri

/-- The URI of what a store serves under `name`, where it fits into the array it is printed
to. -/
def hlsServedUri (token name : List UInt8) : Option (List UInt8) :=
  hlsPrint airplayRemoteHlsLocalUrlMax
    (airplayRemoteHlsLocalPrefix ++ token ++ asciiBytes "/" ++ name)

/-- The loop of `airplay_remote_hls_serve` over the media from an index on. -/
def hlsFindMedia (token uri : List UInt8) : ℕ → List AirPlayRemoteHlsMedia → Option (List UInt8)
  | _, [] => none
  | index, media :: rest =>
    if hlsServedUri token (hlsLocalMediaUri index) = some uri then media.playlist
    else hlsFindMedia token uri (index + 1) rest

/-- The playlist a URI names. -/
def hlsPlaylistAt (uri : List UInt8) (hls : AirPlayRemoteHls) : Option (List UInt8) :=
  if hlsServedUri hls.token (asciiBytes "master.m3u8") = some uri then hls.masterPlaylist
  else hlsFindMedia hls.token uri 0 hls.media

/-- `airplay_remote_hls_serve`: whether the request was for the store, and the response; `none`
stands for the result `false`. -/
def airplayRemoteHlsServe (hls : AirPlayRemoteHls) (request : AirPlayRtspRequest)
    (response : AirPlayRtspResponse) : Option (Bool × AirPlayRtspResponse) :=
  if airplayRemoteHlsIsLocalUri request.uri.bytes = false then some (false, response)
  else
    let response := response.close
    if request.method ≠ cstring "GET" then (response.setStatus 405).map (true, ·)
    else if hls.active = false then (response.setStatus 404).map (true, ·)
    else
      match hlsPlaylistAt request.uri.bytes hls with
      | none => (response.setStatus 404).map (true, ·)
      | some playlist =>
        ((response.setBody playlist airplayRemoteHlsContentType).bind
          (·.addHeader (cstring "Cache-Control") (cstring "no-store"))).map (true, ·)

/-! ## Requests always fit -/

lemma length_hlsXmlEscaped_le (text : List UInt8) :
    (hlsXmlEscaped text).length ≤ 6 * text.length := by
  induction text with
  | nil => exact le_rfl
  | cons character text ih =>
    have hcharacter : ∀ escaped : List UInt8, escaped.length ≤ 6 →
        (escaped ++ hlsXmlEscaped text).length ≤ 6 * (text.length + 1) := by
      intro escaped hescaped
      rw [length_append]
      omega
    refine hcharacter _ ?_
    dsimp only
    split_ifs
    all_goals first | decide | exact Nat.succ_le_succ (Nat.zero_le 5)

/-- The body of an event fits for every URL and session id that fit into their arrays. -/
lemma hlsBuildEventBody_isSome {url appleSessionId : List UInt8} (requestId : UInt32)
    (hurl : url.length ≤ airplayRemoteHlsUrlMax)
    (happle : appleSessionId.length ≤ airplayRemoteHlsAppleSessionMax) :
    ∃ body, hlsBuildEventBody url requestId appleSessionId = some body := by
  have hdigs : (digits requestId.toNat).length ≤ 10 :=
    length_digits_le (by decide) (lt_trans requestId.toNat_lt (by decide))
  have hescapedUrl := length_hlsXmlEscaped_le url
  have hescapedApple := length_hlsXmlEscaped_le appleSessionId
  have hhead : hlsEventHead.length ≤ 1024 := by decide +kernel
  have hreq : hlsEventRequestUrl.length ≤ 1024 := by decide +kernel
  have hheaders : hlsEventHeaders.length ≤ 1024 := by decide +kernel
  have htail : hlsEventTail.length ≤ 1024 := by decide +kernel
  unfold airplayRemoteHlsUrlMax at hurl
  unfold airplayRemoteHlsAppleSessionMax at happle
  unfold hlsBuildEventBody hlsBuffer
  refine ⟨_, if_neg ?_⟩
  simp only [length_append]
  omega

lemma hlsCopy_eq_some {outputSize : ℕ} {input : List UInt8} (h : input.length < outputSize) :
    hlsCopy outputSize input = some input :=
  if_neg (Nat.not_le_of_lt h)

lemma hlsPrint_eq_some {maximum : ℕ} {text : List UInt8} (hpos : 0 < text.length)
    (hfits : text.length ≤ maximum) : hlsPrint maximum text = some text :=
  if_pos ⟨hpos, hfits⟩

/-- **A request** for a URL that fits is always issued. -/
lemma hlsPrepareEvent_eq (url : List UInt8) (hls : AirPlayRemoteHls) (hact : hls.active)
    (hurl : url.length ≤ airplayRemoteHlsUrlMax)
    (happle : hls.appleSessionId.length ≤ airplayRemoteHlsAppleSessionMax) :
    ∃ body,
      hlsBuildEventBody url (hlsNextRequestId hls.nextRequestId) hls.appleSessionId = some body ∧
      hlsPrepareEvent url hls =
        ({ hls with
            nextRequestId := hlsNextRequestId hls.nextRequestId
            expectedUrl := url
            expectedRequestId := hlsNextRequestId hls.nextRequestId },
          some ⟨hlsNextRequestId hls.nextRequestId, hls.appleSessionId, body⟩) := by
  obtain ⟨body, hbody⟩ :=
    hlsBuildEventBody_isSome (hlsNextRequestId hls.nextRequestId) hurl happle
  refine ⟨body, hbody, ?_⟩
  unfold hlsPrepareEvent
  rw [if_neg (by rw [hact]; exact Bool.noConfusion)]
  simp only [hlsCopy_eq_some (Nat.lt_succ_of_le hurl), hlsCopy_eq_some (Nat.lt_succ_of_le happle),
    hbody]

lemma length_le_of_hlsTextSafe {text : List UInt8} {maximum : ℕ}
    (h : hlsTextSafe text maximum) : text.length ≤ maximum := by
  unfold hlsTextSafe at h
  rw [Bool.and_eq_true] at h
  exact of_decide_eq_true h.2

lemma length_hlsHex (width value : ℕ) : (hlsHex width value).length = width := by
  unfold hlsHex
  rw [length_map, length_range]

lemma length_hlsToken : (hlsToken sessionId generation).length = 25 := by
  have hdash : (asciiBytes "-").length = 1 := by decide
  unfold hlsToken
  rw [length_append, length_append, length_hlsHex, length_hlsHex, hdash]

/-- The store a begin starts from, before its first request. -/
def AirPlayRemoteHls.begun (controlPort : UInt16)
    (appleSessionId locator playbackUrl : List UInt8) : AirPlayRemoteHls :=
  { AirPlayRemoteHls.cleared with
    sessionId, generation, controlPort, appleSessionId, playbackUrl
    token := hlsToken sessionId generation
    masterSource := locator
    active := true
    expectingMaster := true }

/-- **A begin** refuses its arguments and changes nothing, or starts a new exchange with the
request for the master playlist. -/
lemma airplayRemoteHlsBegin_cases (controlPort : UInt16) (appleSessionId locator : List UInt8)
    (hls : AirPlayRemoteHls) :
    airplayRemoteHlsBegin sessionId generation controlPort appleSessionId locator hls =
      (hls, none) ∨
    locator.length ≤ airplayRemoteHlsUrlMax ∧
    appleSessionId.length ≤ airplayRemoteHlsAppleSessionMax ∧
    ∃ playbackUrl body, playbackUrl.length ≤ airplayRemoteHlsLocalUrlMax ∧
      hlsBuildEventBody locator 1 appleSessionId = some body ∧
      airplayRemoteHlsBegin sessionId generation controlPort appleSessionId locator hls =
        ({ AirPlayRemoteHls.begun sessionId generation controlPort appleSessionId locator
              playbackUrl with
            nextRequestId := 1
            expectedRequestId := 1
            expectedUrl := locator }, some ⟨1, appleSessionId, body⟩) := by
  by_cases hguard : sessionId = 0 ∨ generation = 0 ∨ controlPort = 0 ∨
      hlsTextSafe appleSessionId airplayRemoteHlsAppleSessionMax = false ∨
      airplayRemoteHlsLocatorSupported locator = false
  · exact .inl (if_pos hguard)
  have hpassed := hguard
  simp only [not_or, Bool.not_eq_false] at hguard
  obtain ⟨-, -, -, happleSafe, hlocatorSafe⟩ := hguard
  have happle := length_le_of_hlsTextSafe happleSafe
  have hlocator : locator.length ≤ airplayRemoteHlsUrlMax := by
    unfold airplayRemoteHlsLocatorSupported at hlocatorSafe
    simp only [Bool.and_eq_true] at hlocatorSafe
    exact length_le_of_hlsTextSafe hlocatorSafe.1.1.1
  have htoken : hlsPrint airplayRemoteHlsTokenMax (hlsToken sessionId generation) =
      some (hlsToken sessionId generation) := by
    have hlen := length_hlsToken sessionId generation
    refine hlsPrint_eq_some (by omega) ?_
    rw [hlen]
    decide
  obtain ⟨playbackUrl, hprint, hplayback⟩ : ∃ playbackUrl,
      hlsPrint airplayRemoteHlsLocalUrlMax (asciiBytes "http://127.0.0.1:" ++
        digits controlPort.toNat ++ airplayRemoteHlsLocalPrefix ++
        hlsToken sessionId generation ++ asciiBytes "/master.m3u8") = some playbackUrl ∧
      playbackUrl.length ≤ airplayRemoteHlsLocalUrlMax := by
    have hport : (digits controlPort.toNat).length ≤ 5 :=
      length_digits_le (by decide) (lt_trans controlPort.toNat_lt (by decide))
    have hhost : (asciiBytes "http://127.0.0.1:").length = 17 := by decide
    have hlocal : airplayRemoteHlsLocalPrefix.length = 13 := by decide
    have hname : (asciiBytes "/master.m3u8").length = 12 := by decide
    have hmax : airplayRemoteHlsLocalUrlMax = 255 := rfl
    refine ⟨_, hlsPrint_eq_some ?_ ?_, ?_⟩
    all_goals
      simp only [length_append, length_hlsToken, hhost, hlocal, hname, hmax]
      omega
  obtain ⟨body, hbody, hevent⟩ := hlsPrepareEvent_eq locator
    (.begun sessionId generation controlPort appleSessionId locator playbackUrl) rfl hlocator happle
  refine .inr ⟨hlocator, happle, playbackUrl, body, hplayback, hbody, ?_⟩
  unfold airplayRemoteHlsBegin
  rw [if_neg hpassed]
  show (match hlsPrint airplayRemoteHlsTokenMax (hlsToken sessionId generation),
      hlsCopy (airplayRemoteHlsAppleSessionMax + 1) appleSessionId,
      hlsCopy (airplayRemoteHlsUrlMax + 1) locator,
      hlsPrint airplayRemoteHlsLocalUrlMax (asciiBytes "http://127.0.0.1:" ++
        digits controlPort.toNat ++ airplayRemoteHlsLocalPrefix ++
        hlsToken sessionId generation ++ asciiBytes "/master.m3u8") with
    | some token, some appleSessionId, some masterSource, some playbackUrl => _
    | _, _, _, _ => _) = _
  rw [htoken, hlsCopy_eq_some (Nat.lt_succ_of_le happle),
    hlsCopy_eq_some (Nat.lt_succ_of_le hlocator), hprint]
  show (match hlsPrepareEvent locator
      (.begun sessionId generation controlPort appleSessionId locator playbackUrl) with
    | (hls, some event) => (hls, some event)
    | (_, none) => (.cleared, none)) = _
  rw [hevent]
  rfl

end NXCast

import NXCast.Framework.TextSearch
import NXCast.Rtsp.Response

/-!
# Playlist text of the remote HLS store

The functions of `remote_hls.c` that look at text alone: checks on URLs and playlists, the
resolution of a reference against a base, the attributes of a tag line, and the rewriting of a
media playlist with its condensed form.

A text is the list of its bytes.  The strings among the arguments hold no NUL, since they come
from C strings and from playlists `hls_playlist_valid` has accepted.  A function that fills a
buffer piece by piece, and has no other effect, appends its pieces in one go here: the buffer
overflows in the one case exactly when it does in the other.
-/

namespace NXCast

/-! ## Limits -/

/-- `AIRPLAY_REMOTE_HLS_URL_MAX` -/
def airplayRemoteHlsUrlMax : ℕ := 4095
/-- `AIRPLAY_REMOTE_HLS_APPLE_SESSION_MAX` -/
def airplayRemoteHlsAppleSessionMax : ℕ := 128
/-- `AIRPLAY_REMOTE_HLS_LOCAL_URL_MAX` -/
def airplayRemoteHlsLocalUrlMax : ℕ := 255
/-- `AIRPLAY_REMOTE_HLS_MAX_PLAYLIST_BYTES` -/
def airplayRemoteHlsMaxPlaylistBytes : ℕ := 512 * 1024
/-- `AIRPLAY_REMOTE_HLS_MAX_MEDIA_PLAYLISTS` -/
def airplayRemoteHlsMaxMediaPlaylists : ℕ := 16
/-- `AIRPLAY_REMOTE_HLS_TOKEN_MAX` -/
def airplayRemoteHlsTokenMax : ℕ := 31

/-! ## Text -/

/-- `hls_copy` -/
def hlsCopy (outputSize : ℕ) (input : List UInt8) : Option (List UInt8) :=
  if input.length ≥ outputSize then none else some input

/-- What `snprintf` prints into an array of `maximum + 1` characters, refused when it is empty
or does not fit. -/
def hlsPrint (maximum : ℕ) (text : List UInt8) : Option (List UInt8) :=
  if 0 < text.length ∧ text.length ≤ maximum then some text else none

/-- What is left in a buffer with a `limit` to which `text` has been appended. -/
def hlsBuffer (limit : ℕ) (text : List UInt8) : Option (List UInt8) :=
  if text.length > limit then none else some text

/-- The printable characters but the blank. -/
def hlsVisible (character : UInt8) : Bool :=
  !decide (character.toNat < 0x21 ∨ character.toNat > 0x7e)

/-- `hls_text_safe` -/
def hlsTextSafe (text : List UInt8) (maximum : ℕ) : Bool :=
  !text.isEmpty && text.all hlsVisible && decide (text.length ≤ maximum)

/-- The C `isalpha`. -/
def isalpha (value : UInt8) : Bool := isalnum value && !isdigit value

/-- The test `strncasecmp(text, expected, strlen(expected)) == 0`. -/
def startsWithCase (text : List UInt8) (expected : String) : Bool :=
  decide ((text.take (asciiBytes expected).length).map tolower =
    (asciiBytes expected).map tolower)

variable (line : List UInt8)

/-- `hls_line_starts_with` -/
def hlsLineStartsWith (expected : String) : Bool :=
  (asciiBytes expected).isPrefixOf line

/-- The line feed. -/
def hlsNewline : UInt8 := 0x0a

/-- The contents of the lines of a playlist: one carriage return before the line feed is not
part of a line. -/
def hlsContent : List UInt8 :=
  if line.getLast? = some 0x0d then line.dropLast else line

/-- The lines the loops over a playlist go through. -/
def hlsLines (bytes : List UInt8) : List (List UInt8) :=
  (TextSearch.lines hlsNewline bytes).map hlsContent

/-! ## References -/

/-- `hls_has_scheme` -/
def hlsHasScheme : List UInt8 → Bool
  | [] => false
  | initial :: rest =>
    let scheme := rest.takeWhile (· ≠ 0x3a)
    isalpha initial &&
      scheme.all (fun byte => isalnum byte || (asciiBytes "+-.").contains byte) &&
      decide (scheme.length < rest.length)

/-- `hls_resolve_uri` -/
def hlsResolveUri (base reference : List UInt8) : Option (List UInt8) :=
  if hlsTextSafe base airplayRemoteHlsUrlMax = false ∨
      hlsTextSafe reference airplayRemoteHlsUrlMax = false then none
  else if hlsHasScheme reference then hlsCopy (airplayRemoteHlsUrlMax + 1) reference
  else
    let schemeEnd := TextSearch.first (asciiBytes "://") base
    if hlsLineStartsWith reference "//" then
      match schemeEnd with
      | none => none
      | some schemeEnd =>
        hlsPrint airplayRemoteHlsUrlMax (base.take schemeEnd ++ asciiBytes ":" ++ reference)
    else
      match (if hlsLineStartsWith reference "/" then schemeEnd else none) with
      | some schemeEnd =>
        let authorityEnd := match (base.drop (schemeEnd + 3)).idxOf? 0x2f with
          | some offset => schemeEnd + 3 + offset
          | none => (base.takeWhile fun byte => byte ≠ 0x3f && byte ≠ 0x23).length
        hlsPrint airplayRemoteHlsUrlMax (base.take authorityEnd ++ reference)
      | none =>
        match TextSearch.last 0x2f base with
        | none => none
        | some directoryEnd =>
          hlsPrint airplayRemoteHlsUrlMax (base.take directoryEnd ++ asciiBytes "/" ++ reference)

/-- `hls_uri_span_is_playlist` -/
def hlsUriSpanIsPlaylist (uri : List UInt8) : Bool :=
  uri.tails.any fun rest =>
    hlsLineStartsWith rest ".m3u8" &&
      (rest.drop 5).head?.all fun byte => byte = 0x3f || byte = 0x23

/-- The text `hls_append_resolved_media_uri` appends. -/
def hlsResolvedMediaUri (base uri : List UInt8) : Option (List UInt8) :=
  if uri.all hlsVisible = false then none
  else if startsWithCase uri "http://" ∨ startsWithCase uri "https://" then some uri
  else
    match TextSearch.first (asciiBytes "://") base with
    | none => some uri
    | some scheme =>
      if hlsLineStartsWith uri "//" then some (base.take (scheme + 1) ++ uri)
      else
        let authorityEnd := match (base.drop (scheme + 3)).idxOf? 0x2f with
          | some offset => scheme + 3 + offset
          | none => base.length
        if hlsLineStartsWith uri "/" then some (base.take authorityEnd ++ uri)
        else
          let pathEnd := match TextSearch.last 0x2f base with
            | some pathEnd => if pathEnd < authorityEnd then base.length else pathEnd
            | none => base.length
          some (base.take pathEnd ++ asciiBytes "/" ++ uri)

/-! ## Playlists -/

/-- `hls_playlist_valid` -/
def hlsPlaylistValid (bytes : List UInt8) : Bool :=
  let text := if [0xef, 0xbb, 0xbf].isPrefixOf bytes then bytes.drop 3 else bytes
  decide (7 ≤ bytes.length ∧ bytes.length ≤ airplayRemoteHlsMaxPlaylistBytes) &&
    hlsLineStartsWith text "#EXTM3U" &&
    text.all fun byte => !decide (byte.toNat < 0x20 ∧ byte ≠ 0x0d ∧ byte ≠ 0x0a ∧ byte ≠ 0x09)

/-- `hls_find_uri_attribute`, with the text before the value, the value and the text behind
it. -/
def hlsFindUriAttribute :
    Option (List UInt8 × List UInt8 × List UInt8) :=
  match TextSearch.first (asciiBytes "URI=\"") line with
  | none => none
  | some index =>
    let rest := line.drop (index + 5)
    let value := rest.takeWhile (· ≠ 0x22)
    if value.length = rest.length ∨ value = [] then none
    else some (line.take (index + 5), value, rest.dropWhile (· ≠ 0x22))

/-- `HlsVideoCodec` -/
inductive HlsVideoCodec where
  | unknown
  | h264
  | other
deriving DecidableEq

/-- `hls_span_contains_case` -/
def hlsSpanContainsCase (text : List UInt8) (needle : String) : Bool :=
  text.tails.any fun rest => startsWithCase rest needle

/-- `hls_stream_video_codec` -/
def hlsStreamVideoCodec : HlsVideoCodec :=
  match line.tails.find? fun rest => startsWithCase rest "CODECS=\"" with
  | none => .unknown
  | some marked =>
    let rest := marked.drop 8
    let value := rest.takeWhile (· ≠ 0x22)
    if value.length = rest.length then .unknown
    else if ["avc1", "avc3"].any (hlsSpanContainsCase value) then .h264
    else if ["vp09", "vp9", "av01", "hvc1", "hev1"].any (hlsSpanContainsCase value) then .other
    else .unknown

/-- `hls_master_has_h264_variant` -/
def hlsMasterHasH264Variant (bytes : List UInt8) : Bool :=
  (hlsLines bytes).any fun line =>
    hlsLineStartsWith line "#EXT-X-STREAM-INF:" && hlsStreamVideoCodec line = .h264

/-! ## Media playlists -/

/-- `hls_dup_quoted_attribute` -/
def hlsDupQuotedAttribute (name : String) : Option (List UInt8) :=
  let pattern := asciiBytes name ++ asciiBytes "=\""
  match TextSearch.first pattern line with
  | none => none
  | some start =>
    let rest := line.drop (start + pattern.length)
    let value := rest.takeWhile (· ≠ 0x22)
    if value.length = rest.length then none else some value

/-- The loop of `hls_expand_condensed` over the names in `PARAMS`, each of which takes a segment
of the value; the last one takes all that is left of it. -/
def hlsExpandParams : List (List UInt8) → List UInt8 → Option (List UInt8)
  | [], _ => some []
  | [param], value =>
    -- behind a trailing comma the list of names has ended
    if param = [] then some []
    else if value = [] then none
    else some (asciiBytes "/" ++ param ++ asciiBytes "/" ++ value)
  | param :: params, value =>
    match value.idxOf? 0x2f with
    | none => none
    | some valueEnd =>
      if param = [] ∨ valueEnd = 0 then none
      else (hlsExpandParams params (value.drop (valueEnd + 1))).map fun expanded =>
        asciiBytes "/" ++ param ++ asciiBytes "/" ++ value.take valueEnd ++ expanded

/-- A line of `hls_expand_condensed`. -/
def hlsExpandLine (base params key line : List UInt8) : Option (List UInt8) :=
  if line = [] ∨ line.head? = some 0x23 then some line
  else
    match TextSearch.first key line with
    | none => some line
    | some keyAt =>
      let value := line.drop (keyAt + key.length)
      (if params = [] then some value else hlsExpandParams (params.splitOn 0x2c) value).map
        fun expanded => line.take keyAt ++ base ++ expanded

/-- `hls_expand_condensed`; `strtok_r` skips the empty lines. -/
def hlsExpandCondensed (bytes : List UInt8) : Option (List UInt8) :=
  match TextSearch.first (asciiBytes "#YT-EXT-CONDENSED-URL") bytes with
  | none => some bytes
  | some start =>
    let header := (bytes.drop start).takeWhile (· ≠ hlsNewline)
    match hlsDupQuotedAttribute header "BASE-URI", hlsDupQuotedAttribute header "PARAMS",
        hlsDupQuotedAttribute header "PREFIX" with
    | some base, some params, some key =>
      if base = [] ∨ key = [] then none
      else do
        let lines ← (((TextSearch.lines hlsNewline bytes).filter (· ≠ [])).map hlsContent).mapM
          (hlsExpandLine base params key)
        hlsBuffer airplayRtspMaxResponseBodyBytes (lines.flatMap fun line => line ++ [hlsNewline])
    | _, _, _ => none

/-- A line of `hls_rewrite_media`. -/
def hlsRewriteMediaLine (sourceUrl line : List UInt8) : Option (List UInt8) :=
  if line.head? = some 0x23 then
    match hlsFindUriAttribute line with
    | some (front, uri, back) =>
      (hlsResolvedMediaUri sourceUrl uri).map fun resolved => front ++ resolved ++ back
    | none => some line
  else if line = [] then some []
  else hlsResolvedMediaUri sourceUrl line

/-- `hls_rewrite_media` -/
def hlsRewriteMedia (sourceUrl bytes : List UInt8) : Option (List UInt8) := do
  let expanded ← hlsExpandCondensed bytes
  let lines ← (hlsLines expanded).mapM (hlsRewriteMediaLine sourceUrl)
  hlsBuffer airplayRtspMaxResponseBodyBytes (lines.flatMap fun line => line ++ [hlsNewline])

end NXCast

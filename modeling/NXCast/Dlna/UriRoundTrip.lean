import NXCast.Dlna.TransportState
import NXCast.Dlna.XmlExtract

/-!
# The URI and its metadata, there and back

`SetAVTransportURI` reads a URI and its metadata from a request and stores them; `GetMediaInfo` and
`GetPositionInfo` write them into their responses.  A response that is built gives the stored texts
back.  One is not built when it would pass the writer's buffer, which two elements nested in each
other can bring about.
-/

namespace NXCast

open List ProtocolState ProtocolWrite Passes

/-! ## Actions -/

/-- The loop of `soap_handler_xml_escape`. -/
def soapXmlEscapeLoop (outSize : ℕ) : List UInt8 → List UInt8 → Option (List UInt8)
  | [], out => some out
  | byte :: value, out =>
    if out.length + (xmlReplacement byte).length ≥ outSize then none
    else soapXmlEscapeLoop outSize value (out ++ xmlReplacement byte)

/-- `soap_handler_xml_escape_alloc` -/
def soapHandlerXmlEscape (value : List UInt8) : Option (List UInt8) :=
  soapXmlEscapeLoop (value.length * 6 + 1) value []

/-- What `avtransport_set_uri` reads from the body of its request. -/
def avtransportSetUri (body : List UInt8) : Option DlnaAction := do
  let _ ← soapHandlerExtractXmlValue body "InstanceID"
  let uri ← soapHandlerExtractXmlValue body "CurrentURI"
  let metadata := (soapHandlerExtractXmlValue body "CurrentURIMetaData").getD []
  return .setUri uri metadata

variable (state : ProtocolState)

/-- What `avtransport_get_media_info` writes. -/
def avtransportWriteMediaInfo (escapedUri escapedMetadata : List UInt8) :
    SoapWriter := do
  soapWriterElementInt (asciiBytes "NrTracks") (state.number .numberOfTracks)
  soapWriterElementText (asciiBytes "MediaDuration") (state.text .currentMediaDuration)
  soapWriterElementRaw (asciiBytes "CurrentURI") escapedUri
  soapWriterElementRaw (asciiBytes "CurrentURIMetaData") escapedMetadata
  soapWriterElementText (asciiBytes "NextURI") (state.text .nextAvTransportUri)
  soapWriterElementText (asciiBytes "NextURIMetaData") (state.text .nextAvTransportUriMetaData)
  soapWriterElementText (asciiBytes "PlayMedium") (state.text .playbackStorageMedium)
  soapWriterElementText (asciiBytes "RecordMedium") (asciiBytes "NOT_IMPLEMENTED")
  soapWriterElementText (asciiBytes "WriteStatus") (asciiBytes "NOT_IMPLEMENTED")

/-- `avtransport_get_media_info`, on the state with the times of the renderer's snapshot. -/
def avtransportGetMediaInfo : Option (List UInt8) := do
  let escapedUri ← soapHandlerXmlEscape (state.text .avTransportUri)
  let escapedMetadata ← soapHandlerXmlEscape (state.text .avTransportUriMetaData)
  (avtransportWriteMediaInfo state escapedUri escapedMetadata).output

/-- What `avtransport_get_position_info` writes. -/
def avtransportWritePositionInfo (escapedUri escapedMetadata : List UInt8) :
    SoapWriter := do
  soapWriterElementInt (asciiBytes "Track") (state.number .currentTrack)
  soapWriterElementText (asciiBytes "TrackDuration") (state.text .currentTrackDuration)
  soapWriterElementRaw (asciiBytes "TrackMetaData") escapedMetadata
  soapWriterElementRaw (asciiBytes "TrackURI") escapedUri
  soapWriterElementText (asciiBytes "RelTime") (state.text .relativeTimePosition)
  soapWriterElementText (asciiBytes "AbsTime") (state.text .absoluteTimePosition)
  soapWriterElementInt (asciiBytes "RelCount") (state.number .relativeCounterPosition)
  soapWriterElementInt (asciiBytes "AbsCount") (state.number .absoluteCounterPosition)

/-- `avtransport_get_position_info`, on the state with the times of the renderer's snapshot. -/
def avtransportGetPositionInfo : Option (List UInt8) := do
  let escapedUri ← soapHandlerXmlEscape (state.text .currentTrackUri)
  let escapedMetadata ← soapHandlerXmlEscape (state.text .currentTrackMetaData)
  (avtransportWritePositionInfo state escapedUri escapedMetadata).output

/-- What stands before the arguments of a response. -/
def soapEnvelopeHead (serviceType actionName : List UInt8) : List UInt8 :=
  asciiBytes "<?xml version=\"1.0\" encoding=\"utf-8\"?>" ++
    asciiBytes "<s:Envelope xmlns:s=\"http://schemas.xmlsoap.org/soap/envelope/\" " ++
    asciiBytes "s:encodingStyle=\"http://schemas.xmlsoap.org/soap/encoding/\">" ++
    asciiBytes "<s:Body>" ++
    (asciiBytes "<u:" ++ actionName ++ asciiBytes "Response xmlns:u=\"" ++ serviceType ++
      asciiBytes "\">")

/-- What stands behind them. -/
def soapEnvelopeTail (actionName : List UInt8) : List UInt8 :=
  asciiBytes "</u:" ++ actionName ++ asciiBytes "Response>" ++ asciiBytes "</s:Body>" ++
    asciiBytes "</s:Envelope>"

/-- `build_soap_success`, up to the body of the response. -/
def buildSoapSuccess (serviceType actionName args : List UInt8) : Option (List UInt8) :=
  let body := soapEnvelopeHead serviceType actionName ++ args ++ soapEnvelopeTail actionName
  if body.length ≥ args.length + 512 then none else some body

/-- The response to `GetMediaInfo`. -/
def getMediaInfoResponse : Option (List UInt8) := do
  let args ← avtransportGetMediaInfo state
  buildSoapSuccess (asciiBytes "urn:schemas-upnp-org:service:AVTransport:1")
    (asciiBytes "GetMediaInfo") args

/-- The response to `GetPositionInfo`. -/
def getPositionInfoResponse : Option (List UInt8) := do
  let args ← avtransportGetPositionInfo state
  buildSoapSuccess (asciiBytes "urn:schemas-upnp-org:service:AVTransport:1")
    (asciiBytes "GetPositionInfo") args

/-- Writes one after the other. -/
def ProtocolState.writeAll (writes : List ProtocolWrite) : ProtocolState :=
  writes.foldl ProtocolState.write state

/-- The times of a snapshot: two of C's `int`. -/
structure RendererTimes where
  durationMs : ℤ
  positionMs : ℤ
  duration_lt : durationMs < 2 ^ 31
  position_lt : positionMs < 2 ^ 31

/-- The state at a query, which stores the renderer's times first. -/
def ProtocolState.queried (times : RendererTimes) : ProtocolState :=
  state.writeAll (DlnaAction.getInfo times.durationMs times.positionMs).writes

/-- The two responses, where they are built, give a URI and its metadata back. -/
def GivesBack (uri metadata : List UInt8) : Prop :=
  (∀ body, getMediaInfoResponse state = some body →
    soapHandlerExtractXmlValue body "CurrentURI" = some uri ∧
      soapHandlerExtractXmlValue body "CurrentURIMetaData" = some metadata) ∧
  ∀ body, getPositionInfoResponse state = some body →
    soapHandlerExtractXmlValue body "TrackURI" = some uri ∧
      soapHandlerExtractXmlValue body "TrackMetaData" = some metadata

/-- What SOAP actions and events leave as it is. -/
def unwrittenVariables : List ProtocolVariable :=
  [.text .nextAvTransportUri, .text .nextAvTransportUriMetaData, .number .relativeCounterPosition,
    .number .absoluteCounterPosition]

/-! ## Escaping -/

section Escaping

variable {text : List UInt8}

lemma soapXmlEscapeLoop_eq {outSize : ℕ} (value out : List UInt8)
    (h : out.length + (xmlEscaped value).length < outSize) :
    soapXmlEscapeLoop outSize value out = some (out ++ xmlEscaped value) := by
  induction value generalizing out with
  | nil => exact congrArg some (append_nil out).symm
  | cons byte value ih =>
    have hcons : xmlEscaped (byte :: value) = xmlReplacement byte ++ xmlEscaped value :=
      flatMap_cons
    rw [hcons, length_append] at h
    have hnext := ih (out ++ xmlReplacement byte) (by rw [length_append]; omega)
    rw [soapXmlEscapeLoop, if_neg (by omega), hnext, hcons, append_assoc]

lemma soapHandlerXmlEscape_eq (value : List UInt8) :
    soapHandlerXmlEscape value = some (xmlEscaped value) := by
  have hlen := length_xmlEscaped_le value
  exact soapXmlEscapeLoop_eq value [] (by rw [length_nil]; omega)

lemma not_mem_xmlEscaped (value : List UInt8) : 0x3c ∉ xmlEscaped value := by
  intro hmem
  obtain ⟨byte, -, hbyte⟩ := mem_flatMap.mp hmem
  rw [xmlReplacement] at hbyte
  split_ifs at hbyte with hamp hlt
  · exact absurd hbyte (by decide)
  · exact absurd hbyte (by decide)
  · exact absurd hbyte (by decide)
  · exact absurd hbyte (by decide)
  · exact absurd hbyte (by decide)
  · exact hlt (mem_singleton.mp hbyte).symm

lemma not_mem_digits (n : ℕ) : 0x3c ∉ Decimal.digits n := fun hmem =>
  absurd (Decimal.isDigit_of_mem_digits n _ hmem).2 (by decide)

lemma not_mem_soapDecimal (value : ℤ) : 0x3c ∉ soapDecimal value := by
  rw [soapDecimal]
  split
  · exact fun hmem => (mem_cons.mp hmem).elim (by decide) (not_mem_digits _)
  · exact not_mem_digits _

/-! ## Elements of a response -/

variable (tag : List UInt8)

lemma xmlElement_puts {writer : SoapWriter} {size : ℕ} (h : writer.Puts text size) :
    SoapWriter.Puts (do soapWriterOpenTag tag; writer; soapWriterCloseTag tag)
      (xmlElement tag text) (tag.length * 2 + 5 + size) := by
  have hopen := (soapWriterAppendLen_writes (asciiBytes "<" ++ tag ++ asciiBytes ">")).puts
  have hclose := (soapWriterAppendLen_writes (asciiBytes "</" ++ tag ++ asciiBytes ">")).puts
  have hputs := hopen.seq (h.seq hclose)
  have hlt : (asciiBytes "<").length = 1 := by decide
  have hslash : (asciiBytes "</").length = 2 := by decide
  have hgt : (asciiBytes ">").length = 1 := by decide
  rw [← append_assoc] at hputs
  simp only [length_append, hlt, hslash, hgt] at hputs
  exact hputs.mono (by omega)

lemma soapWriterElementText_puts (text : List UInt8) :
    (soapWriterElementText tag text).Puts (xmlElement tag (xmlEscaped text))
      (tag.length * 2 + 5 + text.length * 6) :=
  xmlElement_puts tag (soapWriterAppendEscaped_writes text).puts

lemma soapWriterElementRaw_puts (text : List UInt8) :
    (soapWriterElementRaw tag text).Puts (xmlElement tag text) (tag.length * 2 + 5 + text.length) :=
  xmlElement_puts tag (soapWriterAppendRaw_writes text).puts

lemma soapWriterElementInt_puts (value : ℤ) :
    (soapWriterElementInt tag value).Puts (xmlElement tag (soapDecimal value))
      (tag.length * 2 + 5 + (soapDecimal value).length) :=
  xmlElement_puts tag (soapWriterAppendLen_writes (soapDecimal value)).puts

/-- **One element.** What has been written with the writer's escaping is read back, trimmed. -/
lemma soapExtractFrom_elementText {tag name out : List UInt8} (hname : XmlName name)
    (hsame : sameTag tag name) (h : (soapWriterElementText name text).output = some out) :
    soapExtractFrom tag 0 out = some (trimWhitespace text) := by
  obtain ⟨rfl, -⟩ := (soapWriterElementText_puts name text).output_eq h
  have hextract := soapExtractFrom_element hname hsame (not_mem_xmlEscaped text) []
  rwa [append_nil, xmlDecode_xmlEscaped] at hextract

end Escaping

/-! ## Responses -/

section Responses

variable {tag serviceType actionName : List UInt8}

lemma Passes.envelope (henvelope : sameTag tag (asciiBytes "s:Envelope") = false)
    (hbody : sameTag tag (asciiBytes "s:Body") = false)
    (hname : XmlName (asciiBytes "u:" ++ actionName ++ asciiBytes "Response"))
    (hother : sameTag tag (asciiBytes "u:" ++ actionName ++ asciiBytes "Response") = false)
    (hsvc : 0x3c ∉ serviceType) : Passes tag (soapEnvelopeHead serviceType actionName) := by
  have hxml : Passes tag (0x3c :: 0x3f :: asciiBytes "xml version=\"1.0\" encoding=\"utf-8\"?>") :=
    .closing (by decide) (by decide)
  have henvelope : Passes tag (0x3c :: asciiBytes "s:Envelope" ++ 0x20 ::
      (asciiBytes "xmlns:s=\"http://schemas.xmlsoap.org/soap/envelope/\" " ++
        asciiBytes "s:encodingStyle=\"http://schemas.xmlsoap.org/soap/encoding/\">")) :=
    .opening (by decide) henvelope (by decide) (by decide)
  have hbody : Passes tag (0x3c :: asciiBytes "s:Body" ++ 0x3e :: []) :=
    .opening (by decide) hbody (by decide) (by decide)
  have hresp : Passes tag (0x3c :: (asciiBytes "u:" ++ actionName ++ asciiBytes "Response") ++
      0x20 :: (asciiBytes "xmlns:u=\"" ++ serviceType ++ asciiBytes "\">")) := by
    refine .opening hname hother (by decide) fun hmem => ?_
    simp only [mem_cons, mem_append] at hmem
    rcases hmem with hmem | (hmem | hmem) | hmem
    · exact absurd hmem (by decide)
    · exact absurd hmem (by decide)
    · exact hsvc hmem
    · exact absurd hmem (by decide)
  have hhead : soapEnvelopeHead serviceType actionName =
      (0x3c :: 0x3f :: asciiBytes "xml version=\"1.0\" encoding=\"utf-8\"?>") ++
      (0x3c :: asciiBytes "s:Envelope" ++ 0x20 ::
        (asciiBytes "xmlns:s=\"http://schemas.xmlsoap.org/soap/envelope/\" " ++
          asciiBytes "s:encodingStyle=\"http://schemas.xmlsoap.org/soap/encoding/\">")) ++
      (0x3c :: asciiBytes "s:Body" ++ 0x3e :: []) ++
      (0x3c :: (asciiBytes "u:" ++ actionName ++ asciiBytes "Response") ++
        0x20 :: (asciiBytes "xmlns:u=\"" ++ serviceType ++ asciiBytes "\">")) := by
    have hopen : asciiBytes "<u:" = 0x3c :: asciiBytes "u:" := by decide
    have hspace : asciiBytes "Response xmlns:u=\"" =
        asciiBytes "Response" ++ 0x20 :: asciiBytes "xmlns:u=\"" := by decide
    rw [soapEnvelopeHead, hopen, hspace]
    simp only [append_assoc, cons_append]
    rfl
  rw [hhead]
  exact ((hxml.append henvelope).append hbody).append hresp

lemma buildSoapSuccess_extract {items : List (List UInt8 × List UInt8)} {name content : List UInt8}
    (hhead : Passes tag (soapEnvelopeHead serviceType actionName))
    (hitems : ∀ item ∈ items, XmlName item.1 ∧ 0x3c ∉ item.2)
    (hfind : items.find? (fun item => sameTag tag item.1) = some (name, content))
    {body : List UInt8}
    (hbody : buildSoapSuccess serviceType actionName (xmlElements items) = some body) :
    soapExtractFrom tag 0 body = some (trimWhitespace (xmlDecode content)) := by
  simp only [buildSoapSuccess] at hbody
  split at hbody
  · cases hbody
  cases hbody
  rw [append_assoc, hhead]
  exact soapExtractFrom_elements hitems hfind _

lemma isSome_buildSoapSuccess (h : (soapEnvelopeHead serviceType actionName).length +
      (soapEnvelopeTail actionName).length < 512) (args : List UInt8) :
    (buildSoapSuccess serviceType actionName args).isSome := by
  simp only [buildSoapSuccess, length_append]
  rw [if_neg (by omega)]
  rfl

end Responses

/-! ## The stored texts -/

/-- The URI and its metadata are stored, and what else the responses hold is short. -/
structure StoredUri (state : ProtocolState) (uri metadata : List UInt8) : Prop where
  mediaUri : state.text .avTransportUri = uri
  mediaMetadata : state.text .avTransportUriMetaData = metadata
  trackUri : state.text .currentTrackUri = uri
  trackMetadata : state.text .currentTrackMetaData = metadata
  nextUri : state.text .nextAvTransportUri = []
  nextMetadata : state.text .nextAvTransportUriMetaData = []
  medium : (state.text .playbackStorageMedium).length ≤ 7
  tracks : (soapDecimal (state.number .numberOfTracks)).length ≤ 10
  track : (soapDecimal (state.number .currentTrack)).length ≤ 10
  relCount : (soapDecimal (state.number .relativeCounterPosition)).length ≤ 10
  absCount : (soapDecimal (state.number .absoluteCounterPosition)).length ≤ 10

/-- Nothing has written the variables that are not written. -/
def ProtocolState.Unwritten : Prop :=
  ∀ name ∈ unwrittenVariables, state.value name = ProtocolState.initial.value name

section Stored

variable {state : ProtocolState} {uri metadata : List UInt8}

lemma StoredUri.of_setUri (h : state.Unwritten) (uri metadata : List UInt8) :
    StoredUri (state.writeAll (DlnaAction.setUri uri metadata).writes) uri metadata := by
  have htext (name : ProtocolText) (hname : .text name ∈ unwrittenVariables) :
      state.text name = initial.text name :=
    (text.inj (h (.text name) hname)).2
  have hnumber (name : ProtocolNumber) (hname : .number name ∈ unwrittenVariables) :
      state.number name = initial.number name :=
    (number.inj (h (.number name) hname)).2
  have hcount (name : ProtocolNumber)
      (hvalue : state.number name = 2147483647) : (soapDecimal (state.number name)).length ≤ 10 := by
    rw [hvalue]
    decide +kernel
  have htracks (tracks : ℤ) (htracks : tracks = if uri ≠ [] then 1 else 0) :
      (soapDecimal tracks).length ≤ 10 := by
    rw [htracks]
    split_ifs <;> decide +kernel
  constructor
  · rfl
  · rfl
  · rfl
  · rfl
  · exact htext .nextAvTransportUri (by decide)
  · exact htext .nextAvTransportUriMetaData (by decide)
  · change (asciiBytes (if uri ≠ [] then "NETWORK" else "NONE")).length ≤ 7
    split_ifs <;> decide
  · exact htracks _ rfl
  · exact htracks _ rfl
  · exact hcount _ (hnumber .relativeCounterPosition (by decide))
  · exact hcount _ (hnumber .absoluteCounterPosition (by decide))

lemma StoredUri.queried (h : StoredUri state uri metadata) (times : RendererTimes) :
    StoredUri (state.queried times) uri metadata :=
  ⟨h.mediaUri, h.mediaMetadata, h.trackUri, h.trackMetadata, h.nextUri, h.nextMetadata, h.medium, h.tracks,
    h.track, h.relCount, h.absCount⟩

/-- The times of a query are short. -/
structure ShortTimes (state : ProtocolState) : Prop where
  media : (state.text .currentMediaDuration).length ≤ 9
  track : (state.text .currentTrackDuration).length ≤ 9
  relative : (state.text .relativeTimePosition).length ≤ 9
  absolute : (state.text .absoluteTimePosition).length ≤ 9

lemma length_twoDigits_le {value k : ℕ} (hk : 2 ≤ k) (h : value < 10 ^ k) :
    (twoDigits value).length ≤ k := by
  have hdigs := Decimal.length_digits_le (by omega) h
  rw [twoDigits]
  split_ifs with hsmall
  · rw [Decimal.digits, if_pos hsmall]
    exact hk
  · exact hdigs

/-- The hours of an `int` of milliseconds have three digits at most. -/
lemma length_formatHhmmss_le {valueMs : ℤ} (h : valueMs < 2 ^ 31) :
    (formatHhmmss valueMs).length ≤ 9 := by
  have hhours : (twoDigits (valueMs.toNat / 1000 / 3600)).length ≤ 3 :=
    length_twoDigits_le (by decide) (by omega)
  have hminutes : (twoDigits (valueMs.toNat / 1000 % 3600 / 60)).length ≤ 2 :=
    length_twoDigits_le le_rfl (by omega)
  have hseconds : (twoDigits (valueMs.toNat / 1000 % 60)).length ≤ 2 :=
    length_twoDigits_le le_rfl (by omega)
  have hcolon : (asciiBytes ":").length = 1 := by decide
  simp only [formatHhmmss, length_append, hcolon]
  omega

lemma ShortTimes.of_queried (state : ProtocolState) (times : RendererTimes) :
    ShortTimes (state.queried times) :=
  ⟨length_formatHhmmss_le times.duration_lt, length_formatHhmmss_le times.duration_lt,
    length_formatHhmmss_le times.position_lt, length_formatHhmmss_le times.position_lt⟩

/-! ## The two queries -/

/-- The elements of `GetMediaInfo`. -/
def mediaInfoItems (state : ProtocolState) : List (List UInt8 × List UInt8) :=
  [(asciiBytes "NrTracks", soapDecimal (state.number .numberOfTracks)),
    (asciiBytes "MediaDuration", xmlEscaped (state.text .currentMediaDuration)),
    (asciiBytes "CurrentURI", xmlEscaped (state.text .avTransportUri)),
    (asciiBytes "CurrentURIMetaData", xmlEscaped (state.text .avTransportUriMetaData)),
    (asciiBytes "NextURI", xmlEscaped (state.text .nextAvTransportUri)),
    (asciiBytes "NextURIMetaData", xmlEscaped (state.text .nextAvTransportUriMetaData)),
    (asciiBytes "PlayMedium", xmlEscaped (state.text .playbackStorageMedium)),
    (asciiBytes "RecordMedium", xmlEscaped (asciiBytes "NOT_IMPLEMENTED")),
    (asciiBytes "WriteStatus", xmlEscaped (asciiBytes "NOT_IMPLEMENTED"))]

/-- The elements of `GetPositionInfo`. -/
def positionInfoItems (state : ProtocolState) : List (List UInt8 × List UInt8) :=
  [(asciiBytes "Track", soapDecimal (state.number .currentTrack)),
    (asciiBytes "TrackDuration", xmlEscaped (state.text .currentTrackDuration)),
    (asciiBytes "TrackMetaData", xmlEscaped (state.text .currentTrackMetaData)),
    (asciiBytes "TrackURI", xmlEscaped (state.text .currentTrackUri)),
    (asciiBytes "RelTime", xmlEscaped (state.text .relativeTimePosition)),
    (asciiBytes "AbsTime", xmlEscaped (state.text .absoluteTimePosition)),
    (asciiBytes "RelCount", soapDecimal (state.number .relativeCounterPosition)),
    (asciiBytes "AbsCount", soapDecimal (state.number .absoluteCounterPosition))]

lemma avtransportGetMediaInfo_eq (state : ProtocolState) :
    avtransportGetMediaInfo state =
      (avtransportWriteMediaInfo state (xmlEscaped (state.text .avTransportUri))
        (xmlEscaped (state.text .avTransportUriMetaData))).output := by
  rw [avtransportGetMediaInfo, soapHandlerXmlEscape_eq, soapHandlerXmlEscape_eq]
  rfl

lemma avtransportGetPositionInfo_eq (state : ProtocolState) :
    avtransportGetPositionInfo state =
      (avtransportWritePositionInfo state (xmlEscaped (state.text .currentTrackUri))
        (xmlEscaped (state.text .currentTrackMetaData))).output := by
  rw [avtransportGetPositionInfo, soapHandlerXmlEscape_eq, soapHandlerXmlEscape_eq]
  rfl

section Short

variable {tag text : List UInt8}

lemma soapWriterElementText_short {length : ℕ} (htag : tag.length ≤ 18) (h : text.length ≤ length) :
    (soapWriterElementText tag text).Puts (xmlElement tag (xmlEscaped text)) (41 + length * 6) :=
  (soapWriterElementText_puts tag text).mono (by omega)

lemma soapWriterElementRaw_short (htag : tag.length ≤ 18) :
    (soapWriterElementRaw tag text).Puts (xmlElement tag text) (41 + text.length) :=
  (soapWriterElementRaw_puts tag text).mono (by omega)

lemma soapWriterElementInt_short {value : ℤ} (htag : tag.length ≤ 18)
    (h : (soapDecimal value).length ≤ 10) :
    (soapWriterElementInt tag value).Puts (xmlElement tag (soapDecimal value)) 51 :=
  (soapWriterElementInt_puts tag value).mono (by omega)

end Short

/-- What `GetMediaInfo` writes, and the room it needs. -/
lemma StoredUri.puts_mediaInfo (h : StoredUri state uri metadata) (htimes : ShortTimes state) :
    (avtransportWriteMediaInfo state (xmlEscaped (state.text .avTransportUri))
        (xmlEscaped (state.text .avTransportUriMetaData))).Puts
      (xmlElements (mediaInfoItems state))
      ((xmlEscaped uri).length + (xmlEscaped metadata).length + 700) := by
  have hempty {name : ProtocolText} (hname : state.text name = []) :
      (state.text name).length ≤ 0 := by
    rw [hname]
    exact le_rfl
  have hputs : (avtransportWriteMediaInfo state (xmlEscaped (state.text .avTransportUri))
      (xmlEscaped (state.text .avTransportUriMetaData))).Puts _ _ :=
    (soapWriterElementInt_short (by decide) h.tracks).seq
    ((soapWriterElementText_short (by decide) htimes.media).seq
    ((soapWriterElementRaw_short (by decide)).seq
    ((soapWriterElementRaw_short (by decide)).seq
    ((soapWriterElementText_short (by decide) (hempty h.nextUri)).seq
    ((soapWriterElementText_short (by decide) (hempty h.nextMetadata)).seq
    ((soapWriterElementText_short (by decide) h.medium).seq
    ((soapWriterElementText_short (by decide)
      (show (asciiBytes "NOT_IMPLEMENTED").length ≤ 15 by decide)).seq
    (soapWriterElementText_short (by decide)
      (show (asciiBytes "NOT_IMPLEMENTED").length ≤ 15 by decide)))))))))
  rw [h.mediaUri, h.mediaMetadata] at hputs ⊢
  simp only [xmlElements, mediaInfoItems, flatMap_cons, flatMap_nil, append_nil,
    h.mediaUri, h.mediaMetadata]
  exact hputs.mono (by omega)

/-- What `GetPositionInfo` writes, and the room it needs. -/
lemma StoredUri.puts_positionInfo (h : StoredUri state uri metadata) (htimes : ShortTimes state) :
    (avtransportWritePositionInfo state (xmlEscaped (state.text .currentTrackUri))
        (xmlEscaped (state.text .currentTrackMetaData))).Puts
      (xmlElements (positionInfoItems state))
      ((xmlEscaped uri).length + (xmlEscaped metadata).length + 700) := by
  have hputs : (avtransportWritePositionInfo state (xmlEscaped (state.text .currentTrackUri))
      (xmlEscaped (state.text .currentTrackMetaData))).Puts _ _ :=
    (soapWriterElementInt_short (by decide) h.track).seq
    ((soapWriterElementText_short (by decide) htimes.track).seq
    ((soapWriterElementRaw_short (by decide)).seq
    ((soapWriterElementRaw_short (by decide)).seq
    ((soapWriterElementText_short (by decide) htimes.relative).seq
    ((soapWriterElementText_short (by decide) htimes.absolute).seq
    ((soapWriterElementInt_short (by decide) h.relCount).seq
    (soapWriterElementInt_short (by decide) h.absCount)))))))
  rw [h.trackUri, h.trackMetadata] at hputs ⊢
  simp only [xmlElements, positionInfoItems, flatMap_cons, flatMap_nil, append_nil,
    h.trackUri, h.trackMetadata]
  exact hputs.mono (by omega)

lemma mediaInfoItems_wellFormed (state : ProtocolState) :
    ∀ item ∈ mediaInfoItems state, XmlName item.1 ∧ 0x3c ∉ item.2 := by
  simp only [mediaInfoItems, forall_mem_cons]
  refine ⟨⟨by decide, not_mem_soapDecimal _⟩, ?_, ?_, ?_, ?_, ?_, ?_, ?_, ?_, nofun⟩
  all_goals exact ⟨by decide, not_mem_xmlEscaped _⟩

lemma positionInfoItems_wellFormed (state : ProtocolState) :
    ∀ item ∈ positionInfoItems state, XmlName item.1 ∧ 0x3c ∉ item.2 := by
  simp only [positionInfoItems, forall_mem_cons]
  refine ⟨⟨by decide, not_mem_soapDecimal _⟩, ?_, ?_, ?_, ?_, ?_, ⟨by decide, not_mem_soapDecimal _⟩,
    ⟨by decide, not_mem_soapDecimal _⟩, nofun⟩
  all_goals exact ⟨by decide, not_mem_xmlEscaped _⟩

lemma extract_response {items : List (List UInt8 × List UInt8)} {actionName : List UInt8}
    {tag text : List UInt8} {writer : SoapWriter} {size : ℕ}
    (hputs : writer.Puts (xmlElements items) size)
    (hitems : ∀ item ∈ items, XmlName item.1 ∧ 0x3c ∉ item.2)
    (henvelope : sameTag tag (asciiBytes "s:Envelope") = false ∧
      sameTag tag (asciiBytes "s:Body") = false ∧
      XmlName (asciiBytes "u:" ++ actionName ++ asciiBytes "Response") ∧
      sameTag tag (asciiBytes "u:" ++ actionName ++ asciiBytes "Response") = false)
    (hfind : items.find? (fun item => sameTag tag item.1) = some (tag, xmlEscaped text))
    (htrim : trimWhitespace text = text) {body : List UInt8}
    (hbody : (writer.output.bind fun args => buildSoapSuccess
      (asciiBytes "urn:schemas-upnp-org:service:AVTransport:1") actionName args) = some body) :
    soapExtractFrom tag 0 body = some text := by
  obtain ⟨args, hargs, hbody⟩ := Option.bind_eq_some_iff.mp hbody
  obtain ⟨rfl, -⟩ := hputs.output_eq hargs
  obtain ⟨hsoap, hinner, hname, hother⟩ := henvelope
  have hhead := envelope hsoap hinner hname hother
    (show 0x3c ∉ asciiBytes "urn:schemas-upnp-org:service:AVTransport:1" by decide)
  rw [buildSoapSuccess_extract hhead hitems hfind hbody, xmlDecode_xmlEscaped, htrim]

/-- **The stored texts come back.** -/
lemma StoredUri.givesBack (h : StoredUri state uri metadata) (htimes : ShortTimes state)
    (huri : trimWhitespace uri = uri) (hmetadata : trimWhitespace metadata = metadata) :
    GivesBack state uri metadata := by
  constructor
  · intro body hbody
    rw [getMediaInfoResponse, avtransportGetMediaInfo_eq] at hbody
    constructor
    · refine extract_response (h.puts_mediaInfo htimes) (mediaInfoItems_wellFormed state)
        (by decide) ?_ huri hbody
      rw [← h.mediaUri]
      rfl
    · refine extract_response (h.puts_mediaInfo htimes) (mediaInfoItems_wellFormed state)
        (by decide) ?_ hmetadata hbody
      rw [← h.mediaMetadata]
      rfl
  · intro body hbody
    rw [getPositionInfoResponse, avtransportGetPositionInfo_eq] at hbody
    constructor
    · refine extract_response (h.puts_positionInfo htimes) (positionInfoItems_wellFormed state)
        (by decide) ?_ huri hbody
      rw [← h.trackUri]
      rfl
    · refine extract_response (h.puts_positionInfo htimes) (positionInfoItems_wellFormed state)
        (by decide) ?_ hmetadata hbody
      rw [← h.trackMetadata]
      rfl

/-- The responses are built where the escaped texts leave room for the rest. -/
lemma StoredUri.isSome (h : StoredUri state uri metadata) (htimes : ShortTimes state)
    (hsize : (xmlEscaped uri).length + (xmlEscaped metadata).length ≤ 97600) :
    (getMediaInfoResponse state).isSome ∧ (getPositionInfoResponse state).isSome := by
  have hlimit : (xmlEscaped uri).length + (xmlEscaped metadata).length + 700 <
      soapHandlerOutputMax := by
    rw [soapHandlerOutputMax]
    omega
  constructor
  · rw [getMediaInfoResponse, avtransportGetMediaInfo_eq,
      ((h.puts_mediaInfo htimes).output hlimit).1]
    exact isSome_buildSoapSuccess (by decide +kernel) _
  · rw [getPositionInfoResponse, avtransportGetPositionInfo_eq,
      ((h.puts_positionInfo htimes).output hlimit).1]
    exact isSome_buildSoapSuccess (by decide +kernel) _

end Stored

/-! ## The variables that stay -/

/-- A write that leaves the variables that stay. -/
def ProtocolWrite.Leaves (write : ProtocolWrite) : Prop := write.name ∉ unwrittenVariables

lemma ProtocolState.Unwritten.write {state : ProtocolState} (h : state.Unwritten)
    {write : ProtocolWrite} (hwrite : write.Leaves) : (state.write write).Unwritten := by
  intro name hname
  rw [value_write, if_neg]
  · exact h name hname
  · rintro rfl
    exact hwrite hname

lemma DlnaAction.writes_leave (action : DlnaAction) : ∀ write ∈ action.writes, write.Leaves := by
  cases action <;> simp [DlnaAction.writes, applySetUri, setTransportSpeed, applyPlay, applyPause,
    applyStop, applySeekTarget, setTransportStatus,
    setCurrentPlayMode, setTransportTiming, ProtocolWrite.Leaves,
    name, unwrittenVariables]

lemma RendererEvent.writes_leave (event : RendererEvent) :
    ∀ write ∈ onRendererEvent event, write.Leaves := by
  rw [onRendererEvent]
  split <;> try split
  all_goals simp [ProtocolWrite.Leaves, name, unwrittenVariables]

namespace DlnaSystem

variable {s : DlnaSystem}

/-- What an action is still to write. -/
def soapLeft (s : DlnaSystem) : List ProtocolWrite :=
  match s.soap with
  | .writing left => left
  | _ => []

/-- What every run keeps. -/
structure LeavesUnwritten (s : DlnaSystem) : Prop where
  state : s.state.Unwritten
  soap : ∀ write ∈ s.soapLeft, write.Leaves
  handler : ∀ write ∈ s.handlerLeft, write.Leaves

lemma LeavesUnwritten.soapStep (h : s.LeavesUnwritten) : s.soapStep.LeavesUnwritten := by
  have hsoap := h.soap
  rw [DlnaSystem.soapStep]
  split
  · rename_i write left hwrites
    rw [soapLeft, hwrites] at hsoap
    exact ⟨h.state.write (hsoap write mem_cons_self),
      fun later hlater => hsoap later (mem_cons_of_mem write hlater), h.handler⟩
  · exact ⟨h.state, by rintro _ ⟨⟩, h.handler⟩
  · exact h

lemma LeavesUnwritten.handlerStep (h : s.LeavesUnwritten) : s.handlerStep.LeavesUnwritten := by
  have hhand := h.handler
  rw [DlnaSystem.handlerStep]
  split
  · exact h
  · rename_i write left event hwrites
    rw [handlerLeft, hwrites] at hhand
    exact ⟨h.state.write (hhand write mem_cons_self), h.soap,
      fun later hlater => hhand later (mem_cons_of_mem write hlater)⟩
  · exact ⟨h.state, h.soap, by rintro _ ⟨⟩⟩

lemma LeavesUnwritten.step (h : s.LeavesUnwritten) (label : DlnaLabel) :
    (s.step label).LeavesUnwritten := by
  cases label with
  | action action =>
    rw [DlnaSystem.step, callAction]
    split
    · split
      · exact h
      refine ⟨h.state, ?_, h.handler⟩
      cases action.submits
      · exact action.writes_leave
      · rintro _ ⟨⟩
    · exact h
  | answered succeeded =>
    rw [DlnaSystem.step, answerAction]
    split
    · rename_i action _
      refine ⟨h.state, ?_, h.handler⟩
      cases succeeded
      · rintro _ ⟨⟩
      · exact action.writes_leave
    · exact h
  | soap => exact h.soapStep
  | opened =>
    rw [DlnaSystem.step, openMedia]
    split
    · exact ⟨h.state, h.soap, h.handler⟩
    · exact h
  | rendererEvent owner event =>
    rw [DlnaSystem.step, callHandler]
    split
    · split
      · exact ⟨h.state, h.soap, event.writes_leave⟩
      · exact h
    · exact h
  | handler => exact h.handlerStep
  | request | stop => exact ⟨h.state, h.soap, h.handler⟩
  | worker now sent =>
    have hstep : (s.workerStep now sent).state = s.state ∧ (s.workerStep now sent).soap = s.soap ∧
        (s.workerStep now sent).handler = s.handler := by
      rw [DlnaSystem.workerStep]
      split
      · split
        · exact ⟨rfl, rfl, rfl⟩
        · split <;> exact ⟨rfl, rfl, rfl⟩
      · exact ⟨rfl, rfl, rfl⟩
      · split <;> exact ⟨rfl, rfl, rfl⟩
      all_goals exact ⟨rfl, rfl, rfl⟩
    obtain ⟨hstate, hsoap, hhand⟩ := hstep
    refine ⟨?_, ?_, ?_⟩
    · rw [DlnaSystem.step, hstate]
      exact h.state
    · rw [DlnaSystem.step, soapLeft, hsoap]
      exact h.soap
    · rw [DlnaSystem.step, handlerLeft, hhand]
      exact h.handler

lemma LeavesUnwritten.of_reachable {ok : DlnaSystem → DlnaLabel → Prop}
    (hrun : Runs.Reachable DlnaSystem.step initial ok s) : s.LeavesUnwritten :=
  hrun.invariant (P := LeavesUnwritten) ⟨fun _ _ => rfl, by exact nofun, by exact nofun⟩
    fun _ label h _ => h.step label

end DlnaSystem

/-! ## The result -/

/-- The state once a `SetAVTransportURI` has been accepted and some queries have been answered. -/
def storedState (uri metadata : List UInt8) (queries : List RendererTimes) :
    ProtocolState :=
  queries.foldl ProtocolState.queried (state.writeAll (DlnaAction.setUri uri metadata).writes)

lemma StoredUri.of_stored {state : ProtocolState} (h : state.Unwritten) (uri metadata : List UInt8)
    (queries : List RendererTimes) : StoredUri (storedState state uri metadata queries) uri metadata := by
  induction queries using reverseRecOn with
  | nil => exact .of_setUri h uri metadata
  | append_singleton queries times ih =>
    rw [storedState, foldl_concat]
    exact ih.queried times

lemma trimmed_of_avtransportSetUri {body uri metadata : List UInt8}
    (h : avtransportSetUri body = some (.setUri uri metadata)) :
    trimWhitespace uri = uri ∧ trimWhitespace metadata = metadata := by
  obtain ⟨_, -, h⟩ := Option.bind_eq_some_iff.mp h
  obtain ⟨value, huri, h⟩ := Option.bind_eq_some_iff.mp h
  cases h
  refine ⟨trimWhitespace_of_extracted huri, ?_⟩
  cases hmetadata : soapHandlerExtractXmlValue body "CurrentURIMetaData" with
  | none => rfl
  | some metadata => exact trimWhitespace_of_extracted hmetadata

/-- **There and back.** -/
theorem uri_round_trip {s : DlnaSystem}
    (hrun : Runs.Reachable DlnaSystem.step .initial (fun _ _ => True) s)
    {body uri metadata : List UInt8} (hbody : avtransportSetUri body = some (.setUri uri metadata))
    (queries : List RendererTimes) (times : RendererTimes) :
    GivesBack ((storedState s.state uri metadata queries).queried times) uri metadata ∧
      ((xmlEscaped uri).length + (xmlEscaped metadata).length ≤ 97600 →
        (getMediaInfoResponse
            ((storedState s.state uri metadata queries).queried times)).isSome = true ∧
          (getPositionInfoResponse
            ((storedState s.state uri metadata queries).queried times)).isSome = true) ∧
      ∀ tag name text out, XmlName name → sameTag tag name = true →
        (soapWriterElementText name text).output = some out →
          soapExtractFrom tag 0 out = some (trimWhitespace text) := by
  have hstored := (StoredUri.of_stored (DlnaSystem.LeavesUnwritten.of_reachable hrun).state
    uri metadata queries).queried times
  have htimes := ShortTimes.of_queried (storedState s.state uri metadata queries) times
  obtain ⟨huri, hmetadata⟩ := trimmed_of_avtransportSetUri hbody
  refine ⟨hstored.givesBack htimes huri hmetadata, hstored.isSome htimes, ?_⟩
  exact fun tag name text out => soapExtractFrom_elementText

theorem uri_round_trip_simple :
    GivesBack ((storedState .initial (asciiBytes "http://a/?b&c") [] []).queried
      ⟨0, 0, by decide, by decide⟩) (asciiBytes "http://a/?b&c") [] := by
  have hbody : avtransportSetUri (asciiBytes "<InstanceID>0</InstanceID>" ++
      asciiBytes "<CurrentURI> http://a/?b&amp;c </CurrentURI>") =
        some (.setUri (asciiBytes "http://a/?b&c") []) := by
    decide +kernel
  exact (uri_round_trip .start hbody [] ⟨0, 0, by decide, by decide⟩).1

/-! ## Two nested elements -/

section Nested

variable {tag text rest : List UInt8}

lemma xmlEscaped_append (text rest : List UInt8) :
    xmlEscaped (text ++ rest) = xmlEscaped text ++ xmlEscaped rest :=
  flatMap_append

lemma xmlValue_of_not_mem (h : 0x3c ∉ text) :
    xmlValue tag (text ++ rest) = (xmlValue tag rest).map (text ++ ·) := by
  induction text with
  | nil => exact Option.map_id'.symm
  | cons byte text ih =>
    obtain ⟨hbyte, htext⟩ := not_or.mp fun hor => h (mem_cons.mpr hor)
    rw [cons_append, xmlValue, if_neg fun hboth => hbyte hboth.1.symm, ih htext, Option.map_map]
    rfl

variable (n : ℕ)

/-- Some quotation marks. -/
def quotes : List UInt8 := List.replicate n 0x22

lemma xmlDecode_of_not_mem (h : 0x26 ∉ text) : xmlDecode text = text := by
  induction text with
  | nil => rfl
  | cons byte text ih =>
    obtain ⟨hbyte, htext⟩ := not_or.mp fun hor => h (mem_cons.mpr hor)
    rw [xmlDecode_cons (Ne.symm hbyte), ih htext]

lemma trimWhitespace_of_ends {first last : UInt8} (hfirst : isspace first = false)
    (hlast : isspace last = false) (text : List UInt8) :
    trimWhitespace (first :: text ++ [last]) = first :: text ++ [last] := by
  rw [trimWhitespace, reverse_append, reverse_singleton, singleton_append,
    dropWhile_cons, hlast, if_neg Bool.false_ne_true, reverse_cons, reverse_reverse,
    cons_append, dropWhile_cons, hfirst, if_neg Bool.false_ne_true]

lemma length_xmlEscaped_quotes : (xmlEscaped (quotes n)).length = n * 6 := by
  induction n with
  | zero => rfl
  | succ n ih =>
    have hcons : xmlEscaped (quotes (n + 1)) = asciiBytes "&quot;" ++ xmlEscaped (quotes n) := rfl
    have hquot : (asciiBytes "&quot;").length = 6 := by decide
    rw [hcons, length_append, ih, hquot]
    omega

/-- The metadata of the request, in quotation marks. -/
def nestedMetadata : List UInt8 := 0x22 :: quotes n ++ [0x22]

/-- The metadata as an element, which is the URI. -/
def nestedUri : List UInt8 :=
  xmlElement (asciiBytes "CurrentURIMetaData") (nestedMetadata n)

/-- A request whose `CurrentURI` holds its `CurrentURIMetaData`. -/
def nestedBody : List UInt8 :=
  xmlElement (asciiBytes "InstanceID") (asciiBytes "0") ++
    (0x3c :: (asciiBytes "CurrentURI" ++ 0x3e :: (nestedUri n ++ asciiBytes "</CurrentURI>")))

lemma not_mem_nestedMetadata {byte : UInt8} (hbyte : byte ≠ 0x22) (n : ℕ) :
    byte ∉ nestedMetadata n := by
  intro hmem
  simp only [nestedMetadata, quotes, mem_append, mem_cons, mem_replicate,
    not_mem_nil, or_false] at hmem
  rcases hmem with (rfl | ⟨-, rfl⟩) | rfl <;> exact hbyte rfl

lemma xmlValue_nestedUri :
    xmlValue (asciiBytes "CurrentURI") (nestedUri n ++ asciiBytes "</CurrentURI>") =
      some (nestedUri n) := by
  have huri (rest : List UInt8) : nestedUri n ++ rest =
      0x3c :: ((asciiBytes "CurrentURIMetaData" ++ 0x3e :: nestedMetadata n) ++
        0x3c :: (asciiBytes "/CurrentURIMetaData>" ++ rest)) := by
    rw [nestedUri, xmlElement_eq]
    simp only [cons_append, append_assoc]
    rfl
  have hinner : 0x3c ∉ asciiBytes "CurrentURIMetaData" ++ 0x3e :: nestedMetadata n := by
    simp only [mem_append, mem_cons, not_or]
    exact ⟨by decide, by decide, not_mem_nestedMetadata (by decide) n⟩
  have hlast : xmlValue (asciiBytes "CurrentURI") (0x3c ::
      (asciiBytes "/CurrentURIMetaData>" ++ asciiBytes "</CurrentURI>")) =
      some (0x3c :: asciiBytes "/CurrentURIMetaData>") := by
    decide
  have hfirst (rest : List UInt8) :
      xmlValue (asciiBytes "CurrentURI") (0x3c :: ((asciiBytes "CurrentURIMetaData" ++ 0x3e ::
        nestedMetadata n) ++ rest)) =
      (xmlValue (asciiBytes "CurrentURI") ((asciiBytes "CurrentURIMetaData" ++ 0x3e ::
        nestedMetadata n) ++ rest)).map (0x3c :: ·) := by
    rw [xmlValue, if_neg]
    rintro ⟨-, hslash, -⟩
    exact absurd (Option.some.inj hslash) (by decide)
  have hself := huri []
  rw [append_nil, append_nil] at hself
  rw [huri, hfirst, xmlValue_of_not_mem hinner, hlast, hself]
  rfl

lemma trimWhitespace_nestedUri : trimWhitespace (nestedUri n) = nestedUri n := by
  have huri : nestedUri n = 0x3c :: (asciiBytes "CurrentURIMetaData" ++ 0x3e ::
      nestedMetadata n ++ asciiBytes "</CurrentURIMetaData") ++ [0x3e] := by
    simp only [cons_append, append_assoc]
    rfl
  rw [huri]
  exact trimWhitespace_of_ends (by decide) (by decide) _

lemma avtransportSetUri_nested :
    avtransportSetUri (nestedBody n) = some (.setUri (nestedUri n) (nestedMetadata n)) := by
  have hinst : soapHandlerExtractXmlValue (nestedBody n) "InstanceID" =
      some (trimWhitespace (xmlDecode (asciiBytes "0"))) :=
    soapExtractFrom_element (by decide) (by decide) (by decide) _
  have huri : soapHandlerExtractXmlValue (nestedBody n) "CurrentURI" = some (nestedUri n) := by
    rw [soapHandlerExtractXmlValue, nestedBody, element (by decide) (by decide) (by decide),
      soapExtractFrom_opened (by decide) (by decide) (xmlValue_nestedUri n), xmlDecode_of_not_mem,
      trimWhitespace_nestedUri]
    simp only [nestedUri, xmlElement, mem_append, not_or]
    exact ⟨⟨⟨⟨by decide, by decide⟩, by decide⟩, not_mem_nestedMetadata (by decide) n⟩,
      ⟨by decide, by decide⟩, by decide⟩
  have hmetadata : soapHandlerExtractXmlValue (nestedBody n) "CurrentURIMetaData" =
      some (nestedMetadata n) := by
    have hopen : Passes (asciiBytes "CurrentURIMetaData")
        (0x3c :: asciiBytes "CurrentURI" ++ 0x3e :: []) :=
      .opening (by decide) (by decide) (by decide) (by decide)
    rw [soapHandlerExtractXmlValue, nestedBody, element (by decide) (by decide) (by decide)]
    have hassoc (rest : List UInt8) : 0x3c :: (asciiBytes "CurrentURI" ++ 0x3e :: rest) =
        (0x3c :: asciiBytes "CurrentURI" ++ 0x3e :: []) ++ rest := by
      simp only [cons_append, append_assoc, nil_append]
    rw [hassoc, hopen, nestedUri, soapExtractFrom_element (by decide) (by decide)
      (not_mem_nestedMetadata (by decide) n),
      xmlDecode_of_not_mem (not_mem_nestedMetadata (by decide) n)]
    exact congrArg some (trimWhitespace_of_ends (by decide) (by decide) _)
  rw [avtransportSetUri, hinst, huri, hmetadata]
  rfl

lemma length_xmlEscaped_nested :
    n * 6 ≤ (xmlEscaped (nestedMetadata n)).length ∧ n * 6 ≤ (xmlEscaped (nestedUri n)).length := by
  have hmetadata : n * 6 ≤ (xmlEscaped (nestedMetadata n)).length := by
    have happend : nestedMetadata n = [0x22] ++ quotes n ++ [0x22] := rfl
    rw [happend, xmlEscaped_append, xmlEscaped_append, length_append, length_append,
      length_xmlEscaped_quotes]
    omega
  refine ⟨hmetadata, ?_⟩
  simp only [nestedUri, xmlElement, xmlEscaped_append, length_append]
  omega

lemma getMediaInfoResponse_nested (times : RendererTimes) :
    getMediaInfoResponse ((storedState .initial (nestedUri 10000) (nestedMetadata 10000) []).queried
      times) = none := by
  have hunwritten : initial.Unwritten := fun _ _ => rfl
  have hstore := (StoredUri.of_stored hunwritten (nestedUri 10000) (nestedMetadata 10000) []).queried
    times
  have hputs := hstore.puts_mediaInfo (ShortTimes.of_queried _ times)
  generalize (storedState .initial (nestedUri 10000) (nestedMetadata 10000) []).queried times =
    state at *
  rw [getMediaInfoResponse, avtransportGetMediaInfo_eq]
  cases hout : (avtransportWriteMediaInfo state (xmlEscaped (state.text .avTransportUri))
      (xmlEscaped (state.text .avTransportUriMetaData))).output with
  | none => rfl
  | some out =>
    obtain ⟨-, hlen⟩ := hputs.output_eq hout
    obtain ⟨hmetadata, huri⟩ := length_xmlEscaped_nested 10000
    simp only [xmlElements, mediaInfoItems, xmlElement, flatMap_cons, length_append,
      hstore.mediaUri, hstore.mediaMetadata, soapHandlerOutputMax] at hlen
    omega

/-- A blank at the end is lost, and a URI that holds its own metadata can be too long to report. -/
theorem uri_round_trip_nested :
    (¬∀ tag name text out, XmlName name → sameTag tag name = true → 0 ∉ text →
      (soapWriterElementText name text).output = some out →
        soapExtractFrom tag 0 out = some text) ∧
    ¬∀ body uri metadata, body.length < 16000 →
      avtransportSetUri body = some (.setUri uri metadata) → ∀ times,
        (getMediaInfoResponse ((storedState .initial uri metadata []).queried times)).isSome = true := by
  constructor
  · intro h
    have hout : (soapWriterElementText (asciiBytes "a") [0x20]).output =
        some (xmlElement (asciiBytes "a") (xmlEscaped [0x20])) := by
      decide
    have hextract := h (asciiBytes "a") (asciiBytes "a") [0x20] _ (by decide) (by decide)
      (by decide) hout
    exact absurd hextract (by decide)
  intro h
  have hlength : (nestedBody 10000).length < 16000 := by
    simp only [nestedBody, nestedUri, nestedMetadata, quotes, xmlElement, List.length_append,
      List.length_cons, List.length_replicate, List.length_nil]
    have hbrackets : (asciiBytes "<").length ≤ 2 ∧ (asciiBytes "</").length ≤ 2 ∧
        (asciiBytes ">").length ≤ 2 ∧ (asciiBytes "0").length ≤ 2 := by
      decide
    have hnames : (asciiBytes "InstanceID").length ≤ 20 ∧ (asciiBytes "CurrentURI").length ≤ 20 ∧
        (asciiBytes "CurrentURIMetaData").length ≤ 20 ∧
        (asciiBytes "</CurrentURI>").length ≤ 20 := by
      decide
    omega
  have hsome := h (nestedBody 10000) _ _ hlength (avtransportSetUri_nested 10000)
    ⟨0, 0, by decide, by decide⟩
  rw [getMediaInfoResponse_nested] at hsome
  cases hsome

end Nested

end NXCast

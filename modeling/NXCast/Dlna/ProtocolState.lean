import NXCast.App.PlaybackObserver
import NXCast.Framework.TextSearch
import NXCast.Rtsp.Text

/-!
# The protocol state

`protocol_state.c`: the variables of the DLNA services, and what the SOAP actions and the events of
the player write to them.  Two threads write, and each variable by itself, so a function here gives
its writes in order and `ProtocolState.write` makes one of them.

Of the variables the state holds those that an action or an event writes, that a notification
carries or that a response to a query does.
-/

namespace NXCast

/-! ## Data -/

/-- The variables with a text. -/
inductive ProtocolText where
  | transportState
  | transportStatus
  | transportPlaySpeed
  | currentPlayMode
  | avTransportUri
  | avTransportUriMetaData
  | nextAvTransportUri
  | nextAvTransportUriMetaData
  | currentTrackUri
  | currentTrackMetaData
  | currentTrackTitle
  | currentMediaDuration
  | currentTrackDuration
  | relativeTimePosition
  | absoluteTimePosition
  | playbackStorageMedium
  | currentConnectionIds
deriving DecidableEq

/-- The variables with a number. -/
inductive ProtocolNumber where
  | currentTrack
  | numberOfTracks
  | relativeCounterPosition
  | absoluteCounterPosition
  | volume
deriving DecidableEq

/-- `DlnaProtocolStateView` -/
structure ProtocolState where
  text : ProtocolText → List UInt8
  number : ProtocolNumber → ℤ
  mute : Bool

/-- `set_state_string_by_name`, `set_state_int_by_name` and `set_state_bool_by_name` -/
inductive ProtocolWrite where
  | text (name : ProtocolText) (value : List UInt8)
  | number (name : ProtocolNumber) (value : ℤ)
  | mute (value : Bool)
deriving DecidableEq

/-- `RendererEvent` -/
structure RendererEvent where
  type : PlayerEventType
  state : PlayerState
  positionMs : ℤ
  durationMs : ℤ
  volume : ℤ
  mute : Bool
deriving DecidableEq

/-- A SOAP action that writes, its arguments read: a seek has its target, and `GetMediaInfo` and
`GetPositionInfo` have the times of the renderer's snapshot. -/
inductive DlnaAction where
  | setUri (uri metadata : List UInt8)
  | play (speed : List UInt8)
  | pause
  | stop
  | seek (target : List UInt8)
  | setPlayMode
  | getInfo (durationMs positionMs : ℤ)
deriving DecidableEq

/-! ## Values -/

/-- `%02d` of a number that is not negative. -/
def twoDigits (value : ℕ) : List UInt8 :=
  if value < 10 then 0x30 :: Decimal.digits value else Decimal.digits value

/-- `dlna_protocol_format_hhmmss_alloc` -/
def formatHhmmss (valueMs : ℤ) : List UInt8 :=
  let totalSeconds := valueMs.toNat / 1000
  twoDigits (totalSeconds / 3600) ++ asciiBytes ":" ++ twoDigits (totalSeconds % 3600 / 60) ++
    asciiBytes ":" ++ twoDigits (totalSeconds % 60)

/-- The local name of a tag: what stands behind the first colon. -/
def localName (name : List UInt8) : List UInt8 :=
  match name.dropWhile (· ≠ 0x3a) with
  | [] => name
  | _ :: rest => rest

/-- A byte of a tag's name in `protocol_extract_title_alloc`. -/
def titleNameByte (byte : UInt8) : Bool := !(asciiBytes "> \t/").contains byte

/-- `protocol_extract_title_alloc` -/
def protocolExtractTitle : List UInt8 → Option (List UInt8)
  | [] => none
  | byte :: rest =>
    let name := rest.takeWhile titleNameByte
    if byte ≠ 0x3c then protocolExtractTitle rest
    else if (rest.head?.elim false (asciiBytes "/?!").contains) ∨ name = [] ∨
        (localName name).map tolower ≠ asciiBytes "title" then
      protocolExtractTitle rest
    else
      match (rest.drop name.length).dropWhile (· ≠ 0x3e) with
      | [] => none
      | _ :: value =>
        match TextSearch.first (asciiBytes "</") value with
        | none | some 0 => none
        | some length => some (value.take length)

/-- `should_apply_transport_state_from_renderer` -/
def shouldApplyTransportStateFromRenderer : PlayerState → Bool
  | .playing | .paused | .stopped | .idle | .error => true
  | .loading | .buffering | .seeking => false

/-- `dlna_protocol_transport_state_from_renderer_state` -/
def transportStateFromRendererState : PlayerState → List UInt8
  | .playing => asciiBytes "PLAYING"
  | .paused => asciiBytes "PAUSED_PLAYBACK"
  | .loading | .buffering | .seeking => asciiBytes "TRANSITIONING"
  | .idle | .stopped => asciiBytes "STOPPED"
  | .error => asciiBytes "STOPPED"

/-- `dlna_protocol_transport_status_from_renderer_state` -/
def transportStatusFromRendererState (state : PlayerState) : List UInt8 :=
  if state = .error then asciiBytes "ERROR_OCCURRED" else asciiBytes "OK"

/-! ## Writes -/

namespace ProtocolState

/-- One variable is written. -/
def write (s : ProtocolState) : ProtocolWrite → ProtocolState
  | .text name value => { s with text := Function.update s.text name value }
  | .number name value => { s with number := Function.update s.number name value }
  | .mute value => { s with mute := value }

/-- `apply_macast_defaults`, on the variables without a value. -/
def initial : ProtocolState where
  text
    | .currentPlayMode => asciiBytes "NORMAL"
    | .transportPlaySpeed => asciiBytes "1"
    | .transportStatus => asciiBytes "OK"
    | .transportState => asciiBytes "STOPPED"
    | .currentMediaDuration | .currentTrackDuration | .relativeTimePosition
    | .absoluteTimePosition => asciiBytes "00:00:00"
    | .currentConnectionIds => asciiBytes "0"
    | .playbackStorageMedium => asciiBytes "NONE"
    | _ => []
  number
    | .relativeCounterPosition | .absoluteCounterPosition => 2147483647
    | .currentTrack | .numberOfTracks => 0
    | .volume => 100
  mute := false

/-- `dlna_protocol_state_apply_set_uri` -/
def applySetUri (uri metadata : List UInt8) : List ProtocolWrite :=
  [.text .avTransportUri uri,
    .text .avTransportUriMetaData metadata,
    .text .currentTrackUri uri,
    .text .currentTrackMetaData metadata,
    .text .playbackStorageMedium (asciiBytes (if uri ≠ [] then "NETWORK" else "NONE")),
    .text .currentTrackTitle ((protocolExtractTitle metadata).getD []),
    .number .currentTrack (if uri ≠ [] then 1 else 0),
    .number .numberOfTracks (if uri ≠ [] then 1 else 0),
    .text .relativeTimePosition (asciiBytes "00:00:00"),
    .text .absoluteTimePosition (asciiBytes "00:00:00"),
    .text .transportState (asciiBytes "PAUSED_PLAYBACK"),
    .text .transportStatus (asciiBytes "OK")]

/-- `dlna_protocol_state_apply_play` -/
def applyPlay : List ProtocolWrite :=
  [.text .transportState (asciiBytes "PLAYING"), .text .transportStatus (asciiBytes "OK")]

/-- `dlna_protocol_state_apply_pause` -/
def applyPause : List ProtocolWrite :=
  [.text .transportState (asciiBytes "PAUSED_PLAYBACK"), .text .transportStatus (asciiBytes "OK")]

/-- `dlna_protocol_state_apply_stop` -/
def applyStop : List ProtocolWrite :=
  [.text .transportState (asciiBytes "STOPPED"), .text .transportStatus (asciiBytes "OK")]

/-- `dlna_protocol_state_apply_seek_target` -/
def applySeekTarget (target : List UInt8) : List ProtocolWrite :=
  [.text .relativeTimePosition target, .text .absoluteTimePosition target]

/-- `dlna_protocol_state_set_transport_status` -/
def setTransportStatus (status : List UInt8) : List ProtocolWrite := [.text .transportStatus status]

/-- `dlna_protocol_state_set_transport_speed` -/
def setTransportSpeed (speed : List UInt8) : List ProtocolWrite := [.text .transportPlaySpeed speed]

/-- `dlna_protocol_state_set_current_play_mode` -/
def setCurrentPlayMode (mode : List UInt8) : List ProtocolWrite := [.text .currentPlayMode mode]

/-- `dlna_protocol_state_set_transport_timing` -/
def setTransportTiming (durationMs positionMs : ℤ) : List ProtocolWrite :=
  [.text .currentMediaDuration (formatHhmmss durationMs),
    .text .currentTrackDuration (formatHhmmss durationMs),
    .text .relativeTimePosition (formatHhmmss positionMs),
    .text .absoluteTimePosition (formatHhmmss positionMs)]

/-- `dlna_protocol_state_on_renderer_event` -/
def onRendererEvent (event : RendererEvent) : List ProtocolWrite :=
  match event.type with
  | .stateChanged =>
    if shouldApplyTransportStateFromRenderer event.state then
      [.text .transportState (transportStateFromRendererState event.state),
        .text .transportStatus (transportStatusFromRendererState event.state)]
    else []
  | .positionChanged =>
    [.text .relativeTimePosition (formatHhmmss event.positionMs),
      .text .absoluteTimePosition (formatHhmmss event.positionMs)]
  | .durationChanged =>
    [.text .currentMediaDuration (formatHhmmss event.durationMs),
      .text .currentTrackDuration (formatHhmmss event.durationMs)]
  | .volumeChanged => [.number .volume event.volume]
  | .muteChanged => [.mute event.mute]
  | .uriChanged => []
  | .error =>
    [.text .transportState (asciiBytes "STOPPED"),
      .text .transportStatus (asciiBytes "ERROR_OCCURRED")]

end ProtocolState

/-! ## Actions -/

namespace DlnaAction

/-- What an action writes once its command has succeeded. -/
def writes : DlnaAction → List ProtocolWrite
  | .setUri uri metadata => ProtocolState.applySetUri uri metadata
  | .play speed => ProtocolState.setTransportSpeed speed ++ ProtocolState.applyPlay
  | .pause => ProtocolState.applyPause
  | .stop => ProtocolState.applyStop
  | .seek target =>
    ProtocolState.applySeekTarget target ++ ProtocolState.setTransportStatus (asciiBytes "OK")
  | .setPlayMode => ProtocolState.setCurrentPlayMode (asciiBytes "NORMAL")
  | .getInfo durationMs positionMs => ProtocolState.setTransportTiming durationMs positionMs

/-- An action that is refused while there is no URI. -/
def needsUri : DlnaAction → Bool
  | .play _ | .pause | .seek _ => true
  | _ => false

/-- An action that submits a command to the player, and writes only when that succeeds. -/
def submits : DlnaAction → Bool
  | .setPlayMode | .getInfo _ _ => false
  | _ => true

end DlnaAction

end NXCast

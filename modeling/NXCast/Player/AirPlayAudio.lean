import NXCast.Player.Libmpv

/-!
# The AirPlay audio of the libmpv backend

`player_libmpv_set_airplay_audio_bridge` gives mpv the sound of a mirrored screen as a track of its own.
An asynchronous `audio-add` names the bridge by a URI with a serial, and its reply selects the track.
The bridge that is replaced takes its serial along: its track is removed by the call that replaces it,
or by the reply where mpv has opened the track too late for that.

Each call holds `g_mutex` twice and drops the bridge that it replaces in between, so any number of them
may be under way.  mpv opens, lists and loses tracks and replies in any order.
-/

namespace NXCast

/-! ## Types -/

/-- What is done with the reference count and the readers of an `AirPlayStreamBridge`, which is known by
a number. -/
inductive BridgeCall where
  | retain (bridge : ℕ)
  | cancel (bridge : ℕ)
  | release (bridge : ℕ)
deriving DecidableEq

/-- An entry of mpv's `track-list`, with its `external-filename`. -/
structure MpvTrack where
  id : ℕ
  filename : Option CString
deriving DecidableEq

/-- An asynchronous call to mpv about a track: its arguments, the bridge that is attached, and whether
mpv takes it. -/
inductive AudioTrackCall where
  | add (uri : CString) (serial : ℕ) (bridge : ℕ) (taken : Bool)
  | select (track : MpvTrack) (serial : ℕ)
  | remove (track : MpvTrack)
  | abort (serial : ℕ)
deriving DecidableEq

/-- The upper half of `reply_userdata`, `LIBMPV_REPLY_AUDIO_ADD_BASE` or
`LIBMPV_REPLY_AUDIO_SELECT_BASE`. -/
inductive AudioReplyKind where
  | add
  | select
deriving DecidableEq

/-- A reply of mpv. -/
structure AudioReply where
  kind : AudioReplyKind
  serial : ℕ
  failed : Bool
deriving DecidableEq

/-- An `audio-add` that mpv has not replied to, and whether its track is listed. -/
structure AudioAdd where
  serial : ℕ
  listed : Bool
deriving DecidableEq

/-- A call that is under way with what it has read: `next` is the bridge of a call that sets the stream,
which begins with the audio. -/
inductive AirPlayFlight where
  | replacing (previous : Option ℕ) (uri : CString) (next : Option (Option ℕ))
  | removing (uri : CString) (next : Option (Option ℕ))
  | binding (bridge : Option ℕ)
  | unbinding (previous : ℕ)
  | closing (stream audio : Option ℕ)
deriving DecidableEq

/-- What a section meets: whether `track-list` can be read, whether mpv takes a call, and whether it
registers a stream protocol. -/
structure AirPlayAnswers where
  readable : Bool
  takes : Bool
  registers : Bool

/-- `"airplay://audio/%u"` -/
def airplayAudioUri (serial : ℕ) : CString :=
  CString.ofBuffer (asciiBytes "airplay://audio/" ++ Decimal.digits serial)

/-- The empty URI. -/
def noAudioUri : CString := CString.ofBuffer []

/-- `g_airplay_audio_serial++`, which passes over zero. -/
def nextAudioSerial (serial : ℕ) : ℕ :=
  if (serial + 1) % 2 ^ 32 = 0 then 1 else (serial + 1) % 2 ^ 32

/-- The static variables of `libmpv.c` that the attachment reads, mpv's side of it, the calls under way,
and the serials, calls and references up to now. -/
structure AirPlayAudio where
  backend : LibmpvBackend
  streamRegistered : Bool
  streamBridge : Option ℕ
  audioBridge : Option ℕ
  audioSerial : ℕ
  audioUri : CString
  audioPending : Bool
  tracks : List MpvTrack
  adds : List AudioAdd
  replies : List AudioReply
  flights : List AirPlayFlight
  given : List (ℕ × Option ℕ)
  calls : List AudioTrackCall
  bridges : List BridgeCall

/-! ## Sections -/

namespace AirPlayAudio

/-- Before the first `libmpv_init`. -/
def initial : AirPlayAudio where
  backend := { LibmpvBackend.initialized with mpv := false }
  streamRegistered := false
  streamBridge := none
  audioBridge := none
  audioSerial := 0
  audioUri := noAudioUri
  audioPending := false
  tracks := []
  adds := []
  replies := []
  flights := []
  given := []
  calls := []
  bridges := []

variable (answers : AirPlayAnswers) (audio : AirPlayAudio)

/-- `airplay_stream_bridge_cancel` and `airplay_stream_bridge_release`, where there is a bridge. -/
def drop (bridge : Option ℕ) : AirPlayAudio :=
  { audio with bridges := audio.bridges ++ bridge.toList.flatMap fun b => [BridgeCall.cancel b, .release b] }

/-- `airplay_stream_bridge_cancel`, where there is a bridge. -/
def cancel (bridge : Option ℕ) : AirPlayAudio :=
  { audio with bridges := audio.bridges ++ bridge.toList.map BridgeCall.cancel }

/-- `libmpv_airplay_audio_track_locked` -/
def track (uri : CString) : Option MpvTrack :=
  if !audio.backend.mpv || uri.bytes = [] || !answers.readable then none
  else audio.tracks.find? fun track => decide (track.filename = some uri)

/-- `libmpv_airplay_remove_audio_locked` -/
def remove (uri : CString) : AirPlayAudio :=
  match audio.track answers uri with
  | none => audio
  | some track => { audio with calls := audio.calls ++ [AudioTrackCall.remove track] }

/-- `libmpv_airplay_attach_audio_locked` -/
def attach : AirPlayAudio :=
  match audio.audioBridge with
  | none => audio
  | some bridge =>
    if !audio.audioPending || !audio.backend.fileLoaded then audio
    else
      let calling := { audio with
        audioPending := false
        calls := audio.calls ++
          [AudioTrackCall.add audio.audioUri audio.audioSerial bridge answers.takes] }
      if answers.takes then { calling with adds := audio.adds ++ [AudioAdd.mk audio.audioSerial false] }
      else calling.cancel (some bridge)

/-- The first section of `player_libmpv_set_airplay_audio_bridge`. -/
def setAudio (bridge : Option ℕ) (next : Option (Option ℕ)) : AirPlayAudio :=
  if bridge.isSome && (!audio.backend.mpv || !audio.streamRegistered || audio.streamBridge.isNone) then
    audio
  else
    let serial := nextAudioSerial audio.audioSerial
    { audio with
      audioBridge := bridge
      audioSerial := serial
      audioUri := if bridge.isSome then airplayAudioUri serial else noAudioUri
      audioPending := bridge.isSome
      flights := .replacing audio.audioBridge audio.audioUri next :: audio.flights
      given := audio.given ++ [(serial, bridge)]
      calls := audio.calls ++
        if audio.audioBridge.isSome && audio.backend.mpv then [AudioTrackCall.abort audio.audioSerial] else []
      bridges := audio.bridges ++ bridge.toList.map BridgeCall.retain }

/-- A call goes on as `flights`, or has returned. -/
def fly (flight : AirPlayFlight) (flights : List AirPlayFlight) : AirPlayAudio :=
  { audio with flights := flights ++ audio.flights.erase flight }

/-- The section of `player_libmpv_set_airplay_stream_bridge`. -/
def bindStream (bridge : Option ℕ) (flight : AirPlayFlight) : AirPlayAudio :=
  let registering := bridge.isSome && !audio.streamRegistered
  if registering && !(audio.backend.mpv && answers.registers) then audio.fly flight []
  else
    { audio with
      streamRegistered := audio.streamRegistered || registering
      streamBridge := bridge
      bridges := audio.bridges ++ bridge.toList.map BridgeCall.retain }.fly flight
        (audio.streamBridge.toList.map AirPlayFlight.unbinding)

/-- A call goes on. -/
def advance (flight : AirPlayFlight) : AirPlayAudio :=
  match flight with
  | .replacing previous uri next => (audio.drop previous).fly flight [.removing uri next]
  | .removing uri next =>
    ((audio.remove answers uri).fly flight (next.toList.map AirPlayFlight.binding)).attach answers
  | .binding bridge => audio.bindStream answers bridge flight
  | .unbinding previous => (audio.drop (some previous)).fly flight []
  | .closing stream sound => ((audio.drop stream).drop sound).fly flight []

/-- What `libmpv_airplay_audio_reply` does when mpv has added the track of the bridge that is set. -/
def selectAudio (serial : ℕ) : AirPlayAudio :=
  match audio.track answers (airplayAudioUri serial) with
  | none => audio.cancel audio.audioBridge
  | some track =>
    let calling := { audio with calls := audio.calls ++ [AudioTrackCall.select track serial] }
    if answers.takes then calling else calling.cancel audio.audioBridge

/-- `libmpv_airplay_audio_reply` -/
def audioReply (reply : AudioReply) : AirPlayAudio :=
  let current := audio.audioBridge.isSome && decide (reply.serial = audio.audioSerial)
  let replied :=
    if reply.kind = .select then audio
    else if !current then audio.remove answers (airplayAudioUri reply.serial)
    else if !reply.failed then audio.selectAudio answers reply.serial
    else audio
  if current && reply.failed then replied.cancel audio.audioBridge else replied

/-- The section of `libmpv_deinit`.  What is left of mpv is out of reach from here on. -/
def deinit : AirPlayAudio :=
  { audio with
    backend := { LibmpvBackend.initialized with mpv := false }
    streamRegistered := false
    streamBridge := none
    audioBridge := none
    audioUri := noAudioUri
    audioPending := false
    tracks := []
    adds := []
    replies := []
    flights := .closing audio.streamBridge audio.audioBridge :: audio.flights }

end AirPlayAudio

/-! ## Steps -/

/-- A call begins or goes on, a section of the backend runs, or mpv does something. -/
inductive AirPlayLabel where
  | setAudio (bridge : Option ℕ)
  | setStream (bridge : Option ℕ)
  | advance (flight : AirPlayFlight) (answers : AirPlayAnswers)
  | deinit
  | init (created : Bool)
  | backend (label : LibmpvLabel) (answers : AirPlayAnswers)
  | reply (reply : AudioReply) (answers : AirPlayAnswers)
  | listed (add : AudioAdd) (id : ℕ)
  | answered (add : AudioAdd) (failed : Bool)
  | selected (serial : ℕ) (failed : Bool)
  | appeared (track : MpvTrack)
  | vanished (track : MpvTrack)

namespace AirPlayAudio

/-- A step of the system.  `FILE_LOADED` attaches the audio in its section. -/
def step (audio : AirPlayAudio) : AirPlayLabel → AirPlayAudio
  | .setAudio bridge => audio.setAudio bridge none
  | .setStream bridge => audio.setAudio none (some bridge)
  | .advance flight answers => if flight ∈ audio.flights then audio.advance answers flight else audio
  | .deinit => audio.deinit
  | .init created =>
    if audio.backend.mpv then audio
    else { audio with backend := { LibmpvBackend.initialized with mpv := created } }
  | .backend label answers =>
    let stepped := { audio with backend := libmpvStep audio.backend label }
    match label with
    | .fileLoaded _ => stepped.attach answers
    | _ => stepped
  | .reply reply answers =>
    if reply ∈ audio.replies then
      let replied := audio.audioReply answers reply
      { replied with replies := replied.replies.erase reply }
    else audio
  | .listed add id =>
    if add ∈ audio.adds ∧ add.listed = false then
      { audio with
        tracks := audio.tracks ++ [MpvTrack.mk id (some (airplayAudioUri add.serial))]
        adds := ⟨add.serial, true⟩ :: audio.adds.erase add }
    else audio
  | .answered add failed =>
    if add ∈ audio.adds then
      { audio with
        adds := audio.adds.erase add
        replies := audio.replies ++ [AudioReply.mk .add add.serial failed] }
    else audio
  | .selected serial failed => { audio with replies := audio.replies ++ [AudioReply.mk .select serial failed] }
  | .appeared track => { audio with tracks := audio.tracks ++ [track] }
  | .vanished track => { audio with tracks := audio.tracks.erase track }

end AirPlayAudio

/-- What is asked of a step: fewer than `2 ^ 32 - 1` serials are given, mpv's list of tracks can be
read, and a track that is not from here has another name. -/
def AirPlayLabel.Ok (audio : AirPlayAudio) : AirPlayLabel → Prop
  | .setAudio _ | .setStream _ => audio.given.length + 1 < 2 ^ 32 - 1
  | .advance _ answers | .reply _ answers => answers.readable = true
  | .appeared track => ∀ serial, track.filename ≠ some (airplayAudioUri serial)
  | _ => True

end NXCast

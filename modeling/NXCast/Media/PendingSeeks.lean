import NXCast.Framework.Sequential
import NXCast.Media.GenerationGuard

/-!
# Where seeks come from

Requests are served one after the other.  Beside the world a run keeps, for each session, the last
`/play` it has had accepted and the positions of the `/scrub` requests received since.  What the
module has recorded for the session it is bound to comes from there, and so does every seek, as
long as no `/play` begins while the position of a `/scrub` is still recorded: `handle_play` sets
the pending seeks of the Start-Position anew, and leaves the pending scrub as it is.
-/

namespace NXCast

open Interleaving Thread.Ends List AirPlayRemoteVideo Function Option AirPlayRemotePlayRequest

/-! ## Sources -/

/-- The last accepted `/play` of a session, and the positions of the `/scrub` requests received
since. -/
structure SeekSources (ν : Type) where
  play : Option (AirPlayRemotePlayRequest ν)
  scrubs : List ℤ

/-- The Start-Position of a `/play` in media of a duration. -/
def AirPlayRemotePlayRequest.startMs {ν : Type} (double : RemoteVideoDouble ν)
    (play : AirPlayRemotePlayRequest ν) (durationMs : ℤ) : ℤ :=
  if play.startIsFraction then double.fractionOf play.startValue durationMs
  else double.milliseconds play.startValue

/-- A seek comes from the Start-Position or from one of the `/scrub` requests; a pending one is
cut to the duration. -/
def SeekSources.Allows {ν : Type} (double : RemoteVideoDouble ν) (sources : SeekSources ν)
    (positionMs : ℤ) : Prop :=
  ∃ play, sources.play = some play ∧
    (positionMs ∈ sources.scrubs ∨
      ∃ durationMs, (∃ scrub ∈ sources.scrubs, positionMs = min scrub durationMs) ∨
        (play.hasStart = true ∧ positionMs = min (play.startMs double durationMs) durationMs))

/-- The seeks that were issued, in order, each with the session it was issued for. -/
def issuedSeeks (trace : List RemoteVideoEvent) : List (UInt64 × ℤ) :=
  trace.filterMap fun event =>
    match event.op with
    | .seekMs positionMs => some (event.session, positionMs)
    | _ => none

lemma issuedSeeks_record {ν : Type} (world : RemoteVideoWorld ν) (handler : RemoteVideoHandler)
    (session : UInt64) (generation : Option UInt32) (op : RemoteVideoOp)
    (h : ∀ positionMs, op ≠ .seekMs positionMs) :
    issuedSeeks (world.record handler session generation op).trace = issuedSeeks world.trace := by
  have hnone : issuedSeeks [⟨op, handler, session, generation, world.remote.place⟩] = [] := by
    unfold issuedSeeks
    rw [filterMap_cons_none, filterMap_nil]
    dsimp only
    split
    · exact absurd rfl (h _)
    · rfl
  show issuedSeeks (world.trace ++ _) = _
  unfold issuedSeeks at hnone ⊢
  rw [filterMap_append, hnone, append_nil]

lemma issuedSeeks_record_seek {ν : Type} (world : RemoteVideoWorld ν)
    (handler : RemoteVideoHandler) (session : UInt64) (generation : Option UInt32)
    (positionMs : ℤ) :
    issuedSeeks (world.record handler session generation (.seekMs positionMs)).trace =
      issuedSeeks world.trace ++ [(session, positionMs)] :=
  filterMap_append

/-! ## Requests one after the other -/

/-- A call with what is answered from outside; a response starts out as 200. -/
structure ServedCall where
  call : RemoteVideoCall
  answers : ℕ → Bool
  fresh : ∀ session request response, call = .route session request response →
    response.statusCode = 200

/-- Whether a route has accepted its request. -/
def routeAccepted (result : Option (Bool × AirPlayRtspResponse)) : Bool :=
  match result with
  | some (handled, response) => handled && response.statusCode = 200
  | none => false

/-- The world, and what each session has asked for. -/
structure SeekRun (ν : Type) where
  world : RemoteVideoWorld ν
  sources : UInt64 → SeekSources ν

open SeekRun

namespace SeekRun

variable {ν : Type} (config : AirPlayRemoteVideoConfig ν)

/-- The sources once a request has been served. -/
def received (session : UInt64) (request : AirPlayRtspRequest) (accepted : Bool)
    (sources : UInt64 → SeekSources ν) : UInt64 → SeekSources ν :=
  if request.uri = cstring "/play" then
    if accepted then Function.update sources session ⟨config.parsePlayRequest request, []⟩
    else sources
  else if RemoteVideo.uriIs request.uri "/scrub" = true ∧ request.method = cstring "POST" then
    match config.queryNumber request.uri "position" with
    | some seconds => Function.update sources session
        { sources session with
          scrubs := (sources session).scrubs ++ [config.double.milliseconds seconds] }
    | none => sources
  else sources

/-- A request is served, without interference. -/
def next (run : SeekRun ν) (served : ServedCall) : SeekRun ν :=
  match served.call with
  | .route session request response =>
    let (result, world) :=
      (RemoteVideo.airplayRemoteVideoRoute config session request response).alone served.answers
        run.world
    ⟨world, received config session request (routeAccepted result) run.sources⟩
  | call => ⟨((call.program config).alone served.answers run.world).2, run.sources⟩

end SeekRun

/-! ## What is recorded -/

/-- The fields that a pending seek is kept in, and the session. -/
def AirPlayRemoteVideo.seekFields {ν : Type} (remote : AirPlayRemoteVideo ν) :
    UInt64 × ℤ × ℤ × ν × Bool × Bool × Bool :=
  (remote.ownerSessionId, remote.pendingSeekMs, remote.pendingScrubMs, remote.pendingFraction,
    remote.pendingSeek, remote.pendingFractionSeek, remote.pendingScrub)

namespace RemoteVideoWorld

variable {ν : Type} (config : AirPlayRemoteVideoConfig ν) (sources : UInt64 → SeekSources ν)
  {world world' : RemoteVideoWorld ν}

/-- The pending seeks are those of a `/play`. -/
def SeeksOf (play : AirPlayRemotePlayRequest ν) (scrubs : List ℤ) (world : RemoteVideoWorld ν) :
    Prop :=
  (world.remote.pendingSeek = true → play.hasStart = true ∧ play.startIsFraction = false ∧
    world.remote.pendingSeekMs = config.double.milliseconds play.startValue) ∧
  (world.remote.pendingFractionSeek = true → play.hasStart = true ∧ play.startIsFraction = true ∧
    world.remote.pendingFraction = play.startValue) ∧
  (world.remote.pendingScrub = true → world.remote.pendingScrubMs ∈ scrubs)

/-- What is recorded while the module is bound to a session comes from the sources of the
session. -/
def SeeksRecorded (world : RemoteVideoWorld ν) : Prop :=
  world.remote.state ≠ .idle → ∃ play,
    (sources world.remote.ownerSessionId).play = some play ∧
      world.SeeksOf config play (sources world.remote.ownerSessionId).scrubs

/-- No seek is issued, and what is recorded goes on to come from the sources. -/
def SeekKeeps (world world' : RemoteVideoWorld ν) : Prop :=
  issuedSeeks world'.trace = issuedSeeks world.trace ∧
    (world.SeeksRecorded config sources → world'.SeeksRecorded config sources)

variable {config sources}

lemma SeekKeeps.refl (world : RemoteVideoWorld ν) : world.SeekKeeps config sources world :=
  ⟨rfl, id⟩

lemma SeekKeeps.trans {world'' : RemoteVideoWorld ν} (h : world.SeekKeeps config sources world')
    (h' : world'.SeekKeeps config sources world'') : world.SeekKeeps config sources world'' :=
  ⟨h'.1.trans h.1, fun hrec => h'.2 (h.2 hrec)⟩

lemma SeeksOf.congr {play : AirPlayRemotePlayRequest ν} {scrubs : List ℤ}
    (h : world.SeeksOf config play scrubs)
    (hfields : world'.remote.seekFields = world.remote.seekFields) :
    world'.SeeksOf config play scrubs := by
  simp only [seekFields, Prod.mk.injEq] at hfields
  obtain ⟨-, hseekMs, hscrubMs, hfrac, hseek, hfractionSeek, hscrub⟩ := hfields
  unfold SeeksOf
  rw [hseek, hseekMs, hfractionSeek, hfrac, hscrub, hscrubMs]
  exact h

/-- A section that leaves the pending seeks alone, and binds the module to no session. -/
lemma SeekKeeps.of_fields (hfields : world'.remote.seekFields = world.remote.seekFields)
    (hstate : world.remote.state = .idle → world'.remote.state = .idle)
    (htrace : issuedSeeks world'.trace = issuedSeeks world.trace) :
    world.SeekKeeps config sources world' := by
  refine ⟨htrace, fun hrec hbound => ?_⟩
  obtain ⟨play, hplay, hof⟩ := hrec fun hidle => hbound (hstate hidle)
  have hsess : world'.remote.ownerSessionId = world.remote.ownerSessionId :=
    congrArg Prod.fst hfields
  rw [hsess]
  exact ⟨play, hplay, hof.congr hfields⟩

lemma SeekKeeps.of_idle (hidle : world'.remote.state = .idle)
    (htrace : issuedSeeks world'.trace = issuedSeeks world.trace) :
    world.SeekKeeps config sources world' :=
  ⟨htrace, fun _ => absurd hidle⟩

lemma SeeksRecorded.mono {sources' : UInt64 → SeekSources ν}
    (h : world.SeeksRecorded config sources)
    (hsources : ∀ session, (sources' session).play = (sources session).play ∧
      ∀ scrub ∈ (sources session).scrubs, scrub ∈ (sources' session).scrubs) :
    world.SeeksRecorded config sources' := by
  intro hbound
  obtain ⟨play, hplay, hseek, hfrac, hscrub⟩ := h hbound
  obtain ⟨hsame, hmore⟩ := hsources world.remote.ownerSessionId
  exact ⟨play, hsame.trans hplay, hseek, hfrac, fun hpend => hmore _ (hscrub hpend)⟩

end RemoteVideoWorld

/-! ## Calls that neither play nor seek -/

namespace RemoteVideo

open RemoteVideoWorld

variable {ν : Type} {config : AirPlayRemoteVideoConfig ν} {sources : UInt64 → SeekSources ν}

lemma startPlayback_seeks (config : AirPlayRemoteVideoConfig ν) (handler : RemoteVideoHandler) (session : UInt64)
    (url metadata : List UInt8) (loaded played : Bool) (going : UInt32) (claim : Option ℕ)
    (world : RemoteVideoWorld ν) :
    let started := startPlayback config handler session url metadata loaded played going claim world
    issuedSeeks started.2.trace = issuedSeeks world.trace ∧
      (started.1 = .started ∧ started.2.remote = world.remote ∨
        started.1 = .failed claim ∧ started.2.remote.state = .idle) := by
  have hload : issuedSeeks (world.record handler session (some going) (.load url metadata)).trace =
      issuedSeeks world.trace := issuedSeeks_record world _ _ _ _ (by simp)
  have hplay : issuedSeeks ((world.record handler session (some going) (.load url metadata)).record
      handler session (some going) .play).trace = issuedSeeks world.trace :=
    (issuedSeeks_record _ _ _ _ _ (by simp)).trans hload
  cases loaded with
  | true =>
    cases played with
    | true => exact ⟨hplay, .inl ⟨rfl, rfl⟩⟩
    | false => exact ⟨hplay, .inr ⟨rfl, rfl⟩⟩
  | false => exact ⟨hload, .inr ⟨rfl, rfl⟩⟩

lemma backgroundKeeps_seek :
    BackgroundKeeps (SeekKeeps config sources : RemoteVideoWorld ν → RemoteVideoWorld ν → Prop) where
  refl := SeekKeeps.refl
  record world handler session generation _ _ hseek :=
    .of_fields rfl id (issuedSeeks_record world handler session generation _ hseek)
  hls _ _ := .of_fields rfl id rfl

lemma controlsKeep_seek :
    ControlsKeep config
      (SeekKeeps config sources : RemoteVideoWorld ν → RemoteVideoWorld ν → Prop) where
  toBackgroundKeeps := backgroundKeeps_seek
  failGeneration session failed world := by
    unfold failGenerationSection
    split
    · exact .of_idle rfl rfl
    · exact .refl world
  terminate session world := by
    unfold terminateSection
    split
    · exact .of_idle rfl rfl
    · exact .refl world
  closed session world := by
    unfold closedSection
    split
    · exact .of_idle rfl rfl
    split
    · exact .of_fields rfl id rfl
    · exact .refl world
  ready session action granted loaded played world := by
    unfold readySection
    split
    · exact .refl world
    rename_i hpend
    have hclaim := issuedSeeks_record world .action session (some action.generation)
      (.claimOwner granted) (by simp)
    split
    · exact .of_fields rfl id hclaim
    have hbound : world.remote.state ≠ .idle := by
      simp only [hlsPending, place, RemoteVideoPlace.mk.injEq,
        decide_eq_false_iff_not, not_not] at hpend
      rw [hpend.1]
      decide
    obtain ⟨hseeks, ⟨-, hrem⟩ | ⟨-, hidle⟩⟩ := startPlayback_seeks config .action session
      action.playbackUrl world.remote.pendingMetadata loaded played action.generation
      (some (grantedClaims world.trace).length)
      { world.record .action session (some action.generation) (.claimOwner granted) with
        remote := { world.remote with
          state := .active
          ownerClaimed := some (grantedClaims world.trace).length
          controlAttached := true } }
    · have hfields := congrArg seekFields hrem
      exact .of_fields (hfields.trans rfl) (fun hidle => absurd hidle hbound) (hseeks.trans hclaim)
    · exact .of_idle hidle (hseeks.trans hclaim)
  rate session rate world := by
    unfold rateSection
    split
    · exact .of_fields rfl id rfl
    · exact .refl world
  reattach session world := by
    unfold reattachSection
    split
    · exact .of_fields rfl id rfl
    · exact .refl world
  environment _ _ _ := .of_fields rfl id rfl

/-! ## `/play` -/

/-- Nothing that a `/play` goes by is changed, and no seek is issued. -/
def SameSeeks (world world' : RemoteVideoWorld ν) : Prop :=
  world'.remote.seekFields = world.remote.seekFields ∧
    world'.remote.place = world.remote.place ∧
    issuedSeeks world'.trace = issuedSeeks world.trace

lemma SameSeeks.refl (world : RemoteVideoWorld ν) : SameSeeks world world := ⟨rfl, rfl, rfl⟩

variable {world world' : RemoteVideoWorld ν}

lemma SameSeeks.trans {world'' : RemoteVideoWorld ν} (h : SameSeeks world world')
    (h' : SameSeeks world' world'') : SameSeeks world world'' :=
  ⟨h'.1.trans h.1, h'.2.1.trans h.2.1, h'.2.2.trans h.2.2⟩

lemma backgroundKeeps_same :
    BackgroundKeeps (SameSeeks : RemoteVideoWorld ν → RemoteVideoWorld ν → Prop) where
  refl := SameSeeks.refl
  record world handler session generation _ _ hseek :=
    ⟨rfl, rfl, issuedSeeks_record world handler session generation _ hseek⟩
  hls _ _ := ⟨rfl, rfl, rfl⟩

/-- A program that leaves everything a `/play` goes by alone. -/
lemma ends_same {α : Type} {t : RemoteVideoThread ν α} (h : t.Keeps SameSeeks)
    (world : RemoteVideoWorld ν) : t.Ends (fun _ world' => SameSeeks world world') world :=
  h.ends SameSeeks.refl (fun _ _ _ => SameSeeks.trans) world

/-- How a `/play` ends: it is accepted, and the module is bound to its session with its
Start-Position recorded and the scrub as it was, or the module is idle. -/
def PlayEnds (config : AirPlayRemoteVideoConfig ν) (session : UInt64) (play : AirPlayRemotePlayRequest ν)
    (response : AirPlayRtspResponse) (world : RemoteVideoWorld ν)
    (result : Option AirPlayRtspResponse) (world' : RemoteVideoWorld ν) : Prop :=
  issuedSeeks world'.trace = issuedSeeks world.trace ∧
    (result = some response ∧ world'.remote.ownerSessionId = session ∧
        world'.remote.pendingScrub = world.remote.pendingScrub ∧
        world'.remote.pendingScrubMs = world.remote.pendingScrubMs ∧
        (world.remote.pendingScrub = false → world'.SeeksOf config play []) ∨
      (∃ status, status ≠ 200 ∧ result = response.setStatus status) ∧ world'.remote.state = .idle)

/-- What the first section of a `/play` records. -/
lemma playSection_seeks (config : AirPlayRemoteVideoConfig ν) (session : UInt64) (play : AirPlayRemotePlayRequest ν) (reverseHls : Bool)
    (world : RemoteVideoWorld ν) :
    let begun := (playSection config session play reverseHls world).2
    issuedSeeks begun.trace = issuedSeeks world.trace ∧
      begun.remote.place = ⟨if reverseHls then .pendingHls else .active, session,
        (playSection config session play reverseHls world).1.generation⟩ ∧
      begun.remote.pendingScrub = world.remote.pendingScrub ∧
      begun.remote.pendingScrubMs = world.remote.pendingScrubMs ∧
      (world.remote.pendingScrub = false → begun.SeeksOf config play []) := by
  refine ⟨rfl, rfl, rfl, rfl, fun hscrub => ⟨fun hseek => ?_, fun hfrac => ?_, fun h => ?_⟩⟩
  · have hseek : (play.hasStart && !play.startIsFraction &&
        config.double.positive play.startValue) := hseek
    have hstart : play.hasStart ∧ play.startIsFraction = false := by
      simp only [Bool.and_eq_true, Bool.not_eq_true'] at hseek
      exact hseek.1
    exact ⟨hstart.1, hstart.2, if_pos hseek⟩
  · have hfrac : (play.hasStart && play.startIsFraction &&
        config.double.positive play.startValue) := hfrac
    have hstart : play.hasStart ∧ play.startIsFraction := by
      simp only [Bool.and_eq_true] at hfrac
      exact hfrac.1
    exact ⟨hstart.1, hstart.2, if_pos hfrac⟩
  · have hscrub' : world.remote.pendingScrub := h
    rw [hscrub] at hscrub'
    cases hscrub'

section Play

variable {session : UInt64} {play : AirPlayRemotePlayRequest ν} {reverseHls : Bool}
  {response : AirPlayRtspResponse} {world world' : RemoteVideoWorld ν}

/-- A `/play` that has left everything as its first section made it is accepted. -/
lemma PlayEnds.of_same (h : SameSeeks (playSection config session play reverseHls world).2 world') :
    PlayEnds config session play response world (some response) world' := by
  obtain ⟨hseeks, hplace, hscrub, hscrubMs, hof⟩ :=
    playSection_seeks config session play reverseHls world
  obtain ⟨hfields, hsame, htrace⟩ := h
  refine ⟨htrace.trans hseeks, .inl ⟨rfl, ?_, ?_, ?_, fun hnone => (hof hnone).congr hfields⟩⟩
  · exact congrArg RemoteVideoPlace.ownerSessionId (hsame.trans hplace)
  · exact (congrArg (fun fields => fields.2.2.2.2.2.2) hfields).trans hscrub
  · exact (congrArg (fun fields => fields.2.2.1) hfields).trans hscrubMs

/-- A `/play` that is given up leaves the module idle. -/
lemma PlayEnds.of_idle (htrace : issuedSeeks world'.trace = issuedSeeks world.trace)
    (hidle : world'.remote.state = .idle) (status : ℕ) (hstat : status ≠ 200) :
    PlayEnds config session play response world (response.setStatus status) world' :=
  ⟨htrace, .inr ⟨⟨status, hstat, rfl⟩, hidle⟩⟩

/-- A failed generation that is still the current one leaves the module idle. -/
lemma ends_failGeneration (handler : RemoteVideoHandler) {failed : UInt32}
    {state : AirPlayRemoteVideoSessionState} (hstate : state ≠ .idle)
    (hplace : world.remote.place = ⟨state, session, failed⟩) :
    (failGeneration config handler session failed).Ends
      (fun _ world' => world'.remote.state = .idle ∧
        issuedSeeks world'.trace = issuedSeeks world.trace) world := by
  have hgoing : world.remote.state ≠ .idle ∧ world.remote.ownerSessionId = session ∧
      world.remote.generation = failed := by
    simp only [place, RemoteVideoPlace.mk.injEq] at hplace
    exact ⟨by rw [hplace.1]; exact hstate, hplace.2⟩
  have hsec : (failGenerationSection config session failed world).2 =
      (world.clearOwner config).nextGeneration := by
    unfold failGenerationSection
    rw [if_pos hgoing]
  refine atomic_bind ((ends_same (backgroundKeeps_same.finishPlayback _ _) _).bind
    fun _ world' hsame => pure ?_)
  rw [hsec] at hsame
  exact ⟨congrArg RemoteVideoPlace.state hsame.2.1, hsame.2.2⟩

lemma ends_playHls (controlPort : UInt16) (appleSessionId : CString) :
    (playHls config session play controlPort appleSessionId response).Ends
      (PlayEnds config session play response world) world := by
  obtain ⟨hseeks, hplace, -, -, -⟩ := playSection_seeks config session play true world
  refine atomic_bind ((ends_same (backgroundKeeps_same.endReplaced _) _).bind
    fun _ replaced hrepl => atomic_bind ?_)
  have hbegun := hrepl.trans (backgroundKeeps_same.hls replaced
    (airplayRemoteHlsBegin session (playSection config session play true world).1.generation
      controlPort appleSessionId.bytes play.url replaced.remote.hls).1)
  refine bind (P := fun _ world' =>
    SameSeeks (playSection config session play true world).2 world') ?_
    fun accepted world' hsame => ite (fun _ => .of_same hsame) fun _ => ?_
  · split
    · exact (ends_same (backgroundKeeps_same.sendHlsEvent _ _) _).mono
        fun _ _ hsent => hbegun.trans hsent
    · exact hbegun
  · have hpend : world'.remote.place = ⟨.pendingHls, session,
        (playSection config session play true world).1.generation⟩ := hsame.2.1.trans hplace
    refine (ends_failGeneration .play (by decide) hpend).bind fun _ ended hended =>
      pure (.of_idle ?_ hended.1 503 (by decide))
    exact hended.2.trans (hsame.2.2.trans hseeks)

/-- The second section of a `/play` in the place the first one has made starts the playback. -/
lemma completePlaySection_going (config : AirPlayRemoteVideoConfig ν)
    (play : AirPlayRemotePlayRequest ν) {locals : PlayLocals}
    (hplace : world.remote.place = ⟨.active, session, locals.generation⟩) (claim : Option ℕ)
    (loaded played : Bool) :
    ∃ started owner, SameSeeks world started ∧
      completePlaySection config session play locals claim loaded played world =
        startPlayback config .play session play.url play.metadata loaded played locals.generation
          owner started := by
  unfold completePlaySection
  rw [if_neg (not_not.mpr hplace)]
  split
  · refine ⟨_, _, ?_, rfl⟩
    exact ⟨rfl, rfl, rfl⟩
  split
  all_goals
    refine ⟨_, _, ?_, rfl⟩
    exact ⟨rfl, rfl, rfl⟩

lemma ends_completePlay (claim : Option ℕ)
    (hsame : SameSeeks (playSection config session play false world).2 world') :
    (completePlay config session play (playSection config session play false world).1 claim
      response).Ends (PlayEnds config session play response world) world' := by
  obtain ⟨hseeks, hplace, -, -, -⟩ := playSection_seeks config session play false world
  refine answer_bind fun loaded => answer_bind fun played =>
    atomic_bind ?_
  obtain ⟨started, owner, hstart, hsec⟩ := completePlaySection_going config play
    (hsame.2.1.trans hplace) claim loaded played
  rw [hsec]
  obtain ⟨htrace, hend⟩ := startPlayback_seeks config .play session play.url play.metadata loaded
    played (playSection config session play false world).1.generation owner started
  rcases hend with ⟨houtcome, hrem⟩ | ⟨houtcome, hidle⟩
  · rw [houtcome]
    refine .of_same ((hsame.trans hstart).trans ⟨?_, ?_, htrace⟩)
    all_goals rw [hrem]
  rw [houtcome]
  refine (ends_same (backgroundKeeps_same.callback (.inr rfl) (by simp) _) _).bind
    fun _ stopped hstop => bind (P := fun _ => SameSeeks stopped) ?_
      fun _ ended hended => pure (.of_idle ?_ ?_ 503 (by decide))
  · cases owner with
    | none => exact .refl stopped
    | some number => exact ends_same (backgroundKeeps_same.releaseOwner _ _) _
  · exact hended.2.2.trans (hstop.2.2.trans (htrace.trans (hstart.2.2.trans
      (hsame.2.2.trans hseeks))))
  · have hplace' := hended.2.1.trans hstop.2.1
    exact (congrArg RemoteVideoPlace.state hplace').trans hidle

lemma ends_playDirect :
    (playDirect config session play response).Ends (PlayEnds config session play response world)
      world := by
  obtain ⟨hseeks, hplace, -, -, -⟩ := playSection_seeks config session play false world
  refine atomic_bind ((ends_same (backgroundKeeps_same.endReplaced _) _).bind
    fun _ replaced hrepl => ite (fun _ => ?_) fun _ => ends_completePlay none hrepl)
  refine (ends_same (backgroundKeeps_same.claimOwner (by decide) _) _).bind
    fun claim claimed hclaim => ?_
  have hsame := hrepl.trans hclaim
  cases claim with
  | some number => exact ends_completePlay (some number) hsame
  | none =>
    refine modify_bind (pure ?_)
    have hclaim := hsame.2.1.trans hplace
    have href : refusedSection config session (playSection config session play false world).1
        claimed = claimed.clearOwner config := by
      exact if_pos ⟨congrArg RemoteVideoPlace.generation hclaim,
        congrArg RemoteVideoPlace.ownerSessionId hclaim⟩
    have htrace : issuedSeeks (claimed.clearOwner config).trace = issuedSeeks world.trace :=
      hsame.2.2.trans hseeks
    rw [href]
    exact .of_idle htrace rfl 409 (by decide)

end Play

/-! ## Requests -/

/-- A `/play` that reaches its first locked section. -/
def StartsPlay (config : AirPlayRemoteVideoConfig ν) (request : AirPlayRtspRequest)
    (world : RemoteVideoWorld ν) : Prop :=
  request.method = cstring "POST" ∧ ∃ play, config.parsePlayRequest request = some play ∧
    (airplayRemoteHlsLocatorSupported play.url = true →
      airplayRtspRequestHeader request.headers (cstring "X-Apple-Session-ID") ≠ none ∧
      config.sendReverseRequest = true ∧ config.controlPort = true ∧ world.controlPort ≠ 0)

/-- How `/play` ends: it reaches its first section and ends as it may, or it is refused and changes
nothing. -/
def HandledPlay (config : AirPlayRemoteVideoConfig ν) (session : UInt64)
    (request : AirPlayRtspRequest) (response : AirPlayRtspResponse) (world : RemoteVideoWorld ν)
    (result : Option AirPlayRtspResponse) (world' : RemoteVideoWorld ν) : Prop :=
  (StartsPlay config request world ∧ ∃ play, config.parsePlayRequest request = some play ∧
    PlayEnds config session play response world result world') ∨
  ((∃ status, status ≠ 200 ∧ result = response.setStatus status) ∧ world' = world)

lemma ends_handlePlay (session : UInt64) (request : AirPlayRtspRequest)
    (response : AirPlayRtspResponse) (world : RemoteVideoWorld ν) :
    (handlePlay config session request response).Ends
      (HandledPlay config session request response world) world := by
  have href : ∀ status, status ≠ 200 → (Pure.pure (response.setStatus status) :
        RemoteVideoThread ν (Option AirPlayRtspResponse)).Ends
        (HandledPlay config session request response world) world :=
    fun status hstat => .inr ⟨⟨status, hstat, rfl⟩, rfl⟩
  refine ite (fun _ => href 405 (by decide)) fun hmethod => ?_
  cases hparse : config.parsePlayRequest request with
  | none => exact href 400 (by decide)
  | some play =>
    refine ite (fun hlocator => ?_) fun hlocator => ?_
    · split
      · exact href 503 (by decide)
      rename_i appleSessionId hhead
      refine ite (fun _ => href 503 (by decide)) fun hops =>
        get_bind (ite (fun _ => href 503 (by decide)) fun hport => ?_)
      rw [not_or, Bool.not_eq_false, Bool.not_eq_false] at hops
      refine (ends_playHls _ _).mono fun result world' hends =>
        .inl ⟨⟨not_not.mp hmethod, play, hparse, fun _ => ⟨?_, hops.1, hops.2, hport⟩⟩, play,
          hparse, hends⟩
      rw [hhead]
      exact some_ne_none _
    · refine ends_playDirect.mono fun result world' hends =>
        .inl ⟨⟨not_not.mp hmethod, play, hparse, fun hsupported => absurd hsupported hlocator⟩, play,
          hparse, hends⟩

/-- The seeks that are issued come from the sources, and so does what is recorded. -/
def Sourced (config : AirPlayRemoteVideoConfig ν) (sources : UInt64 → SeekSources ν)
    (world world' : RemoteVideoWorld ν) : Prop :=
  world'.SeeksRecorded config sources ∧
    ∃ seeks, issuedSeeks world'.trace = issuedSeeks world.trace ++ seeks ∧
      ∀ seek ∈ seeks, (sources seek.1).Allows config.double seek.2

lemma Sourced.of_keeps (hrec : world.SeeksRecorded config sources)
    (h : world.SeekKeeps config sources world') : Sourced config sources world world' :=
  ⟨h.2 hrec, [], by rw [append_nil, h.1], nofun⟩

lemma Sourced.trans {world'' : RemoteVideoWorld ν} (h : Sourced config sources world world')
    (h' : Sourced config sources world' world'') : Sourced config sources world world'' := by
  obtain ⟨-, seeks, htrace, hok⟩ := h
  obtain ⟨hrec, seeks', htrace', hok'⟩ := h'
  refine ⟨hrec, seeks ++ seeks', by rw [htrace', htrace, append_assoc], fun seek hseek => ?_⟩
  rcases mem_append.mp hseek with hold | hnew
  · exact hok seek hold
  · exact hok' seek hnew

variable {session : UInt64}

lemma ends_seek {handler : RemoteVideoHandler} {positionMs : ℤ}
    (hrec : world.SeeksRecorded config sources)
    (hok : (sources session).Allows config.double positionMs) :
    (callback handler session none (.seekMs positionMs) : RemoteVideoThread ν Bool).Ends
      (fun _ world' => Sourced config sources world world') world := by
  refine answer_bind fun answer => modify_bind (pure ?_)
  refine ⟨hrec, [(session, positionMs)],
    issuedSeeks_record_seek world handler session none positionMs, fun seek hseek => ?_⟩
  rw [mem_singleton.mp hseek]
  exact hok

lemma ends_keeps {α : Type} {t : RemoteVideoThread ν α} (h : t.Keeps (SeekKeeps config sources))
    (hrec : world.SeeksRecorded config sources) :
    t.Ends (fun _ world' => Sourced config sources world world') world :=
  (h.ends SeekKeeps.refl (fun _ _ _ => SeekKeeps.trans) world).mono
    fun _ _ hkeeps => .of_keeps hrec hkeeps

lemma seekKeeps_forget (hplace : world'.remote.place = world.remote.place)
    (hseek : world'.remote.pendingSeek = false) (hfrac : world'.remote.pendingFractionSeek = false)
    (hscrub : world'.remote.pendingScrub = false)
    (htrace : issuedSeeks world'.trace = issuedSeeks world.trace) :
    world.SeekKeeps config sources world' := by
  refine ⟨htrace, fun hrec hbound => ?_⟩
  have hstate : world'.remote.state = world.remote.state :=
    congrArg RemoteVideoPlace.state hplace
  have hsess : world'.remote.ownerSessionId = world.remote.ownerSessionId :=
    congrArg RemoteVideoPlace.ownerSessionId hplace
  rw [hstate] at hbound
  obtain ⟨play, hplay, -⟩ := hrec hbound
  rw [hsess]
  refine ⟨play, hplay, fun h => ?_, fun h => ?_, fun h => ?_⟩
  · rw [hseek] at h
    cases h
  · rw [hfrac] at h
    cases h
  · rw [hscrub] at h
    cases h

section Seeks

variable {handler : RemoteVideoHandler} {session : UInt64} {world : RemoteVideoWorld ν}

/-- What `apply_pending_seek` takes out comes from the sources of its session. -/
lemma pendingSeekSection_allows (session : UInt64) (hrec : world.SeeksRecorded config sources)
    (snapshot : AirPlayRemoteVideoSnapshot) :
    world.SeekKeeps config sources (pendingSeekSection config session snapshot world).2 ∧
      ∀ target, (pendingSeekSection config session snapshot world).1 = some target →
        (sources session).Allows config.double (min target snapshot.durationMs) := by
  unfold pendingSeekSection
  split_ifs with howned
  · refine ⟨seekKeeps_forget rfl rfl rfl rfl rfl, fun target htgt => ?_⟩
    simp only [sessionOwned, decide_eq_true_eq] at howned
    obtain ⟨play, hplay, hseek, hfrac, hscrub⟩ := hrec (by rw [howned.1]; decide)
    rw [howned.2] at hplay hscrub
    refine ⟨play, hplay, .inr ⟨snapshot.durationMs, ?_⟩⟩
    dsimp only at htgt
    split at htgt
    · rename_i hpend
      exact .inl ⟨target, by rw [← some.inj htgt]; exact hscrub hpend, rfl⟩
    split at htgt
    · rename_i hpend
      obtain ⟨hstart, hplain, hvalue⟩ := hseek hpend
      refine .inr ⟨hstart, ?_⟩
      rw [← some.inj htgt, hvalue, startMs, hplain]
      rfl
    · split at htgt
      · rename_i hpend
        obtain ⟨hstart, hpart, hvalue⟩ := hfrac hpend
        refine .inr ⟨hstart, ?_⟩
        rw [← some.inj htgt, hvalue, startMs, hpart]
        rfl
      · cases htgt
  · exact ⟨.refl world, fun target htgt => by cases htgt⟩

section

variable (hrec : world.SeeksRecorded config sources)

include hrec

lemma ends_applyPendingSeek (snapshot : AirPlayRemoteVideoSnapshot) :
    (applyPendingSeek config handler session snapshot).Ends
      (fun _ world' => Sourced config sources world world') world := by
  refine ite (fun _ => .of_keeps hrec (.refl world)) fun _ =>
    atomic_bind ?_
  obtain ⟨hkeeps, hok⟩ := pendingSeekSection_allows session hrec snapshot
  cases htgt : (pendingSeekSection config session snapshot world).1 with
  | none => exact .of_keeps hrec hkeeps
  | some target =>
    exact (ends_seek (hkeeps.2 hrec) (hok target htgt)).mono
      fun _ _ hsought => (Sourced.of_keeps hrec hkeeps).trans hsought

lemma ends_snapshotForSession :
    (snapshotForSession config handler session).Ends
      (fun _ world' => Sourced config sources world world') world := by
  refine get_bind (ite (fun _ => ?_) fun _ => .of_keeps hrec (.refl world))
  refine (ends_keeps backgroundKeeps_seek.readSnapshot hrec).bind fun snapshot world' hread => ?_
  cases snapshot with
  | none => exact hread
  | some snapshot =>
    refine (ends_applyPendingSeek hread.1 snapshot).bind fun _ sought hsought =>
      ite (fun _ => ?_) fun _ => hread.trans hsought
    exact (ends_keeps backgroundKeeps_seek.readSnapshot hsought.1).mono
      fun _ _ hagain => (hread.trans hsought).trans hagain

lemma ends_handlePlaybackInfo (request : AirPlayRtspRequest) (response : AirPlayRtspResponse) :
    (handlePlaybackInfo config session request response).Ends
      (fun _ world' => Sourced config sources world world') world := by
  refine ite (fun _ => .of_keeps hrec (.refl world)) fun _ =>
    get_bind (bind (P := fun _ => Sourced config sources world)
      (ite (fun _ => .of_keeps hrec (.refl world))
        fun _ => ends_snapshotForSession hrec) fun snapshot world' hsought => ?_)
  cases snapshot with
  | none => exact hsought
  | some snapshot =>
    refine get_bind ?_
    split
    all_goals exact hsought

end

lemma scrubSection_keeps {positionMs : ℤ} (hrecv : positionMs ∈ (sources session).scrubs) :
    world.SeekKeeps config sources (scrubSection session positionMs world).2 := by
  unfold scrubSection
  split_ifs with hpend
  · simp only [sessionHlsPending, decide_eq_true_eq] at hpend
    refine ⟨rfl, fun hrec hbound => ?_⟩
    obtain ⟨play, hplay, hseek, hfrac, -⟩ := hrec hbound
    refine ⟨play, hplay, hseek, hfrac, fun _ => ?_⟩
    show positionMs ∈ (sources world.remote.ownerSessionId).scrubs
    rw [hpend.2]
    exact hrecv
  · exact .refl world

lemma ends_handleScrub (hrec : world.SeeksRecorded config sources) {request : AirPlayRtspRequest}
    (response : AirPlayRtspResponse)
    (hrecv : request.method = cstring "POST" → ∀ seconds, config.queryNumber request.uri "position" = some seconds → config.double.milliseconds seconds ∈ (sources session).scrubs) :
    (handleScrub config session request response).Ends
      (fun _ world' => Sourced config sources world world') world := by
  have hsame : Sourced config sources world world := .of_keeps hrec (.refl world)
  refine get_bind (ite (fun _ => ite (fun hpost => ?_)
    fun _ => ite (fun _ => ?_) fun _ => hsame) fun _ => hsame)
  · cases hquery : config.queryNumber request.uri "position" with
    | none => exact hsame
    | some seconds =>
      have hpos := hrecv hpost seconds hquery
      have hkeeps : world.SeekKeeps config sources _ := scrubSection_keeps hpos
      have hsec : Sourced config sources world
          (scrubSection session (config.double.milliseconds seconds) world).2 :=
        .of_keeps hrec hkeeps
      refine atomic_bind (ite (fun _ => hsec) fun _ =>
        ite (fun _ => hsec) fun howned => ?_)
      have howned : sessionOwned session world := Bool.not_eq_false _ ▸ howned
      simp only [sessionOwned, decide_eq_true_eq] at howned
      obtain ⟨play, hplay, -⟩ := hrec (by rw [howned.1]; decide)
      rw [howned.2] at hplay
      refine (ends_seek hsec.1 ⟨play, hplay, .inl hpos⟩).bind fun _ sought hsought =>
        ite (fun _ => modify_bind ?_) fun _ => hsec.trans hsought
      refine (hsec.trans hsought).trans (.of_keeps hsought.1 ?_)
      unfold scrubbedSection
      split
      · exact seekKeeps_forget rfl rfl rfl rfl rfl
      · exact .refl sought
  · refine (ends_snapshotForSession hrec).bind fun snapshot world' hsought => ?_
    cases snapshot with
    | none | some => exact hsought

end Seeks

/-! ## Routes -/

variable {request : AirPlayRtspRequest}

/-- The sources of a `/scrub` are those before with its position. -/
lemma received_scrub (config : AirPlayRemoteVideoConfig ν) (sources : UInt64 → SeekSources ν)
    (session : UInt64) (hplay : request.uri ≠ cstring "/play") (accepted : Bool) :
    (∀ other, (received config session request accepted sources other).play =
        (sources other).play ∧ ∀ scrub ∈ (sources other).scrubs,
          scrub ∈ (received config session request accepted sources other).scrubs) ∧
      (uriIs request.uri "/scrub" → request.method = cstring "POST" → ∀ seconds,
        config.queryNumber request.uri "position" = some seconds →
          config.double.milliseconds seconds ∈
            (received config session request accepted sources session).scrubs) := by
  unfold received
  rw [if_neg hplay]
  split
  · cases hquery : config.queryNumber request.uri "position" with
    | some seconds =>
      dsimp only
      refine ⟨fun other => ?_, fun _ _ seconds' hquery' => ?_⟩
      · by_cases hother : other = session
        · subst hother
          rw [update_self]
          exact ⟨rfl, fun scrub hscrub => mem_append_left _ hscrub⟩
        · rw [update_of_ne hother]
          exact ⟨rfl, fun _ => id⟩
      · rw [update_self, ← some.inj hquery']
        exact mem_append_right _ (mem_singleton_self _)
    | none =>
      refine ⟨fun other => ⟨rfl, fun _ => id⟩, fun _ _ seconds' hquery' => ?_⟩
      cases hquery'
  · rename_i hscrub
    exact ⟨fun other => ⟨rfl, fun _ => id⟩, fun huri hpost => absurd ⟨huri, hpost⟩ hscrub⟩

variable {response : AirPlayRtspResponse}

/-- A response with another status than 200 is that of a request that was not accepted. -/
lemma routeAccepted_setStatus {status : ℕ} (h : status ≠ 200) :
    routeAccepted ((response.setStatus status).map (true, ·)) = false := by
  unfold AirPlayRtspResponse.setStatus
  split
  · rfl
  · simp [routeAccepted, h]

/-- What is recorded once `/play` has ended. -/
lemma HandledPlay.sourced {result : Option AirPlayRtspResponse}
    (huri : request.uri = cstring "/play") (hfresh : response.statusCode = 200)
    (hrec : world.SeeksRecorded config sources)
    (hscrub : StartsPlay config request world → world.remote.pendingScrub = false)
    (h : HandledPlay config session request response world result world') :
    world'.SeeksRecorded config (received config session request
        (routeAccepted (result.map (true, ·))) sources) ∧
      issuedSeeks world'.trace = issuedSeeks world.trace := by
  have hrecv : ∀ accepted, received config session request accepted sources =
      if accepted then update sources session ⟨config.parsePlayRequest request, []⟩
      else sources := by
    intro accepted
    unfold received
    rw [if_pos huri]
  rcases h with ⟨hstarts, play, hparse, htrace, hend⟩ | ⟨⟨status, hstat, hres⟩, hworld⟩
  · refine ⟨?_, htrace⟩
    rcases hend with ⟨hres, hsess, -, -, hof⟩ | ⟨⟨status, hstat, hres⟩, hidle⟩
    · have hacc : routeAccepted (result.map (true, ·)) := by
        rw [hres]
        simp [routeAccepted, hfresh]
      rw [hacc, hrecv, if_pos rfl]
      intro _
      rw [hsess, update_self]
      exact ⟨play, hparse, hof (hscrub hstarts)⟩
    · exact absurd hidle
  · rw [hres, routeAccepted_setStatus hstat, hrecv, hworld]
    exact ⟨hrec, rfl⟩

lemma ends_attach (session : UInt64) (world : RemoteVideoWorld ν) :
    (if (reattachSection session world).1 && config.controlAttached then
        notify .route session none .controlAttached
      else pure () : RemoteVideoThread ν Unit).Ends
      (fun _ world' => SameSeeks world world' ∧ world'.controlPort = world.controlPort)
      (reattachSection session world).2 := by
  have hsec : SameSeeks world (reattachSection session world).2 ∧
      (reattachSection session world).2.controlPort = world.controlPort := by
    unfold reattachSection
    split
    · exact ⟨⟨rfl, rfl, rfl⟩, rfl⟩
    · exact ⟨.refl world, rfl⟩
  refine ite (fun _ => ?_) fun _ => hsec
  exact ⟨hsec.1.trans (backgroundKeeps_same.record _ _ _ _ _ (.inr rfl) (by simp)), hsec.2⟩

/-- What a route leaves: its seeks come from the sources that include its own request, and so does
what is recorded. -/
def RouteSourced (config : AirPlayRemoteVideoConfig ν) (sources : UInt64 → SeekSources ν)
    (session : UInt64) (request : AirPlayRtspRequest) (world : RemoteVideoWorld ν)
    (result : Option (Bool × AirPlayRtspResponse)) (world' : RemoteVideoWorld ν) : Prop :=
  Sourced config (SeekRun.received config session request (routeAccepted result) sources) world
    world'

/-- A handler other than `/play`. -/
lemma ends_other {attached : RemoteVideoWorld ν} (hplay : request.uri ≠ cstring "/play")
    (hattached : Sourced config (received config session request false sources) world attached)
    {handle : RemoteVideoThread ν (Option AirPlayRtspResponse)}
    (hhandle : handle.Ends (fun _ world' => Sourced config (received config session request
      false sources) attached world') attached)
    (k : Option AirPlayRtspResponse → Option (Bool × AirPlayRtspResponse)) :
    (handle >>= fun result => pure (k result)).Ends
      (RouteSourced config sources session request world) attached := by
  have hrecv : ∀ accepted, received config session request accepted sources =
      received config session request false sources := by
    intro accepted
    unfold received
    rw [if_neg hplay, if_neg hplay]
  refine hhandle.bind fun result world' hsought => pure ?_
  unfold RouteSourced
  rw [hrecv]
  exact hattached.trans hsought

lemma ends_route (hfresh : response.statusCode = 200) (hrec : world.SeeksRecorded config sources)
    (hscrub : request.uri = cstring "/play" → StartsPlay config request world → world.remote.pendingScrub = false) :
    (airplayRemoteVideoRoute config session request response).Ends
      (RouteSourced config sources session request world) world := by
  by_cases hplay : request.uri = cstring "/play"
  · have href : RouteSourced config sources session request world none world := by
      unfold RouteSourced received
      rw [if_pos hplay]
      exact .of_keeps hrec (.refl world)
    refine ite (fun _ => href) fun _ => atomic_bind
      ((ends_attach session world).bind fun _ attached hattached => ?_)
    rw [if_pos hplay]
    obtain ⟨⟨hfields, hplace, htrace⟩, hport⟩ := hattached
    have hkeeps : world.SeekKeeps config sources attached :=
      .of_fields hfields (fun hidle => (congrArg RemoteVideoPlace.state hplace).trans hidle) htrace
    refine (ends_handlePlay session request response attached).bind fun result world' hhandled =>
      pure ?_
    obtain ⟨hrec', htrace'⟩ := hhandled.sourced hplay hfresh (hkeeps.2 hrec) fun hstarts => by
      have hstarts' : StartsPlay config request world := by
        unfold StartsPlay at hstarts ⊢
        rwa [hport] at hstarts
      exact (congrArg (fun fields => fields.2.2.2.2.2.2) hfields).trans (hscrub hplay hstarts')
    exact ⟨hrec', [], by rw [append_nil, htrace', htrace], nofun⟩
  obtain ⟨hmore, hrecv⟩ := received_scrub config sources session hplay false
  have hrec : world.SeeksRecorded config
      (received config session request false sources) := SeeksRecorded.mono hrec hmore
  have hsame : RouteSourced config sources session request world none world :=
    .of_keeps hrec (.refl world)
  refine ite (fun _ => hsame) fun _ => atomic_bind
    ((ends_attach session world).bind fun _ attached hattached => ?_)
  obtain ⟨⟨hfields, hplace, htrace⟩, -⟩ := hattached
  have hkept : Sourced config (received config session request false sources) world
      attached :=
    .of_keeps hrec (.of_fields hfields
      (fun hidle => (congrArg RemoteVideoPlace.state hplace).trans hidle) htrace)
  rw [if_neg hplay]
  refine ite (fun _ => ?_) fun _ => ite (fun _ => ?_) fun _ =>
    ite (fun huri => ?_) fun _ => ite (fun _ => ?_) fun _ =>
      ite (fun _ => ?_) fun _ => ?_
  · exact ends_other hplay hkept
      (ends_keeps (controlsKeep_seek.keeps_handleAction request response) hkept.1) _
  · exact ends_other hplay hkept
      (ends_keeps (controlsKeep_seek.keeps_handleRate request response) hkept.1) _
  · exact ends_other hplay hkept (ends_handleScrub hkept.1 response (hrecv huri)) _
  · exact ends_other hplay hkept (ends_handlePlaybackInfo hkept.1 request response) _
  · exact ends_other hplay hkept
      (ends_keeps (controlsKeep_seek.keeps_handleStop request response) hkept.1) _
  have hunhandled : RouteSourced config sources session request world (some (false, response))
      attached := by
    exact hkept
  exact hunhandled

end RemoteVideo

/-! ## Runs -/

/-- No `/play` begins while the position of a `/scrub` is still recorded. -/
def NoScrubLeft {ν : Type} (config : AirPlayRemoteVideoConfig ν) (run : SeekRun ν)
    (served : ServedCall) : Prop :=
  ∀ session request response, served.call = .route session request response →
    request.uri = cstring "/play" → RemoteVideo.StartsPlay config request run.world →
    run.world.remote.pendingScrub = false

/-- A run of calls, one after the other, each as `ok` allows. -/
inductive SeekRun.Reached {ν : Type} (config : AirPlayRemoteVideoConfig ν)
    (player : AirPlayRemoteVideoSnapshot) (controlPort : UInt16)
    (ok : SeekRun ν → ServedCall → Prop) : SeekRun ν → Prop where
  | initial : Reached config player controlPort ok
    ⟨.initial config player controlPort, fun _ => ⟨none, []⟩⟩
  | next {run : SeekRun ν} (hrun : Reached config player controlPort ok run) (served : ServedCall)
    (hserved : ok run served) : Reached config player controlPort ok (run.next config served)

section Runs

variable {ν : Type} {config : AirPlayRemoteVideoConfig ν} {player : AirPlayRemoteVideoSnapshot}
  {controlPort : UInt16} {run : SeekRun ν}

/-- **One call** issues only seeks of its session's sources, and records only what comes from
there. -/
lemma SeekRun.next_sourced (hrec : run.world.SeeksRecorded config run.sources) {served : ServedCall}
    (hserve : NoScrubLeft config run served) :
    RemoteVideo.Sourced config (run.next config served).sources run.world
      (run.next config served).world := by
  have hcontrols : RemoteVideo.ControlsKeep config
      (RemoteVideoWorld.SeekKeeps config run.sources) := RemoteVideo.controlsKeep_seek
  have hquiet : ∀ t : RemoteVideoThread ν Unit,
      t.Keeps (RemoteVideoWorld.SeekKeeps config run.sources) →
      RemoteVideo.Sourced config run.sources run.world (t.alone served.answers run.world).2 :=
    fun t hkeeps => (RemoteVideo.ends_keeps hkeeps hrec).alone served.answers
  unfold next
  cases hcall : served.call with
  | route session request response =>
    exact (RemoteVideo.ends_route (served.fresh _ _ _ hcall) hrec
      (hserve session request response hcall)).alone served.answers
  | sessionClosed session => exact hquiet _ hcontrols.keeps_sessionClosed
  | terminateSession session =>
    exact hquiet _ ((hcontrols.keeps_terminateSession.bind fun _ => Thread.Keeps.pure _).bind
      fun _ => Thread.Keeps.pure _)
  | relinquishSession session =>
    exact hquiet _ (hcontrols.keeps_relinquishSession.bind fun _ => Thread.Keeps.pure _)
  | environment player controlPort =>
    exact hquiet _ (Thread.Keeps.modify fun world => hcontrols.environment world player controlPort)

lemma SeekRun.Reached.recorded
    (hrun : SeekRun.Reached config player controlPort (NoScrubLeft config) run) :
    run.world.SeeksRecorded config run.sources := by
  induction hrun with
  | initial => exact absurd rfl
  | next _ served hserve ih => exact (next_sourced ih hserve).1

lemma SeekRun.Reached.foldl {ok : SeekRun ν → ServedCall → Prop}
    (hrun : SeekRun.Reached config player controlPort ok run) (hok : ∀ run served, ok run served)
    (calls : List ServedCall) :
    SeekRun.Reached config player controlPort ok (calls.foldl (SeekRun.next config) run) := by
  induction calls generalizing run with
  | nil => exact hrun
  | cons served calls ih => exact ih (hrun.next served (hok run served))

end Runs

/-! ### A scrub that is left over -/

/-- A module that reads the requests below as `remote_video.c` does. -/
def AirPlayRemoteVideoConfig.scrubbing : AirPlayRemoteVideoConfig ℕ :=
  { AirPlayRemoteVideoConfig.plain with
    parsePlayRequest := fun request =>
      if request.body = asciiBytes "Content-Location: http://a/" then
        some ⟨asciiBytes "http://a/", [], 0, false, false⟩
      else if request.body = asciiBytes "Content-Location: mlhls://a/master.m3u8" then
        some ⟨asciiBytes "mlhls://a/master.m3u8", [], 0, false, false⟩
      else none
    queryNumber := fun uri name =>
      if uri = cstring "/scrub?position=12" ∧ name = "position" then some 12 else none
    playbackInfoBody := fun _ _ => some [] }

/-- A `POST /play` of a locator. -/
def playLocatorRequest : AirPlayRtspRequest :=
  { playRequest with
    headers := [⟨cstring "X-Apple-Session-ID", cstring "1"⟩]
    body := asciiBytes "Content-Location: mlhls://a/master.m3u8"
    bodyLength := 39 }

/-- A request whose callbacks all succeed. -/
def servedRoute (session : UInt64) (request : AirPlayRtspRequest) : ServedCall where
  call := .route session request playResponse
  answers _ := true
  fresh _ _ _ h := by
    cases h
    rfl

/-- A player that shows a minute of media. -/
def AirPlayRemoteVideoSnapshot.minute : AirPlayRemoteVideoSnapshot :=
  ⟨true, true, 0, 60000, .playing⟩

end NXCast

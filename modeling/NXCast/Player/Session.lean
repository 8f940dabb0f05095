import NXCast.Framework.CString
import NXCast.Player.MediaActor

/-!
# The player's session

`session.c` keeps the current media and a snapshot that the rest of the program reads; both change
only in sections under one mutex, which the thread of the media actor runs one after the other.
`player_execute_set_media` stores the new media and a loading snapshot in one section, asks the
backend without the mutex, and stores the previous media in another if the backend refuses.  It does not
keep the previous snapshot, so a refused OPEN leaves what it has made of it.

What is copied may not find memory, and the backend may send events while it is asked; both are
given from outside.
-/

namespace NXCast

open Option List

/-! ## Types -/

/-- `PlayerState` -/
inductive PlayerState where
  | idle
  | stopped
  | loading
  | buffering
  | seeking
  | playing
  | paused
  | error
deriving DecidableEq

/-- `PlayerMedia` -/
structure PlayerMedia where
  uri : Option CString
  metadata : Option CString
deriving DecidableEq

/-- What `player_media_clear` leaves. -/
def PlayerMedia.cleared : PlayerMedia := ⟨none, none⟩

/-- `PlayerEventType` -/
inductive PlayerEventType where
  | stateChanged
  | positionChanged
  | durationChanged
  | volumeChanged
  | muteChanged
  | uriChanged
  | error
deriving DecidableEq

/-- `PlayerEvent`, and what the getters of the backend report. -/
structure PlayerEvent where
  state : PlayerState
  positionMs : ℤ
  durationMs : ℤ
  volume : ℤ
  mute : Bool
  seekable : Bool
deriving DecidableEq

/-- `PlayerSnapshot` -/
structure PlayerSnapshot where
  hasMedia : Bool
  media : PlayerMedia
  state : PlayerState
  positionMs : ℤ
  durationMs : ℤ
  volume : ℤ
  mute : Bool
  seekable : Bool
deriving DecidableEq

/-- `PLAYER_DEFAULT_VOLUME` -/
def playerDefaultVolume : ℤ := 100

/-- What `player_reset_snapshot_locked` leaves. -/
def PlayerSnapshot.reset : PlayerSnapshot :=
  ⟨false, .cleared, .idle, 0, 0, playerDefaultVolume, false, false⟩

/-- `g_has_current_media` with `g_current_media`, and `g_snapshot`. -/
structure PlayerSession where
  currentMedia : Option PlayerMedia
  snapshot : PlayerSnapshot
deriving DecidableEq

/-- `player_media_copy`: a string needs memory. -/
def playerMediaCopy (memory : Bool) (media : PlayerMedia) : Option PlayerMedia :=
  if memory = true ∨ (media.uri = none ∧ media.metadata = none) then some media else none

/-! ## Sections -/

/-- Whether the media is stored and whether the snapshot has a copy of it. -/
structure StoreMemory where
  stored : Bool
  synced : Bool

namespace PlayerSession

variable (session : PlayerSession)

/-- The state after `player_init` has reset it, and after `player_deinit`. -/
def reset : PlayerSession := ⟨none, .reset⟩

/-- `player_sync_snapshot_media_locked` -/
def syncSnapshotMediaLocked (memory : Bool) : Bool × PlayerSession :=
  match session.currentMedia with
  | none => (true, { session with snapshot := { session.snapshot with media := .cleared } })
  | some media =>
    match playerMediaCopy memory media with
    | some media => (true, { session with snapshot := { session.snapshot with media } })
    | none => (false, { session with snapshot := { session.snapshot with media := .cleared } })

/-- `player_store_media_locked` with media that are copied. -/
def storeCopy (memory : Bool) (current : Option PlayerMedia) : Bool × PlayerSession :=
  let stored : PlayerSession :=
    ⟨current, { session.snapshot with hasMedia := current.isSome }⟩
  let (synced, kept) := stored.syncSnapshotMediaLocked memory
  if synced then (true, kept)
  else (false, { kept with snapshot := { kept.snapshot with hasMedia := false } })

/-- `player_store_media_locked` -/
def storeMediaLocked (memory : StoreMemory) (media : Option PlayerMedia) : Bool × PlayerSession :=
  match media with
  | none => session.storeCopy memory.synced none
  | some media =>
    match playerMediaCopy memory.stored media with
    | none => (false, session)
    | some media => session.storeCopy memory.synced (some media)

/-- `player_apply_event_locked` -/
def applyEventLocked (memory : Bool) (event : PlayerEvent) : PlayerSession :=
  match session.currentMedia with
  | some media =>
    (PlayerSession.syncSnapshotMediaLocked ⟨some media, true, session.snapshot.media, event.state,
      event.positionMs, event.durationMs, event.volume, event.mute, event.seekable⟩ memory).2
  | none => ⟨none, false, .cleared, .idle, 0, 0, event.volume, event.mute, false⟩

/-- `player_read_backend_snapshot`, with what the getters of the backend report. -/
def readBackendSnapshot (memory : Bool) (report : PlayerEvent) : Option PlayerSnapshot :=
  match session.currentMedia with
  | none => some ⟨false, .cleared, .idle, 0, 0, report.volume, report.mute, false⟩
  | some media => (playerMediaCopy memory media).map fun media =>
    ⟨true, media, report.state, report.positionMs, report.durationMs, report.volume, report.mute,
      report.seekable⟩

/-- `player_refresh_cached_snapshot_from_backend` -/
def refreshCachedSnapshot (memory : Bool) (report : PlayerEvent) : PlayerSession :=
  match session.readBackendSnapshot memory report with
  | none => session
  | some snapshot => { session with snapshot }

/-- The first locked section of `player_execute_set_media`, behind the copy of the previous media. -/
def beginOpen (memory : StoreMemory) (media : PlayerMedia) : Bool × PlayerSession :=
  let (stored, kept) := session.storeMediaLocked memory (some media)
  if stored then
    (true, { kept with snapshot := { kept.snapshot with
      state := .loading
      positionMs := 0
      durationMs := 0
      seekable := false } })
  else (false, kept)

end PlayerSession

/-- What a section under `g_player_mutex` does. -/
inductive PlayerSection where
  | reset
  | beginOpen (memory : StoreMemory) (media : PlayerMedia)
  | rollback (memory : StoreMemory) (previous : Option PlayerMedia)
  | event (memory : Bool) (event : PlayerEvent)
  | refresh (memory : Bool) (report : PlayerEvent)

namespace PlayerSession

def step (session : PlayerSession) : PlayerSection → PlayerSession
  | .reset => .reset
  | .beginOpen memory media => (session.beginOpen memory media).2
  | .rollback memory previous => (session.storeMediaLocked memory previous).2
  | .event memory event => session.applyEventLocked memory event
  | .refresh memory report => session.refreshCachedSnapshot memory report

def run (session : PlayerSession) (sections : List PlayerSection) : PlayerSession :=
  sections.foldl step session

end PlayerSession

/-! ## Commands -/

/-- What a call of the backend does: the events it sends, whether it succeeds, and what the getters
report then. -/
structure BackendReply where
  events : List (Bool × PlayerEvent)
  ok : Bool
  report : Bool × PlayerEvent

/-- The memory for the copies of `player_execute_set_media`. -/
structure OpenMemory where
  previous : Bool
  begun : StoreMemory
  rolledBack : StoreMemory

/-- The sections of the events that the backend sends. -/
def BackendReply.sent (reply : BackendReply) : List PlayerSection :=
  reply.events.map fun sent => .event sent.1 sent.2

/-- `player_run_backend_bool`, `player_run_backend_int`, `player_run_backend_string` and
`player_run_backend_flag`: the answer, and the sections. -/
def playerRunBackend (reply : BackendReply) : Bool × List PlayerSection :=
  (reply.ok, if reply.ok then reply.sent ++ [.refresh reply.report.1 reply.report.2]
    else reply.sent)

/-- The part of `player_execute_set_media` from its first locked section on. -/
def playerOpenMedia (memory : OpenMemory) (reply : BackendReply) (media : PlayerMedia)
    (session : PlayerSession) : Bool × List PlayerSection :=
  let begun := .beginOpen memory.begun media
  if (session.beginOpen memory.begun media).1 = false then (false, [begun])
  else if reply.ok = false then
    (false, begun :: reply.sent ++ [.rollback memory.rolledBack session.currentMedia])
  else (true, begun :: reply.sent ++ [.refresh reply.report.1 reply.report.2])

/-- There is something to open, and the previous media are copied. -/
def mayOpen (memory : OpenMemory) (media : PlayerMedia) (session : PlayerSession) : Bool :=
  media.uri.any (fun uri => uri.bytes ≠ []) &&
    session.currentMedia.all fun previous => (playerMediaCopy memory.previous previous).isSome

/-- `player_execute_set_media` -/
def playerExecuteSetMedia (memory : OpenMemory) (reply : BackendReply) (media : PlayerMedia)
    (session : PlayerSession) : Bool × List PlayerSection :=
  if mayOpen memory media session then playerOpenMedia memory reply media session
  else (false, [])

/-- What a command meets: the memory of an OPEN, and the backend, twice if an OPEN also plays. -/
structure CommandAnswers where
  memory : OpenMemory
  reply : BackendReply
  played : BackendReply

/-- The media that a command names. -/
def MediaActorCommand.media (command : MediaActorCommand) : PlayerMedia :=
  ⟨command.text.map CString.ofBuffer, command.metadata.map CString.ofBuffer⟩

/-- The case of `player_execute_actor_command` for an OPEN. -/
def playerExecuteOpen (command : MediaActorCommand) (answers : CommandAnswers)
    (session : PlayerSession) : Bool × List PlayerSection :=
  let (opened, sections) :=
    playerExecuteSetMedia answers.memory answers.reply command.media session
  if opened = false then (false, sections)
  else if command.flag = false then (true, sections)
  else
    let (ok, more) := playerRunBackend answers.played
    (ok, sections ++ more)

/-- `player_execute_actor_command`: its answer, and its sections in order. -/
def playerExecuteActorCommand (command : MediaActorCommand) (answers : CommandAnswers)
    (session : PlayerSession) : Bool × List PlayerSection :=
  match command.kind with
  | .openMedia => playerExecuteOpen command answers session
  | .play | .pause | .stop | .stopAny | .quiesce | .seekMs | .setVolume | .setMute =>
    playerRunBackend answers.reply
  | .seekTarget =>
    if command.text = none then (false, []) else playerRunBackend answers.reply
  | .showOsd =>
    if command.text = none then (false, []) else (answers.reply.ok, answers.reply.sent)
  | .bindStream => (answers.reply.ok, answers.reply.sent)
  | .releaseLease => (answers.reply.ok, [])
  | .shutdown => (true, [])

/-- What happens to the session: `player_init` or `player_deinit`, `player_actor_initialize`, a command,
or events of the backend that are pumped. -/
inductive PlayerOperation where
  | reset
  | actorInitialize (reply : BackendReply)
  | command (command : MediaActorCommand) (answers : CommandAnswers)
  | pump (reply : BackendReply)

def PlayerOperation.sections (session : PlayerSession) : PlayerOperation → List PlayerSection
  | .reset => [.reset]
  | .actorInitialize reply => (playerRunBackend reply).2
  | .command request answers => (playerExecuteActorCommand request answers session).2
  | .pump reply => reply.sent

/-- The sections of a run. -/
def PlayerSession.sections (session : PlayerSession) : List PlayerOperation → List PlayerSection
  | [] => []
  | operation :: operations =>
    operation.sections session ++
      (session.run (operation.sections session)).sections operations

/-! ## What a refused OPEN leaves -/

/-- The part of a snapshot that belongs to what is played. -/
def PlayerSnapshot.playback (snapshot : PlayerSnapshot) : PlayerState × ℤ × ℤ × Bool :=
  (snapshot.state, snapshot.positionMs, snapshot.durationMs, snapshot.seekable)

def PlayerEvent.playback (event : PlayerEvent) : PlayerState × ℤ × ℤ × Bool :=
  (event.state, event.positionMs, event.durationMs, event.seekable)

/-- What the backend has reported last, after `playback`. -/
def BackendReply.lastPlayback (reply : BackendReply) (playback : PlayerState × ℤ × ℤ × Bool) :
    PlayerState × ℤ × ℤ × Bool :=
  reply.events.foldl (fun _ sent => sent.2.playback) playback

/-- The playback that an OPEN begins with. -/
def loadingPlayback : PlayerState × ℤ × ℤ × Bool := (.loading, 0, 0, false)

namespace PlayerSession

variable {session : PlayerSession}

/-- The media, whether there are any, and the playback are as before. -/
def SameAs (before after : PlayerSession) : Prop :=
  after.currentMedia = before.currentMedia ∧
    after.snapshot.playback = before.snapshot.playback

lemma syncSnapshotMediaLocked_keeps (session : PlayerSession) (memory : Bool) :
    (session.syncSnapshotMediaLocked memory).2.currentMedia = session.currentMedia ∧
      (session.syncSnapshotMediaLocked memory).2.snapshot.playback = session.snapshot.playback ∧
      (session.syncSnapshotMediaLocked memory).2.snapshot.hasMedia = session.snapshot.hasMedia := by
  unfold syncSnapshotMediaLocked
  split
  · exact ⟨rfl, rfl, rfl⟩
  · split
    all_goals exact ⟨rfl, rfl, rfl⟩

lemma storeCopy_keeps (session : PlayerSession) (memory : Bool) (current : Option PlayerMedia) :
    (session.storeCopy memory current).2.currentMedia = current ∧
      (session.storeCopy memory current).2.snapshot.playback = session.snapshot.playback := by
  obtain ⟨hmedia, hplayback, -⟩ := syncSnapshotMediaLocked_keeps
    ⟨current, { session.snapshot with hasMedia := current.isSome }⟩ memory
  unfold storeCopy
  dsimp only
  split
  all_goals exact ⟨hmedia, hplayback⟩

lemma storeMediaLocked_playback (session : PlayerSession) (memory : StoreMemory)
    (media : Option PlayerMedia) :
    (session.storeMediaLocked memory media).2.snapshot.playback = session.snapshot.playback := by
  unfold storeMediaLocked
  split
  · exact (session.storeCopy_keeps _ _).2
  split
  · rfl
  · exact (session.storeCopy_keeps _ _).2

variable {media : PlayerMedia}

lemma playerMediaCopy_eq {memory : Bool} {copy : PlayerMedia}
    (h : playerMediaCopy memory media = some copy) : copy = media := by
  unfold playerMediaCopy at h
  split at h
  · exact (some.inj h).symm
  · cases h

lemma storeMediaLocked_currentMedia (session : PlayerSession) (memory : StoreMemory)
    (media : Option PlayerMedia) :
    (session.storeMediaLocked memory media).2.currentMedia =
      if ∃ previous, media = some previous ∧ playerMediaCopy memory.stored previous = none then
        session.currentMedia
      else media := by
  unfold storeMediaLocked
  split
  · rw [if_neg (by rintro ⟨previous, hprev, -⟩; cases hprev)]
    exact (session.storeCopy_keeps _ _).1
  rename_i media
  split
  · rename_i hcopy
    rw [if_pos ⟨media, rfl, hcopy⟩]
  rename_i copy hcopy
  rw [if_neg, (session.storeCopy_keeps _ _).1, playerMediaCopy_eq hcopy]
  rintro ⟨previous, hprev, hnone⟩
  obtain rfl := some.inj hprev
  rw [hcopy] at hnone
  cases hnone

lemma beginOpen_begun {memory : StoreMemory} (h : (session.beginOpen memory media).1) :
    (session.beginOpen memory media).2.currentMedia = some media ∧
      (session.beginOpen memory media).2.snapshot.playback = loadingPlayback := by
  unfold beginOpen at h ⊢
  dsimp only at h ⊢
  split at h
  · rename_i hstore
    rw [if_pos hstore]
    refine ⟨?_, rfl⟩
    have hmedia := session.storeMediaLocked_currentMedia memory (some media)
    rw [if_neg] at hmedia
    · exact hmedia
    rintro ⟨previous, hprev, hnone⟩
    obtain rfl := some.inj hprev
    unfold storeMediaLocked at hstore
    simp only [hnone] at hstore
    cases hstore
  · cases h

lemma applyEventLocked_media (h : session.currentMedia = some media) (memory : Bool)
    (event : PlayerEvent) :
    (session.applyEventLocked memory event).currentMedia = some media ∧
      (session.applyEventLocked memory event).snapshot.playback = event.playback ∧
      (session.applyEventLocked memory event).snapshot.hasMedia := by
  unfold applyEventLocked
  rw [h]
  exact syncSnapshotMediaLocked_keeps _ memory

lemma run_sent (events : List (Bool × PlayerEvent)) (h : session.currentMedia = some media) :
    (session.run (events.map fun sent => .event sent.1 sent.2)).currentMedia = some media ∧
      (session.run (events.map fun sent => .event sent.1 sent.2)).snapshot.playback =
        events.foldl (fun _ sent => sent.2.playback) session.snapshot.playback := by
  induction events generalizing session with
  | nil => exact ⟨h, rfl⟩
  | cons sent events ih =>
    obtain ⟨hmedia, hplayback, -⟩ := applyEventLocked_media h sent.1 sent.2
    obtain ⟨hkept, hlast⟩ := ih hmedia
    refine ⟨hkept, hlast.trans ?_⟩
    rw [hplayback]
    rfl

/-- **A refused OPEN** leaves the playback that the backend has reported last, and the previous media
unless they could not be copied. -/
lemma run_refused {memory : OpenMemory} {reply : BackendReply}
    (hbegun : (session.beginOpen memory.begun media).1) (href : reply.ok = false) :
    (session.run (playerOpenMedia memory reply media session).2).snapshot.playback =
        reply.lastPlayback loadingPlayback ∧
      (session.run (playerOpenMedia memory reply media session).2).currentMedia =
        if ∃ previous, session.currentMedia = some previous ∧
            playerMediaCopy memory.rolledBack.stored previous = none then some media
        else session.currentMedia := by
  obtain ⟨hmedia, hplayback⟩ := beginOpen_begun hbegun
  obtain ⟨hkept, hlast⟩ := run_sent reply.events hmedia
  have hsections : (playerOpenMedia memory reply media session).2 =
      .beginOpen memory.begun media :: (reply.sent ++
        [.rollback memory.rolledBack session.currentMedia]) := by
    unfold playerOpenMedia
    rw [if_neg (by rw [hbegun]; exact Bool.false_ne_true.symm), if_pos href]
    rfl
  have hrun : session.run (playerOpenMedia memory reply media session).2 =
      (((session.beginOpen memory.begun media).2.run reply.sent).storeMediaLocked memory.rolledBack
        session.currentMedia).2 := by
    rw [hsections]
    unfold run
    rw [foldl_cons, foldl_append]
    rfl
  rw [hrun, storeMediaLocked_playback, storeMediaLocked_currentMedia]
  refine ⟨?_, ?_⟩
  · rw [hplayback] at hlast
    exact hlast
  · split
    · exact hkept
    · rfl

/-! ## No media, nothing played -/

/-- Without media the snapshot is idle. -/
def NoMediaIdle (session : PlayerSession) : Prop :=
  session.currentMedia = none ∨ session.snapshot.hasMedia = false → session.snapshot.state = .idle

/-- What is stored can be shown, or is not stored at all. -/
def Shows (memory : StoreMemory) (media : Option PlayerMedia) : Prop :=
  ∃ shown, media = some shown ∧
    (playerMediaCopy memory.stored shown = none ∨ playerMediaCopy memory.synced shown ≠ none)

/-- A section stores media that can be shown, unless the snapshot is idle. -/
def Settles (session : PlayerSession) : PlayerSection → Prop
  | .beginOpen memory media => Shows memory (some media) ∨ session.snapshot.state = .idle
  | .rollback memory previous => Shows memory previous ∨ session.snapshot.state = .idle
  | _ => True

/-- Every section of a run, in the state it finds. -/
def Settled : PlayerSession → List PlayerSection → Prop
  | _, [] => True
  | session, next :: sections => session.Settles next ∧ (session.step next).Settled sections

lemma storeCopy_hasMedia (session : PlayerSession) (memory : Bool) (current : Option PlayerMedia) :
    (session.storeCopy memory current).2.snapshot.hasMedia =
      current.any fun media => (playerMediaCopy memory media).isSome := by
  unfold storeCopy syncSnapshotMediaLocked
  cases current with
  | none => rfl
  | some media =>
    cases hcopy : playerMediaCopy memory media with
    | none | some => simp [hcopy]

variable (h : session.NoMediaIdle)

include h

/-- Storing media leaves the state alone, so without media to show it has to be idle before. -/
lemma noMediaIdle_storeMediaLocked (memory : StoreMemory) (media : Option PlayerMedia) :
    (session.storeMediaLocked memory media).2.NoMediaIdle ↔
      Shows memory media ∨ session.snapshot.state = .idle := by
  have hstate : (session.storeMediaLocked memory media).2.snapshot.state = session.snapshot.state :=
    congrArg Prod.fst (session.storeMediaLocked_playback memory media)
  unfold NoMediaIdle
  rw [hstate]
  by_cases hidle : session.snapshot.state = .idle
  · exact iff_of_true (fun _ => hidle) (.inr hidle)
  rw [or_iff_left hidle]
  cases media with
  | none =>
    refine iff_of_false (fun hnone => hidle (hnone (.inl ?_))) ?_
    · exact (session.storeCopy_keeps _ _).1
    · rintro ⟨shown, hshown, -⟩
      cases hshown
  | some media =>
    have hshows : Shows memory (some media) ↔ playerMediaCopy memory.stored media = none ∨
        playerMediaCopy memory.synced media ≠ none := by
      constructor
      · rintro ⟨shown, hshown, hcopies⟩
        obtain rfl := some.inj hshown
        exact hcopies
      · exact fun hcopies => ⟨media, rfl, hcopies⟩
    rw [hshows]
    cases hcopy : playerMediaCopy memory.stored media with
    | none =>
      have hsame : (session.storeMediaLocked memory (some media)).2 = session := by
        simp only [storeMediaLocked, hcopy]
      rw [hsame]
      exact iff_of_true h (.inl rfl)
    | some copy =>
      obtain rfl := playerMediaCopy_eq hcopy
      have hstore : session.storeMediaLocked memory (some copy) =
          session.storeCopy memory.synced (some copy) := by
        simp only [storeMediaLocked, hcopy]
      rw [hstore, (session.storeCopy_keeps _ _).1, storeCopy_hasMedia, any_some]
      cases hshown : playerMediaCopy memory.synced copy with
      | none => exact iff_of_false (fun hnone => hidle (hnone (.inr rfl))) (by simp)
      | some shown => exact iff_of_true (by simp) (.inr (some_ne_none _))

lemma noMediaIdle_beginOpen (memory : StoreMemory) (media : PlayerMedia) :
    (session.beginOpen memory media).2.NoMediaIdle ↔
      Shows memory (some media) ∨ session.snapshot.state = .idle := by
  have hstore := noMediaIdle_storeMediaLocked h memory (some media)
  unfold beginOpen
  dsimp only
  split_ifs with hstored
  · have hcopies : ∃ copy, playerMediaCopy memory.stored media = some copy ∧
        (session.storeCopy memory.synced (some copy)).1 := by
      unfold storeMediaLocked at hstored
      cases hcopy : playerMediaCopy memory.stored media with
      | none =>
        simp only [hcopy] at hstored
        cases hstored
      | some copy =>
        simp only [hcopy] at hstored
        exact ⟨copy, rfl, hstored⟩
    obtain ⟨copy, hcopy, hsynced⟩ := hcopies
    have hshown : playerMediaCopy memory.synced media ≠ none := by
      obtain rfl := playerMediaCopy_eq hcopy
      intro hnone
      simp only [storeCopy, syncSnapshotMediaLocked, hnone] at hsynced
      cases hsynced
    refine iff_of_true ?_ (.inl ⟨media, rfl, .inr hshown⟩)
    have hfields : (session.storeMediaLocked memory (some media)).2.currentMedia = some copy ∧
        (session.storeMediaLocked memory (some media)).2.snapshot.hasMedia := by
      obtain rfl := playerMediaCopy_eq hcopy
      simp only [storeMediaLocked, hcopy]
      refine ⟨(session.storeCopy_keeps _ _).1, ?_⟩
      rw [storeCopy_hasMedia, any_some, isSome_iff_ne_none]
      exact hshown
    rintro (hnone | hnone)
    · rw [hfields.1] at hnone
      cases hnone
    · rw [hfields.2] at hnone
      cases hnone
  · exact hstore

/-- **One section** keeps the snapshot idle without media if and only if it settles. -/
lemma noMediaIdle_step (next : PlayerSection) :
    (session.step next).NoMediaIdle ↔ session.Settles next := by
  cases next with
  | reset => exact iff_of_true (fun _ => rfl) trivial
  | beginOpen memory media => exact noMediaIdle_beginOpen h memory media
  | rollback memory previous => exact noMediaIdle_storeMediaLocked h memory previous
  | event memory event =>
    refine iff_of_true ?_ trivial
    cases hmedia : session.currentMedia with
    | none =>
      have hidle : (session.applyEventLocked memory event).snapshot.state = .idle := by
        simp only [applyEventLocked, hmedia]
      exact fun _ => hidle
    | some media =>
      obtain ⟨hkept, -, hhas⟩ := applyEventLocked_media hmedia memory event
      rintro (hnone | hnone)
      · rw [show (session.step (.event memory event)).currentMedia = some media from hkept] at hnone
        cases hnone
      · rw [show (session.step (.event memory event)).snapshot.hasMedia = true from hhas] at hnone
        cases hnone
  | refresh memory report =>
    refine iff_of_true ?_ trivial
    show (session.refreshCachedSnapshot memory report).NoMediaIdle
    unfold refreshCachedSnapshot readBackendSnapshot
    cases hmedia : session.currentMedia with
    | none => exact fun _ => rfl
    | some media =>
      cases hcopy : playerMediaCopy memory media with
      | none => simpa [hcopy] using h
      | some copy =>
        simp only [map_some, hcopy]
        rintro (hnone | hnone)
        all_goals cases hnone

/-- **A run** keeps it if and only if all its sections settle. -/
lemma noMediaIdle_run (sections : List PlayerSection) :
    (∀ done, done <+: sections → (session.run done).NoMediaIdle) ↔ session.Settled sections := by
  induction sections generalizing session with
  | nil =>
    refine iff_of_true (fun done hdone => ?_) trivial
    rw [prefix_nil.mp hdone]
    exact h
  | cons next sections ih =>
    constructor
    · intro hkeeps
      have hnext := hkeeps [next] (cons_prefix_cons.mpr ⟨rfl, nil_prefix⟩)
      refine ⟨(noMediaIdle_step h next).mp hnext, (ih hnext).mp fun done hdone => ?_⟩
      exact hkeeps (next :: done) (cons_prefix_cons.mpr ⟨rfl, hdone⟩)
    rintro ⟨hsettles, hrest⟩ done hdone
    cases done with
    | nil => exact h
    | cons first done =>
      obtain ⟨rfl, hlater⟩ := cons_prefix_cons.mp hdone
      exact (ih ((noMediaIdle_step h _).mpr hsettles)).mpr hrest done hlater

end PlayerSession

/-! ## Main result -/

/-- An OPEN that asks the backend and is refused. -/
def SetMediaRefused (session : PlayerSession) (command : MediaActorCommand)
    (answers : CommandAnswers) : Prop :=
  command.kind = .openMedia ∧ mayOpen answers.memory command.media session = true ∧
    (session.beginOpen answers.memory.begun command.media).1 = true ∧ answers.reply.ok = false

/-- An OPEN that the backend refuses leaves media and playback as they were. -/
def RefusalRestores (session : PlayerSession) (command : MediaActorCommand)
    (answers : CommandAnswers) : Prop :=
  SetMediaRefused session command answers →
    session.SameAs (session.run (playerExecuteActorCommand command answers session).2)

/-- What the backend has reported last, or else a playback that is loading, is what was shown before,
and the previous media are copied back, or are the same as the new ones. -/
def ShownBefore (session : PlayerSession) (command : MediaActorCommand)
    (answers : CommandAnswers) : Prop :=
  answers.reply.lastPlayback loadingPlayback = session.snapshot.playback ∧
    ∀ previous, session.currentMedia = some previous →
      playerMediaCopy answers.memory.rolledBack.stored previous = none → command.media = previous

/-- **A refused OPEN.**  It leaves media and playback as they were if and only if the playback that it
leaves was shown before and the media are copied back; and in a run the snapshot is idle without media, in
every state that a section leaves, if and only if no section stores media that cannot be shown while
the snapshot is not idle. -/
theorem playerExecuteSetMedia_refused (session : PlayerSession) :
    (∀ command answers, RefusalRestores session command answers ↔
      (SetMediaRefused session command answers → ShownBefore session command answers)) ∧
    ∀ operations, (∀ done, done <+: PlayerSession.reset.sections operations →
        (PlayerSession.reset.run done).NoMediaIdle) ↔
      PlayerSession.reset.Settled (PlayerSession.reset.sections operations) := by
  refine ⟨fun command answers => forall_congr' fun hrefused => ?_, fun operations =>
    PlayerSession.noMediaIdle_run (fun _ => rfl) _⟩
  obtain ⟨hkind, hmay, hbegun, hrefused⟩ := hrefused
  obtain ⟨hplayback, hmedia⟩ := PlayerSession.run_refused hbegun hrefused
  have hanswer : (playerOpenMedia answers.memory answers.reply command.media session).1 = false := by
    simp [playerOpenMedia, hbegun, hrefused]
  have hsections : (playerExecuteActorCommand command answers session).2 =
      (playerOpenMedia answers.memory answers.reply command.media session).2 := by
    simp only [playerExecuteActorCommand, hkind, playerExecuteOpen, playerExecuteSetMedia, hmay,
      if_true, hanswer]
  rw [hsections, PlayerSession.SameAs, hplayback, hmedia, ShownBefore, and_comm]
  refine and_congr_right fun _ => ?_
  split_ifs with hlost
  · obtain ⟨previous, hprevious, hnone⟩ := hlost
    rw [hprevious, Option.some.injEq]
    constructor
    · rintro hsame other hother -
      rw [hsame]
      exact some.inj hother
    · exact fun hsame => hsame previous rfl hnone
  · exact iff_of_true rfl fun previous hprevious hnone => absurd ⟨previous, hprevious, hnone⟩ hlost

/-- Memory for everything. -/
def OpenMemory.plenty : OpenMemory := ⟨true, ⟨true, true⟩, ⟨true, true⟩⟩

/-- An OPEN of the application. -/
def openCommand (uri : List UInt8) : MediaActorCommand :=
  ⟨.openMedia, .app, 0, 0, some uri, none, 0, false, none, false, false⟩

/-- The backend accepts, and has ten seconds of a minute played. -/
def acceptedOpen : CommandAnswers :=
  ⟨.plenty, ⟨[], true, true, ⟨.playing, 10000, 60000, 100, false, true⟩⟩,
    ⟨[], false, true, ⟨.idle, 0, 0, 100, false, false⟩⟩⟩

/-- The backend refuses and sends nothing. -/
def refusedOpen : CommandAnswers :=
  ⟨.plenty, ⟨[], false, true, ⟨.idle, 0, 0, 100, false, false⟩⟩,
    ⟨[], false, true, ⟨.idle, 0, 0, 100, false, false⟩⟩⟩

/-- A session that plays. -/
def playingSession : PlayerSession :=
  PlayerSession.reset.run
    (PlayerSession.reset.sections [.command (openCommand [0x61]) acceptedOpen])

/-- A refused OPEN leaves a player that plays as one that is loading. -/
theorem playerExecuteSetMedia_left_loading :
    ¬((∀ session command answers, RefusalRestores session command answers) ∧
      ∀ operations done, done <+: PlayerSession.reset.sections operations →
        (PlayerSession.reset.run done).NoMediaIdle) := by
  rintro ⟨hrestores, -⟩
  have hrefused : SetMediaRefused playingSession (openCommand [0x62]) refusedOpen := by
    unfold SetMediaRefused
    decide +kernel
  obtain ⟨-, hplayback⟩ := hrestores playingSession (openCommand [0x62]) refusedOpen hrefused
  have hleft : (playingSession.run (playerExecuteActorCommand (openCommand [0x62]) refusedOpen
      playingSession).2).snapshot.playback ≠ playingSession.snapshot.playback := by
    decide +kernel
  exact hleft hplayback

end NXCast

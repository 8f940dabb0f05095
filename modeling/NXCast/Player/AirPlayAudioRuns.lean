import Mathlib.Data.List.Nodup
import Mathlib.Data.List.Perm.Subperm
import NXCast.Player.AirPlayAudio

/-!
# Which audio tracks are selected and removed

Over every run of the calls, the sections and of mpv: only the track of the bridge that is set is
selected; a track of an older serial has been asked to be removed, unless its `audio-add` is still open,
its reply is still on the way, or the call that replaced it has not come to its second section; each
serial is added at most once; and each reference is dropped once.
-/

namespace NXCast

open List AirPlayFlight AudioAdd Decimal AudioTrackCall

/-! ## URIs -/

lemma bytes_airplayAudioUri (serial : ℕ) :
    (airplayAudioUri serial).bytes = asciiBytes "airplay://audio/" ++ digits serial := by
  refine CString.bytes_ofBuffer fun hzero => ?_
  rcases mem_append.mp hzero with hzero | hzero
  · revert hzero
    decide
  · have hdigit := isDigit_of_mem_digits serial 0 hzero
    revert hdigit
    decide

variable {serial : ℕ}

lemma airplayAudioUri_injective {serial' : ℕ} (h : airplayAudioUri serial = airplayAudioUri serial') :
    serial = serial' := by
  have hbytes := congrArg CString.bytes h
  rw [bytes_airplayAudioUri, bytes_airplayAudioUri] at hbytes
  have hdigs := append_cancel_left hbytes
  rw [← value_digits serial, hdigs, value_digits]

lemma airplayAudioUri_ne_nil (serial : ℕ) : (airplayAudioUri serial).bytes ≠ [] := by
  rw [bytes_airplayAudioUri]
  exact append_ne_nil_of_right_ne_nil _ (digits_ne_nil serial)

/-! ## What holds of every run -/

/-- The URI whose track the call is going to remove. -/
def AirPlayFlight.removes : AirPlayFlight → Option CString
  | .replacing _ uri _ | .removing uri _ => some uri
  | .binding _ | .unbinding _ | .closing _ _ => none

/-- The references in the hands of a call. -/
def AirPlayFlight.holds : AirPlayFlight → List ℕ
  | .replacing previous _ _ => previous.toList
  | .removing _ _ | .binding _ => []
  | .unbinding previous => [previous]
  | .closing stream audio => stream.toList ++ audio.toList

namespace AirPlayAudio

variable (calls : List AudioTrackCall)

/-- The serials of the calls of `audio-add`, with the bridges. -/
def addsOf : List (ℕ × ℕ) :=
  calls.filterMap fun
    | .add _ serial bridge _ => some (serial, bridge)
    | _ => none

/-- The serials that have been added up to now. -/
def added (audio : AirPlayAudio) : List (ℕ × ℕ) := addsOf audio.calls

/-- The references that are taken. -/
def retainsOf (bridges : List BridgeCall) : List ℕ :=
  bridges.filterMap fun
    | .retain bridge => some bridge
    | _ => none

/-- The references that are dropped. -/
def releasesOf (bridges : List BridgeCall) : List ℕ :=
  bridges.filterMap fun
    | .release bridge => some bridge
    | _ => none

/-- The references that have been taken. -/
def retained (audio : AirPlayAudio) : List ℕ := retainsOf audio.bridges

/-- The references that have been dropped. -/
def released (audio : AirPlayAudio) : List ℕ := releasesOf audio.bridges

/-- The references that the variables and the calls hold. -/
def held (audio : AirPlayAudio) : List ℕ :=
  audio.audioBridge.toList ++ audio.streamBridge.toList ++ audio.flights.flatMap AirPlayFlight.holds

/-- Each reference that was taken is held in one place or has been dropped. -/
def Balanced (audio : AirPlayAudio) : Prop :=
  ∀ bridge, audio.retained.count bridge = audio.released.count bridge + audio.held.count bridge

/-- The track of this serial is still going to be looked at: by the reply to its `audio-add`, or by the
call that has replaced it. -/
def Covers (audio : AirPlayAudio) (serial : ℕ) : Prop :=
  (∃ add ∈ audio.adds, add.serial = serial) ∨
    (∃ reply ∈ audio.replies, reply.kind = .add ∧ reply.serial = serial) ∨
    ∃ flight ∈ audio.flights, flight.removes = some (airplayAudioUri serial)

/-- The serial is that of the bridge that is set. -/
def Current (audio : AirPlayAudio) (serial : ℕ) : Prop :=
  serial = audio.audioSerial ∧ audio.audioBridge.isSome = true

/-- The invariant of the attachment. -/
structure Kept (audio : AirPlayAudio) : Prop where
  serial : audio.audioSerial = audio.given.length
  bound : audio.given.length < 2 ^ 32 - 1
  uri : audio.audioUri =
    if audio.audioBridge.isSome then airplayAudioUri audio.audioSerial else noAudioUri
  alive : audio.audioBridge.isSome = true → audio.backend.mpv = true
  given : ∀ entry ∈ audio.given, entry.1 ≤ audio.given.length
  nodup : (audio.given.map Prod.fst).Nodup
  current : ∀ bridge, audio.audioBridge = some bridge →
    (audio.audioSerial, some bridge) ∈ audio.given
  pending : audio.audioPending = true → audio.audioSerial ∉ audio.added.map Prod.fst
  added : ∀ entry ∈ audio.added, (entry.1, some entry.2) ∈ audio.given
  once : (audio.added.map Prod.fst).Nodup
  closed : audio.backend.mpv = false → audio.adds = [] ∧
    ∀ track ∈ audio.tracks, ∀ serial, track.filename ≠ some (airplayAudioUri serial)
  adds : ∀ add ∈ audio.adds, add.serial ∈ audio.added.map Prod.fst
  addsOnce : (audio.adds.map AudioAdd.serial).Nodup
  addsCurrent : ∀ add ∈ audio.adds, add.serial = audio.audioSerial → audio.audioBridge.isSome = true
  unlisted : ∀ add ∈ audio.adds, add.listed = false → ∀ track ∈ audio.tracks,
    track.filename ≠ some (airplayAudioUri add.serial)
  tracks : ∀ track ∈ audio.tracks, ∀ serial, track.filename = some (airplayAudioUri serial) →
    serial ∈ audio.added.map Prod.fst
  single : ∀ track ∈ audio.tracks, ∀ track' ∈ audio.tracks, ∀ serial,
    track.filename = some (airplayAudioUri serial) → track'.filename = some (airplayAudioUri serial) →
    track = track'
  covered : ∀ track ∈ audio.tracks, ∀ serial, track.filename = some (airplayAudioUri serial) →
    audio.Current serial ∨ .remove track ∈ audio.calls ∨ audio.Covers serial

/-- A part of a step that leaves the attachment as it is, and of what is going to be looked at only what
it has looked at itself. -/
structure Quiet (before after : AirPlayAudio) : Prop where
  mpv : after.backend.mpv = before.backend.mpv
  bridge : after.audioBridge = before.audioBridge
  serial : after.audioSerial = before.audioSerial
  uri : after.audioUri = before.audioUri
  pending : after.audioPending = before.audioPending
  tracks : after.tracks = before.tracks
  adds : after.adds = before.adds
  given : after.given = before.given
  added : after.added = before.added
  removes : ∀ track, .remove track ∈ before.calls → .remove track ∈ after.calls
  covers : ∀ serial, before.Covers serial → after.Covers serial ∨ before.Current serial ∨
    ∀ track ∈ before.tracks, track.filename = some (airplayAudioUri serial) →
      .remove track ∈ after.calls

variable {audio after : AirPlayAudio} {answers : AirPlayAnswers}

lemma Quiet.kept (h : audio.Quiet after) (hkept : audio.Kept) : after.Kept where
  serial := by
    rw [h.serial, h.given]
    exact hkept.serial
  bound := by
    rw [h.given]
    exact hkept.bound
  uri := by
    rw [h.uri, h.bridge, h.serial]
    exact hkept.uri
  alive := by
    rw [h.bridge, h.mpv]
    exact hkept.alive
  given := by
    rw [h.given]
    exact hkept.given
  nodup := by
    rw [h.given]
    exact hkept.nodup
  current := by
    rw [h.bridge, h.serial, h.given]
    exact hkept.current
  pending := by
    rw [h.pending, h.serial, h.added]
    exact hkept.pending
  added := by
    rw [h.added, h.given]
    exact hkept.added
  once := by
    rw [h.added]
    exact hkept.once
  closed := by
    rw [h.mpv, h.adds, h.tracks]
    exact hkept.closed
  adds := by
    rw [h.adds, h.added]
    exact hkept.adds
  addsOnce := by
    rw [h.adds]
    exact hkept.addsOnce
  addsCurrent := by
    rw [h.adds, h.serial, h.bridge]
    exact hkept.addsCurrent
  unlisted := by
    rw [h.adds, h.tracks]
    exact hkept.unlisted
  tracks := by
    rw [h.tracks, h.added]
    exact hkept.tracks
  single := by
    rw [h.tracks]
    exact hkept.single
  covered := by
    rw [h.tracks]
    unfold Current
    rw [h.serial, h.bridge]
    intro track htrack serial hname
    rcases hkept.covered track htrack serial hname with hcur | hremove | hcov
    · exact .inl hcur
    · exact .inr (.inl (h.removes track hremove))
    rcases h.covers serial hcov with hcov | hcur | hasked
    · exact .inr (.inr hcov)
    · exact .inl hcur
    · exact .inr (.inl (hasked track htrack hname))

/-! ## Parts -/

/-- Calls and references are made. -/
def log (audio : AirPlayAudio) (calls : List AudioTrackCall) (bridges : List BridgeCall) : AirPlayAudio :=
  { audio with calls := audio.calls ++ calls, bridges := audio.bridges ++ bridges }

variable (calls' : List AudioTrackCall)

lemma log_log (bridges bridges' : List BridgeCall) :
    (audio.log calls bridges).log calls' bridges' = audio.log (calls ++ calls') (bridges ++ bridges') := by
  unfold log
  rw [append_assoc, append_assoc]

lemma log_nil : audio.log [] [] = audio := by
  unfold log
  rw [append_nil, append_nil]

variable (bridge : Option ℕ)

lemma cancel_eq_log : audio.cancel bridge = audio.log [] (bridge.toList.map BridgeCall.cancel) := by
  unfold cancel log
  rw [append_nil]

lemma drop_eq_log :
    audio.drop bridge =
      audio.log [] (bridge.toList.flatMap fun b => [BridgeCall.cancel b, .release b]) := by
  unfold drop log
  rw [append_nil]

variable (uri : CString)

lemma remove_eq_log : audio.remove answers uri =
    audio.log ((audio.track answers uri).toList.map AudioTrackCall.remove) [] := by
  unfold remove
  split
  · next h =>
    rw [h]
    exact log_nil.symm
  next h =>
  rw [h]
  unfold log
  rw [append_nil]
  rfl

/-- Calls other than `audio-add`. -/
def NoAdds : Prop :=
  ∀ uri serial bridge taken, AudioTrackCall.add uri serial bridge taken ∉ calls

lemma addsOf_append :
    addsOf (calls ++ calls') = addsOf calls ++ addsOf calls' := filterMap_append

lemma addsOf_append_of_noAdds {calls' : List AudioTrackCall} (h : NoAdds calls') :
    addsOf (calls ++ calls') = addsOf calls := by
  have hnil : addsOf calls' = [] := by
    refine filterMap_eq_nil_iff.mpr fun call hcall => ?_
    cases call with
    | add uri serial bridge taken => exact absurd hcall (h uri serial bridge taken)
    | select | remove | abort => rfl
  rw [addsOf_append, hnil, append_nil]

lemma Quiet.log {calls : List AudioTrackCall} (hcalls : NoAdds calls) (bridges : List BridgeCall) :
    audio.Quiet (audio.log calls bridges) := by
  exact ⟨rfl, rfl, rfl, rfl, rfl, rfl, rfl, rfl, addsOf_append_of_noAdds _ hcalls,
    fun _ h => mem_append_left _ h, fun _ => .inl⟩

lemma noAdds_nil : NoAdds [] := fun _ _ _ _ => not_mem_nil

lemma noAdds_remove :
    NoAdds ((audio.track answers uri).toList.map AudioTrackCall.remove) := by
  intro uri' serial bridge taken hmem
  obtain ⟨track, -, h⟩ := mem_map.mp hmem
  cases h

lemma remove_quiet : audio.Quiet (audio.remove answers uri) := by
  rw [remove_eq_log]
  exact Quiet.log (noAdds_remove uri) _

lemma drop_quiet : audio.Quiet (audio.drop bridge) := by
  rw [drop_eq_log]
  exact Quiet.log noAdds_nil _

variable {track : MpvTrack}

lemma Kept.track_eq (hkept : audio.Kept) (hreadable : answers.readable = true)
    (htrack : track ∈ audio.tracks)
    (hname : track.filename = some (airplayAudioUri serial)) :
    audio.track answers (airplayAudioUri serial) = some track := by
  have hmpv : audio.backend.mpv = true := by
    by_contra hmpv
    exact (hkept.closed (Bool.eq_false_iff.mpr hmpv)).2 track htrack serial hname
  unfold AirPlayAudio.track
  rw [hmpv, hreadable, if_neg (by simp [airplayAudioUri_ne_nil])]
  cases hfind : audio.tracks.find? fun track => decide (track.filename = some (airplayAudioUri serial)) with
  | none => exact absurd hname (by simpa using find?_eq_none.mp hfind track htrack)
  | some found =>
    have hfound := find?_some hfind
    rw [decide_eq_true_eq] at hfound
    rw [hkept.single found (mem_of_find?_eq_some hfind) track htrack serial hfound hname]

/-- After the removal each listed track of the serial has been asked to be removed. -/
lemma Kept.asked (hkept : audio.Kept) (hreadable : answers.readable = true)
    (htrack : track ∈ audio.tracks)
    (hname : track.filename = some (airplayAudioUri serial)) :
    .remove track ∈ (audio.remove answers (airplayAudioUri serial)).calls := by
  rw [remove_eq_log, hkept.track_eq hreadable htrack hname]
  exact mem_append_right _ mem_cons_self

lemma Quiet.fly {flight : AirPlayFlight} {flights : List AirPlayFlight}
    (h : ∀ serial, flight.removes = some (airplayAudioUri serial) →
      (∃ next ∈ flights, next.removes = some (airplayAudioUri serial)) ∨
        ∀ track ∈ audio.tracks, track.filename = some (airplayAudioUri serial) →
          .remove track ∈ audio.calls) :
    audio.Quiet (audio.fly flight flights) := by
  refine ⟨rfl, rfl, rfl, rfl, rfl, rfl, rfl, rfl, rfl, fun _ => id, fun serial hcov => ?_⟩
  rcases hcov with hadd | hreply | ⟨covering, hmem, hremoves⟩
  · exact .inl (.inl hadd)
  · exact .inl (.inr (.inl hreply))
  by_cases heq : covering = flight
  · rcases h serial (heq ▸ hremoves) with ⟨next, hnext, hremoves⟩ | hasked
    · exact .inl (.inr (.inr ⟨next, mem_append_left _ hnext, hremoves⟩))
    · exact .inr (.inr hasked)
  · exact .inl (.inr (.inr ⟨covering,
      mem_append_right _ ((mem_erase_of_ne heq).mpr hmem), hremoves⟩))

/-- The calls that select a track: the track of the bridge that is set. -/
def Selects (audio : AirPlayAudio) (calls : List AudioTrackCall) : Prop :=
  ∀ track serial, .select track serial ∈ calls → audio.Current serial ∧ track ∈ audio.tracks ∧
    track.filename = some (airplayAudioUri serial)

/-- References are neither taken nor dropped. -/
def Cancels (bridges : List BridgeCall) : Prop := ∀ call ∈ bridges, ∃ bridge, call = .cancel bridge

lemma cancels_map : Cancels (bridge.toList.map BridgeCall.cancel) := by
  intro call hcall
  obtain ⟨b, -, rfl⟩ := mem_map.mp hcall
  exact ⟨b, rfl⟩

/-- Nothing but calls is made: no `audio-add`, no selection of another track, and no reference changes
hands. -/
def Logs (audio after : AirPlayAudio) : Prop :=
  ∃ calls bridges, after = audio.log calls bridges ∧ NoAdds calls ∧ audio.Selects calls ∧
    Cancels bridges

lemma Logs.quiet (h : audio.Logs after) : audio.Quiet after := by
  obtain ⟨calls, bridges, rfl, hadds, -⟩ := h
  exact Quiet.log hadds bridges

lemma Logs.refl (audio : AirPlayAudio) : audio.Logs audio :=
  ⟨[], [], log_nil.symm, noAdds_nil, nofun, nofun⟩

lemma Logs.cancel (h : audio.Logs after) (bridge : Option ℕ) : audio.Logs (after.cancel bridge) := by
  obtain ⟨calls, bridges, rfl, hadds, hselects, hcancels⟩ := h
  rw [cancel_eq_log, log_log, append_nil]
  refine ⟨calls, _, rfl, hadds, hselects, fun call hcall => ?_⟩
  exact (mem_append.mp hcall).elim (hcancels call) (cancels_map bridge call)

lemma remove_logs : audio.Logs (audio.remove answers uri) := by
  rw [remove_eq_log]
  refine ⟨_, _, rfl, noAdds_remove uri, fun track serial h => ?_, nofun⟩
  obtain ⟨_, -, h⟩ := mem_map.mp h
  cases h

lemma selectAudio_logs (hcur : audio.Current serial) :
    audio.Logs (audio.selectAudio answers serial) := by
  unfold selectAudio
  split
  · exact (Logs.refl audio).cancel _
  next track htrack =>
  have hsel : audio.Logs
      { audio with calls := audio.calls ++ [select track serial] } := by
    refine ⟨[.select track serial], [], ?_, fun _ _ _ _ h => ?_, fun track' serial' h => ?_, nofun⟩
    · unfold AirPlayAudio.log
      rw [append_nil]
    · exact nomatch mem_singleton.mp h
    cases mem_singleton.mp h
    unfold AirPlayAudio.track at htrack
    split at htrack
    · cases htrack
    · exact ⟨hcur, mem_of_find?_eq_some htrack, by simpa using find?_some htrack⟩
  split
  · exact hsel
  · exact hsel.cancel _

lemma audioReply_logs (reply : AudioReply) : audio.Logs (audio.audioReply answers reply) := by
  have hreplied : audio.Logs (if reply.kind = .select then audio
      else if !(audio.audioBridge.isSome && decide (reply.serial = audio.audioSerial)) then
        audio.remove answers (airplayAudioUri reply.serial)
      else if !reply.failed then audio.selectAudio answers reply.serial else audio) := by
    split
    · exact Logs.refl audio
    split
    · exact remove_logs _
    next hcur =>
    rw [Bool.not_eq_true', Bool.not_eq_false, Bool.and_eq_true, decide_eq_true_eq] at hcur
    split
    · exact selectAudio_logs ⟨hcur.2, hcur.1⟩
    · exact Logs.refl audio
  unfold audioReply
  dsimp only
  split
  · exact hreplied.cancel _
  · exact hreplied

/-- The reply to an `audio-add` of another serial asks for the removal of its track. -/
lemma audioReply_stale {reply : AudioReply} (hkind : reply.kind = .add)
    (hstale : ¬ audio.Current reply.serial) :
    audio.audioReply answers reply = audio.remove answers (airplayAudioUri reply.serial) := by
  have htest : (audio.audioBridge.isSome && decide (reply.serial = audio.audioSerial)) = false := by
    rw [← Bool.not_eq_true, Bool.and_eq_true, decide_eq_true_eq]
    exact fun h => hstale ⟨h.2, h.1⟩
  unfold audioReply
  dsimp only
  rw [htest, hkind, Bool.not_false, if_pos rfl, Bool.false_and, if_neg Bool.false_ne_true]
  exact if_neg nofun

lemma Kept.reply (hkept : audio.Kept) (hreadable : answers.readable = true) (reply : AudioReply) :
    let replied := audio.audioReply answers reply
    audio.Quiet { replied with replies := replied.replies.erase reply } := by
  have hlogs := @audioReply_logs audio answers reply
  have hquiet := hlogs.quiet
  refine ⟨hquiet.mpv, hquiet.bridge, hquiet.serial, hquiet.uri, hquiet.pending, hquiet.tracks,
    hquiet.adds, hquiet.given, hquiet.added, hquiet.removes, fun serial hcov => ?_⟩
  obtain ⟨calls, bridges, heq, -⟩ := hlogs
  rcases hcov with hadd | ⟨covering, hmem, hkind, rfl⟩ | hflight
  · refine .inl (.inl ?_)
    rw [heq]
    exact hadd
  · by_cases hsame : covering = reply
    · by_cases hcur : audio.Current covering.serial
      · exact .inr (.inl hcur)
      refine .inr (.inr fun track htrack hname => ?_)
      rw [← hsame, audioReply_stale hkind hcur]
      exact hkept.asked hreadable htrack hname
    · refine .inl (.inr (.inl ⟨covering, ?_, hkind, rfl⟩))
      rw [heq]
      exact (mem_erase_of_ne hsame).mpr hmem
  · refine .inl (.inr (.inr ?_))
    rw [heq]
    exact hflight

/-! ## Steps -/

/-- An `audio-add` is the first one of its serial. -/
lemma attach_kept (hkept : audio.Kept) : (audio.attach answers).Kept := by
  unfold attach
  split
  · exact hkept
  next bridge hbridge =>
  split
  · exact hkept
  next hdue =>
  have hpend : audio.audioPending = true := by
    rw [Bool.or_eq_true, not_or, Bool.not_eq_true', Bool.not_eq_false] at hdue
    exact hdue.1
  have hfresh := hkept.pending hpend
  have hsome : audio.audioBridge.isSome = true := by
    rw [hbridge]
    rfl
  -- the call itself, whether mpv takes it or not
  have hcalling : ∀ adds : List AudioAdd,
      (∀ add ∈ adds, add ∈ audio.adds ∨ add = ⟨audio.audioSerial, false⟩) →
      (adds.map serial).Nodup → (∀ add ∈ audio.adds, add ∈ adds) →
      ({ audio with
        audioPending := false
        calls := audio.calls ++ [add audio.audioUri audio.audioSerial bridge answers.takes]
        adds := adds } : AirPlayAudio).Kept := by
    intro adds hadds hnodup hsub
    have hadded := addsOf_append audio.calls
      [add audio.audioUri audio.audioSerial bridge answers.takes]
    have hmore : ∀ {serial : ℕ}, serial ∈ audio.added.map Prod.fst →
        serial ∈ (addsOf audio.calls ++ [(audio.audioSerial, bridge)]).map Prod.fst := by
      intro serial h
      rw [map_append]
      exact mem_append_left _ h
    refine ⟨hkept.serial, hkept.bound, hkept.uri, hkept.alive, hkept.given, hkept.nodup,
      hkept.current, (by simp), ?_, ?_, fun hmpv => ?_, ?_, hnodup, ?_, ?_, ?_,
      hkept.single, ?_⟩
    · unfold added
      rw [hadded]
      intro entry hentry
      rcases mem_append.mp hentry with hentry | hentry
      · exact hkept.added entry hentry
      · rw [mem_singleton.mp hentry]
        exact hkept.current bridge hbridge
    · unfold added
      rw [hadded, map_append, nodup_append]
      refine ⟨hkept.once, nodup_singleton _, fun serial hserial serial' hserial' => ?_⟩
      rw [mem_singleton.mp hserial']
      rintro rfl
      exact hfresh hserial
    · exact absurd ((hkept.alive hsome).symm.trans hmpv) Bool.noConfusion
    · unfold added
      rw [hadded]
      intro add hadd
      rcases hadds add hadd with hadd | rfl
      · exact hmore (hkept.adds add hadd)
      · rw [map_append]
        exact mem_append_right _ mem_cons_self
    · exact fun _ _ _ => hsome
    · intro add hadd hlisted track htrack hname
      rcases hadds add hadd with hadd | rfl
      · exact hkept.unlisted add hadd hlisted track htrack hname
      · exact hfresh (hkept.tracks track htrack _ hname)
    · unfold added
      rw [hadded]
      exact fun track htrack serial hname => hmore (hkept.tracks track htrack serial hname)
    · intro track htrack serial hname
      rcases hkept.covered track htrack serial hname with hcur | hremove | hadd | hother
      · exact .inl hcur
      · exact .inr (.inl (mem_append_left _ hremove))
      · obtain ⟨add, hadd, rfl⟩ := hadd
        exact .inr (.inr (.inl ⟨add, hsub add hadd, rfl⟩))
      · exact .inr (.inr (.inr hother))
  split
  · refine hcalling _ (fun add hadd => ?_) ?_ fun _ h => mem_append_left _ h
    · exact (mem_append.mp hadd).imp_right mem_singleton.mp
    rw [map_append, nodup_append]
    refine ⟨hkept.addsOnce, nodup_singleton _, fun serial hserial serial' hserial' => ?_⟩
    obtain ⟨add, hadd, rfl⟩ := mem_map.mp hserial
    rw [mem_singleton.mp hserial']
    intro heq
    have hsame : add.serial = audio.audioSerial := heq
    exact hfresh (hsame ▸ hkept.adds add hadd)
  · have href := hcalling audio.adds (fun _ => .inl) hkept.addsOnce fun _ => id
    exact Quiet.kept (((Logs.refl _).cancel (some bridge)).quiet) href

lemma nextAudioSerial_of_lt (h : serial + 1 < 2 ^ 32) :
    nextAudioSerial serial = serial + 1 := by
  unfold nextAudioSerial
  rw [Nat.mod_eq_of_lt h, if_neg (Nat.succ_ne_zero serial)]

variable (hkept : audio.Kept)

include hkept

/-- A bridge is set under a serial that was not given, and the track of the one it replaces is looked at
by the call. -/
lemma setAudio_kept (hbound : audio.given.length + 1 < 2 ^ 32 - 1)
    (bridge : Option ℕ) (next : Option (Option ℕ)) : (audio.setAudio bridge next).Kept := by
  unfold setAudio
  split
  · exact hkept
  next hready =>
  have hserial : nextAudioSerial audio.audioSerial = audio.given.length + 1 := by
    rw [hkept.serial]
    exact nextAudioSerial_of_lt (by omega)
  have hgiven : ∀ entry ∈ audio.given, entry.1 < audio.given.length + 1 :=
    fun entry hentry => Nat.lt_succ_of_le (hkept.given entry hentry)
  have hadded : ∀ serial ∈ audio.added.map Prod.fst, serial < audio.given.length + 1 := by
    intro serial hmem
    obtain ⟨entry, hentry, rfl⟩ := mem_map.mp hmem
    exact hgiven _ (hkept.added entry hentry)
  have hadded' := @addsOf_append_of_noAdds audio.calls
    (if audio.audioBridge.isSome && audio.backend.mpv then [abort audio.audioSerial]
      else []) (by
        intro _ _ _ _ hmem
        split at hmem
        · exact nomatch mem_singleton.mp hmem
        · exact not_mem_nil hmem)
  rw [hserial]
  refine ⟨by simp, by simpa using hbound, rfl, fun hsome => ?_, fun entry hentry => ?_, ?_,
    fun b hb => ?_, fun _ => ?_, ?_, ?_, hkept.closed, ?_, hkept.addsOnce, fun add hadd hsame => ?_,
    hkept.unlisted, ?_, hkept.single, fun track htrack serial hname => ?_⟩
  · by_contra hmpv
    rw [Bool.not_eq_true] at hmpv
    exact hready (by rw [hsome, hmpv, Bool.not_false, Bool.true_or, Bool.true_or, Bool.true_and])
  · rw [length_append, length_singleton]
    rcases mem_append.mp hentry with hentry | hentry
    · exact (hgiven entry hentry).le
    · rw [mem_singleton.mp hentry]
  · rw [map_append, nodup_append]
    refine ⟨hkept.nodup, nodup_singleton _, fun serial hmem serial' hmem' heq => ?_⟩
    obtain ⟨entry, hentry, rfl⟩ := mem_map.mp hmem
    have hlast : serial' = audio.given.length + 1 := mem_singleton.mp hmem'
    exact absurd (heq.trans hlast) (hgiven entry hentry).ne
  · subst hb
    exact mem_append_right _ mem_cons_self
  · unfold added
    rw [hadded']
    exact fun hmem => absurd rfl (hadded _ hmem).ne
  · unfold added
    rw [hadded']
    exact fun entry hentry => mem_append_left _ (hkept.added entry hentry)
  · unfold added
    rw [hadded']
    exact hkept.once
  · unfold added
    rw [hadded']
    exact hkept.adds
  · exact absurd hsame (hadded _ (hkept.adds add hadd)).ne
  · unfold added
    rw [hadded']
    exact hkept.tracks
  rcases hkept.covered track htrack serial hname with
    ⟨rfl, hsome⟩ | hremove | hadd | hreply | ⟨flight, hflight, hremoves⟩
  · refine .inr (.inr (.inr (.inr ⟨_, .head _, ?_⟩)))
    unfold removes
    rw [hkept.uri, if_pos hsome]
  · exact .inr (.inl (mem_append_left _ hremove))
  · exact .inr (.inr (.inl hadd))
  · exact .inr (.inr (.inr (.inl hreply)))
  · exact .inr (.inr (.inr (.inr ⟨flight, .tail _ hflight, hremoves⟩)))

lemma deinit_kept : audio.deinit.Kept where
  serial := hkept.serial
  bound := hkept.bound
  uri := rfl
  alive h := nomatch h
  given := hkept.given
  nodup := hkept.nodup
  current _ h := nomatch h
  pending h := nomatch h
  added := hkept.added
  once := hkept.once
  closed _ := ⟨rfl, nofun⟩
  adds _ h := nomatch h
  addsOnce := nodup_nil
  addsCurrent _ h := nomatch h
  unlisted _ h := nomatch h
  tracks _ h := nomatch h
  single _ h := nomatch h
  covered _ h := nomatch h

lemma init_kept (created : Bool) : (audio.step (.init created)).Kept := by
  unfold step
  dsimp only
  split
  · exact hkept
  next hmpv =>
  have hsilent : audio.audioBridge.isSome = true → False := fun h => hmpv (hkept.alive h)
  have hshut := hkept.closed (Bool.eq_false_iff.mpr hmpv)
  exact ⟨hkept.serial, hkept.bound, hkept.uri, fun h => (hsilent h).elim, hkept.given, hkept.nodup,
    hkept.current, hkept.pending, hkept.added, hkept.once, fun _ => hshut, hkept.adds,
    hkept.addsOnce, hkept.addsCurrent, hkept.unlisted, hkept.tracks, hkept.single, hkept.covered⟩

/-- mpv lists the track of an `audio-add`, which the reply is going to look at. -/
lemma listed_kept (add : AudioAdd) (id : ℕ) : (audio.step (.listed add id)).Kept := by
  unfold step
  dsimp only
  split
  · next hopen =>
    obtain ⟨hadd, hlisted⟩ := hopen
    have hsub : ∀ other ∈ (⟨add.serial, true⟩ : AudioAdd) :: audio.adds.erase add,
        other ∈ audio.adds ∨ other = ⟨add.serial, true⟩ :=
      fun other hother => (mem_cons.mp hother).symm.imp_left mem_of_mem_erase
    have hperm : (((⟨add.serial, true⟩ : AudioAdd) :: audio.adds.erase add).map serial).Perm
        (audio.adds.map serial) :=
      ((perm_cons_erase hadd).map serial).symm
    have hname : ∀ {serial : ℕ}, some (airplayAudioUri add.serial) = some (airplayAudioUri serial) →
        serial = add.serial := fun h => (airplayAudioUri_injective (Option.some.inj h)).symm
    refine ⟨hkept.serial, hkept.bound, hkept.uri, hkept.alive, hkept.given, hkept.nodup, hkept.current,
      hkept.pending, hkept.added, hkept.once, fun hmpv => ?_, fun other hother => ?_,
      hperm.nodup_iff.mpr hkept.addsOnce, fun other hother => ?_,
      fun other hother hunlisted track htrack => ?_, fun track htrack serial htext => ?_,
      fun track htrack track' htrack' serial htext htext' => ?_, fun track htrack serial htext => ?_⟩
    · exact absurd hadd (by
        rw [(hkept.closed hmpv).1]
        exact not_mem_nil)
    · rcases hsub other hother with hother | rfl
      · exact hkept.adds other hother
      · exact hkept.adds add hadd
    · rcases hsub other hother with hother | rfl
      · exact hkept.addsCurrent other hother
      · exact hkept.addsCurrent add hadd
    · have hother' : other ∈ audio.adds.erase add := by
        rcases mem_cons.mp hother with rfl | hother
        · cases hunlisted
        · exact hother
      rcases mem_append.mp htrack with htrack | htrack
      · exact hkept.unlisted other (mem_of_mem_erase hother') hunlisted track htrack
      -- another `audio-add` has another serial
      rw [mem_singleton.mp htrack]
      intro hsame
      have hnodup := hperm.nodup_iff.mpr hkept.addsOnce
      rw [map_cons, nodup_cons] at hnodup
      exact hnodup.1 (mem_map.mpr ⟨other, hother', hname hsame⟩)
    · rcases mem_append.mp htrack with htrack | htrack
      · exact hkept.tracks track htrack serial htext
      rw [mem_singleton.mp htrack] at htext
      rw [hname htext]
      exact hkept.adds add hadd
    · rcases mem_append.mp htrack with htrack | htrack <;>
        rcases mem_append.mp htrack' with htrack' | htrack'
      · exact hkept.single track htrack track' htrack' serial htext htext'
      · rw [mem_singleton.mp htrack'] at htext'
        rw [hname htext'] at htext
        exact absurd htext (hkept.unlisted add hadd hlisted track htrack)
      · rw [mem_singleton.mp htrack] at htext
        rw [hname htext] at htext'
        exact absurd htext' (hkept.unlisted add hadd hlisted track' htrack')
      · rw [mem_singleton.mp htrack, mem_singleton.mp htrack']
    · rcases mem_append.mp htrack with htrack | htrack
      · rcases hkept.covered track htrack serial htext with
          hcur | hremove | ⟨other, hother, rfl⟩ | hrest
        · exact .inl hcur
        · exact .inr (.inl hremove)
        · by_cases hsame : other = add
          · exact .inr (.inr (.inl ⟨_, .head _, by rw [hsame]⟩))
          · exact .inr (.inr (.inl ⟨other, .tail _ ((mem_erase_of_ne hsame).mpr hother), rfl⟩))
        · exact .inr (.inr (.inr hrest))
      · rw [mem_singleton.mp htrack] at htext
        exact .inr (.inr (.inl ⟨_, .head _, (hname htext).symm⟩))
  · exact hkept

/-- mpv replies to an `audio-add`. -/
lemma answered_kept (add : AudioAdd) (failed : Bool) :
    (audio.step (.answered add failed)).Kept := by
  unfold step
  dsimp only
  split
  · next hadd =>
    refine ⟨hkept.serial, hkept.bound, hkept.uri, hkept.alive, hkept.given, hkept.nodup, hkept.current,
      hkept.pending, hkept.added, hkept.once, fun hmpv => ?_,
      fun other hother => hkept.adds other (mem_of_mem_erase hother),
      hkept.addsOnce.sublist (List.Sublist.map _ erase_sublist),
      fun other hother => hkept.addsCurrent other (mem_of_mem_erase hother),
      fun other hother => hkept.unlisted other (mem_of_mem_erase hother), hkept.tracks,
      hkept.single, fun track htrack serial htext => ?_⟩
    · rw [(hkept.closed hmpv).1] at hadd
      exact absurd hadd not_mem_nil
    rcases hkept.covered track htrack serial htext with
      hcur | hremove | ⟨other, hother, rfl⟩ | ⟨reply, hreply, hkind⟩ | hflight
    · exact .inl hcur
    · exact .inr (.inl hremove)
    · by_cases hsame : other = add
      · exact .inr (.inr (.inr (.inl ⟨_, mem_append_right _ mem_cons_self, rfl, by rw [hsame]⟩)))
      · exact .inr (.inr (.inl ⟨other, (mem_erase_of_ne hsame).mpr hother, rfl⟩))
    · exact .inr (.inr (.inr (.inl ⟨reply, mem_append_left _ hreply, hkind⟩)))
    · exact .inr (.inr (.inr (.inr hflight)))
  · exact hkept

lemma appeared_kept
    (hother : ∀ serial, track.filename ≠ some (airplayAudioUri serial)) :
    (audio.step (.appeared track)).Kept := by
  have hold : ∀ {other : MpvTrack} {serial : ℕ}, other ∈ audio.tracks ++ [track] →
      other.filename = some (airplayAudioUri serial) → other ∈ audio.tracks := by
    intro other serial hmem hname
    rcases mem_append.mp hmem with hmem | hmem
    · exact hmem
    · rw [mem_singleton.mp hmem] at hname
      exact absurd hname (hother serial)
  refine ⟨hkept.serial, hkept.bound, hkept.uri, hkept.alive, hkept.given, hkept.nodup, hkept.current,
    hkept.pending, hkept.added, hkept.once, fun hmpv => ⟨(hkept.closed hmpv).1, ?_⟩, hkept.adds,
    hkept.addsOnce, hkept.addsCurrent, ?_, ?_, ?_, ?_⟩
  · exact fun other hmem serial hname => (hkept.closed hmpv).2 other (hold hmem hname) serial hname
  · exact fun add hadd hunlisted other hmem hname =>
      hkept.unlisted add hadd hunlisted other (hold hmem hname) hname
  · exact fun other hmem serial hname => hkept.tracks other (hold hmem hname) serial hname
  · exact fun other hmem other' hmem' serial hname hname' =>
      hkept.single other (hold hmem hname) other' (hold hmem' hname') serial hname hname'
  · exact fun other hmem serial hname => hkept.covered other (hold hmem hname) serial hname

lemma vanished_kept (track : MpvTrack) : (audio.step (.vanished track)).Kept := by
  have hold : ∀ {other : MpvTrack}, other ∈ audio.tracks.erase track → other ∈ audio.tracks :=
    mem_of_mem_erase
  refine ⟨hkept.serial, hkept.bound, hkept.uri, hkept.alive, hkept.given, hkept.nodup, hkept.current,
    hkept.pending, hkept.added, hkept.once, fun hmpv => ⟨(hkept.closed hmpv).1, ?_⟩, hkept.adds,
    hkept.addsOnce, hkept.addsCurrent, ?_, ?_, ?_, ?_⟩
  · exact fun other hmem => (hkept.closed hmpv).2 other (hold hmem)
  · exact fun add hadd hunlisted other hmem => hkept.unlisted add hadd hunlisted other (hold hmem)
  · exact fun other hmem => hkept.tracks other (hold hmem)
  · exact fun other hmem other' hmem' => hkept.single other (hold hmem) other' (hold hmem')
  · exact fun other hmem => hkept.covered other (hold hmem)

end AirPlayAudio

/-! ## The handle of mpv -/

section Handle

open LibmpvSection

variable {now : ℕ} {answers : LibmpvAnswers} {backend : LibmpvBackend} {x : LibmpvSection}

lemma releaseStartupGate_mpv : x.releaseStartupGate.backend.mpv = x.backend.mpv := by
  unfold releaseStartupGate
  split <;> rfl

lemma sendSeekTarget_mpv (request : LibmpvSeek) :
    (x.sendSeekTarget answers request).2.backend.mpv = x.backend.mpv := by
  rcases sendSeekTarget_cases answers request x with
    ⟨heq, -⟩ | ⟨-, heq⟩ | ⟨-, -, heq, -⟩
  · rw [heq]
  · rw [heq]
    rfl
  · rw [heq]

lemma maybeIssuePendingSeek_mpv :
    (x.maybeIssuePendingSeek answers).backend.mpv = x.backend.mpv := by
  rcases maybeIssuePendingSeek_cases answers x with
    heq | ⟨request, -, -, heq⟩ | ⟨request, -, -, -, heq, -⟩
  · rw [heq]
  · rw [heq]
    rfl
  · rw [heq]

lemma asyncLoadCurrent_mpv (paused : Bool) :
    (libmpvAsyncLoadCurrent now answers backend paused).2.backend.mpv = backend.mpv := by
  unfold libmpvAsyncLoadCurrent
  split_ifs <;> simp

lemma restartGate_mpv : (libmpvRestartGate now x).backend.mpv = x.backend.mpv := by
  unfold libmpvRestartGate
  split_ifs <;> simp [releaseStartupGate_mpv]

lemma mpv_libmpvStep (label : LibmpvLabel) : (libmpvStep backend label).mpv = backend.mpv := by
  unfold libmpvStep
  cases label with
  | setMedia uri now answers =>
    show (libmpvSetMedia now answers backend uri).2.backend.mpv = backend.mpv
    unfold libmpvSetMedia
    dsimp only
    split_ifs
    · rfl
    all_goals exact asyncLoadCurrent_mpv true
  | play now answers =>
    show (libmpvPlay now answers backend).2.backend.mpv = backend.mpv
    unfold libmpvPlay
    split_ifs
    · rfl
    · exact asyncLoadCurrent_mpv false
    all_goals simp
  | pause answers =>
    show (libmpvPause answers backend).2.backend.mpv = backend.mpv
    unfold libmpvPause
    split_ifs <;> simp [releaseStartupGate_mpv]
  | stop answers =>
    show (libmpvStop answers backend).2.backend.mpv = backend.mpv
    unfold libmpvStop
    split_ifs <;> simp [resetStartupGate]
  | seekTarget request now answers =>
    show (libmpvSeekTarget now answers backend request).2.backend.mpv = backend.mpv
    unfold libmpvSeekTarget
    dsimp only
    split_ifs <;> simp [sendSeekTarget_mpv]
  | setVolume volume answers =>
    show (libmpvSetVolume answers backend volume).2.backend.mpv = backend.mpv
    unfold libmpvSetVolume
    split_ifs <;> simp
  | setMute mute answers =>
    show (libmpvSetMute answers backend mute).2.backend.mpv = backend.mpv
    unfold libmpvSetMute
    split_ifs <;> simp
  | pump now =>
    show (libmpvReleaseExpiredStartupGate now backend).backend.mpv = backend.mpv
    unfold libmpvReleaseExpiredStartupGate
    split_ifs <;> simp [releaseStartupGate_mpv]
  | startFile => simp [libmpvSection, libmpvStartFile]
  | fileLoaded answers =>
    show (libmpvFileLoaded answers backend).backend.mpv = backend.mpv
    unfold libmpvFileLoaded
    dsimp only
    split_ifs <;> simp [maybeIssuePendingSeek_mpv]
  | seek => simp [libmpvSection, libmpvSeekEvent]
  | playbackRestart now answers =>
    show (libmpvPlaybackRestart now answers backend).backend.mpv = backend.mpv
    unfold libmpvPlaybackRestart
    rw [refreshState_backend]
    exact restartGate_mpv.trans maybeIssuePendingSeek_mpv
  | endFile reason error =>
    show (libmpvEndFile backend reason error).backend.mpv = backend.mpv
    unfold libmpvEndFile
    dsimp only
    split_ifs <;> simp [resetStartupGate]
  | property change answers =>
    show (libmpvPropertyChange answers backend change).backend.mpv = backend.mpv
    unfold libmpvPropertyChange
    split <;> simp [maybeIssuePendingSeek_mpv, setSeekable]
  | reply id failed =>
    show (libmpvReply backend id failed).backend.mpv = backend.mpv
    unfold libmpvReply
    split_ifs <;> simp
  | shutdown => simp [libmpvSection, libmpvShutdown, resetStartupGate]

end Handle
namespace AirPlayAudio

variable {audio after : AirPlayAudio} {answers : AirPlayAnswers} {label : AirPlayLabel}

lemma backend_kept (hkept : audio.Kept) (label : LibmpvLabel) :
    (audio.step (.backend label answers)).Kept := by
  have hstepped : ({ audio with backend := libmpvStep audio.backend label } : AirPlayAudio).Kept :=
    Quiet.kept ⟨mpv_libmpvStep label, rfl, rfl, rfl, rfl, rfl, rfl, rfl, rfl, fun _ => id,
      fun _ => .inl⟩ hkept
  unfold step
  dsimp only
  split
  · exact attach_kept hstepped
  · exact hstepped

lemma advance_kept (hkept : audio.Kept) (hreadable : answers.readable = true) (flight : AirPlayFlight) :
    (audio.advance answers flight).Kept := by
  have hnone : ∀ {before : AirPlayAudio} {flights : List AirPlayFlight}, before.Kept →
      flight.removes = none → (before.fly flight flights).Kept := by
    intro before flights hpre hremoves
    exact (Quiet.fly fun serial h => nomatch hremoves.symm.trans h).kept hpre
  unfold advance
  split
  · next previous uri next =>
    refine Quiet.kept (Quiet.fly fun serial h => .inl ?_) ((drop_quiet previous).kept hkept)
    exact ⟨_, .head _, h⟩
  · next uri next =>
    refine attach_kept ((Quiet.fly fun serial h => .inr ?_).kept ((remove_quiet uri).kept hkept))
    rw [(remove_quiet uri).tracks]
    have huri : uri = airplayAudioUri serial := Option.some.inj h
    rw [huri]
    exact fun track htrack hname => hkept.asked hreadable htrack hname
  · next bridge =>
    unfold bindStream
    dsimp only
    split
    · exact hnone hkept rfl
    have hbound : audio.Quiet { audio with
        streamRegistered := audio.streamRegistered || bridge.isSome && !audio.streamRegistered
        streamBridge := bridge
        bridges := audio.bridges ++ bridge.toList.map BridgeCall.retain } :=
      ⟨rfl, rfl, rfl, rfl, rfl, rfl, rfl, rfl, rfl, fun _ => id, fun _ => .inl⟩
    exact hnone (hbound.kept hkept) rfl
  · next previous => exact hnone ((drop_quiet _).kept hkept) rfl
  · next stream sound => exact hnone ((drop_quiet _).kept ((drop_quiet _).kept hkept)) rfl

/-- **Step.** -/
lemma step_kept (hkept : audio.Kept) (hok : label.Ok audio) : (audio.step label).Kept := by
  cases label with
  | setAudio bridge => exact setAudio_kept hkept hok bridge none
  | setStream bridge => exact setAudio_kept hkept hok none (some bridge)
  | advance flight answers =>
    unfold step
    dsimp only
    split
    · exact advance_kept hkept hok flight
    · exact hkept
  | deinit => exact deinit_kept hkept
  | init created => exact init_kept hkept created
  | backend label answers => exact backend_kept hkept label
  | reply reply answers =>
    unfold step
    dsimp only
    split
    · exact (hkept.reply hok reply).kept hkept
    · exact hkept
  | listed add id => exact listed_kept hkept add id
  | answered add failed => exact answered_kept hkept add failed
  | selected serial failed =>
    have hq : audio.Quiet (audio.step (.selected serial failed)) := by
      refine ⟨rfl, rfl, rfl, rfl, rfl, rfl, rfl, rfl, rfl, fun _ => id, fun _ h => .inl ?_⟩
      exact h.imp_right (Or.imp_left fun ⟨reply, hmem, hreply⟩ =>
        ⟨reply, mem_append_left _ hmem, hreply⟩)
    exact hq.kept hkept
  | appeared track => exact appeared_kept hkept hok
  | vanished track => exact vanished_kept hkept track

/-! ## References -/

lemma retainsOf_append (bridges bridges' : List BridgeCall) :
    retainsOf (bridges ++ bridges') = retainsOf bridges ++ retainsOf bridges' := filterMap_append

lemma releasesOf_append (bridges bridges' : List BridgeCall) :
    releasesOf (bridges ++ bridges') = releasesOf bridges ++ releasesOf bridges' :=
  filterMap_append

variable {bridges : List BridgeCall}

lemma Cancels.refs (h : Cancels bridges) :
    retainsOf bridges = [] ∧ releasesOf bridges = [] := by
  constructor
  all_goals
    refine filterMap_eq_nil_iff.mpr fun call hcall => ?_
    obtain ⟨bridge, rfl⟩ := h call hcall
    rfl

variable (bridge : Option ℕ)

lemma retain_refs :
    retainsOf (bridge.toList.map BridgeCall.retain) = bridge.toList ∧
      releasesOf (bridge.toList.map BridgeCall.retain) = [] := by
  cases bridge with
  | none | some => exact ⟨rfl, rfl⟩

lemma drop_refs :
    retainsOf (bridge.toList.flatMap fun b => [BridgeCall.cancel b, .release b]) = [] ∧
      releasesOf (bridge.toList.flatMap fun b => [BridgeCall.cancel b, .release b]) =
        bridge.toList := by
  cases bridge with
  | none | some => exact ⟨rfl, rfl⟩

/-- A part of a step in which no reference changes hands. -/
structure SameRefs (before after : AirPlayAudio) : Prop where
  audioBridge : after.audioBridge = before.audioBridge
  streamBridge : after.streamBridge = before.streamBridge
  flights : after.flights = before.flights
  bridges : ∃ bridges, after.bridges = before.bridges ++ bridges ∧ Cancels bridges

lemma SameRefs.of_eq (haudio : after.audioBridge = audio.audioBridge)
    (hstream : after.streamBridge = audio.streamBridge) (hflights : after.flights = audio.flights)
    (hbridges : after.bridges = audio.bridges) : audio.SameRefs after :=
  ⟨haudio, hstream, hflights, [], by rw [hbridges, append_nil], nofun⟩

lemma Logs.sameRefs (h : audio.Logs after) : audio.SameRefs after := by
  obtain ⟨calls, bridges, rfl, -, -, hcancels⟩ := h
  exact ⟨rfl, rfl, rfl, bridges, rfl, hcancels⟩

lemma SameRefs.balanced (h : audio.SameRefs after) (hbal : audio.Balanced) : after.Balanced := by
  obtain ⟨bridges, hbridges, hcancels⟩ := h.bridges
  intro bridge
  unfold retained released held
  rw [hbridges, retainsOf_append, releasesOf_append, hcancels.refs.1, hcancels.refs.2, append_nil,
    append_nil, h.audioBridge, h.streamBridge, h.flights]
  exact hbal bridge

lemma attach_sameRefs : audio.SameRefs (audio.attach answers) := by
  unfold attach
  split
  · exact SameRefs.of_eq rfl rfl rfl rfl
  next bridge hbridge =>
  split
  · exact SameRefs.of_eq rfl rfl rfl rfl
  dsimp only
  split
  · exact SameRefs.of_eq rfl rfl rfl rfl
  · exact ⟨rfl, rfl, rfl, _, rfl, cancels_map (some bridge)⟩

section

variable (hbal : audio.Balanced)

include hbal

lemma fly_balanced {flight : AirPlayFlight} {flights : List AirPlayFlight}
    (hflight : flight ∈ audio.flights)
    (hflights : after.flights = audio.flights) (hbridges : after.bridges = audio.bridges ++ bridges)
    (hrefs : ∀ bridge, (after.audioBridge.toList ++ after.streamBridge.toList).count bridge + (releasesOf bridges).count bridge + (flights.flatMap holds).count bridge = (audio.audioBridge.toList ++ audio.streamBridge.toList).count bridge + (retainsOf bridges).count bridge + flight.holds.count bridge) :
    (after.fly flight flights).Balanced := by
  intro bridge
  have hpre := hbal bridge
  have hrefs := hrefs bridge
  have hperm := (perm_cons_erase hflight).flatMap_right holds
  have hcount := hperm.count_eq bridge
  rw [flatMap_cons, count_append] at hcount
  unfold retained released held at hpre ⊢
  show (retainsOf after.bridges).count bridge = (releasesOf after.bridges).count bridge +
    (after.audioBridge.toList ++ after.streamBridge.toList ++
      (flights ++ after.flights.erase flight).flatMap holds).count bridge
  rw [hbridges, hflights, retainsOf_append, releasesOf_append, flatMap_append]
  simp only [count_append] at hpre hrefs ⊢
  omega

lemma advance_balanced {flight : AirPlayFlight}
    (hflight : flight ∈ audio.flights) : (audio.advance answers flight).Balanced := by
  unfold advance
  split
  · next previous uri next =>
    refine fly_balanced hbal hflight rfl rfl fun bridge => ?_
    rw [(drop_refs previous).1, (drop_refs previous).2]
    rfl
  · next uri next =>
    rw [remove_eq_log]
    refine attach_sameRefs.balanced (fly_balanced hbal hflight rfl rfl fun bridge => ?_)
    cases next with
    | none | some => rfl
  · next bridge =>
    unfold bindStream
    dsimp only
    split
    · exact fly_balanced hbal hflight rfl (append_nil _).symm fun _ => rfl
    refine fly_balanced hbal hflight rfl rfl fun b => ?_
    rw [(retain_refs bridge).1, (retain_refs bridge).2, count_append, count_append]
    cases audio.streamBridge with
    | none => simp [holds]
    | some previous =>
      simp [holds]
      omega
  · next previous =>
    refine fly_balanced hbal hflight rfl rfl fun bridge => ?_
    rfl
  · next stream sound =>
    refine fly_balanced hbal hflight rfl (append_assoc _ _ _) fun bridge => ?_
    rw [retainsOf_append, releasesOf_append, (drop_refs stream).1, (drop_refs stream).2,
      (drop_refs sound).1, (drop_refs sound).2]
    rfl

lemma setAudio_balanced (bridge : Option ℕ) (next : Option (Option ℕ)) :
    (audio.setAudio bridge next).Balanced := by
  unfold setAudio
  split
  · exact hbal
  intro b
  have hpre := hbal b
  unfold retained released held at hpre ⊢
  rw [retainsOf_append, releasesOf_append, (retain_refs bridge).1, (retain_refs bridge).2,
    flatMap_cons]
  simp only [count_append, append_nil, holds] at hpre ⊢
  omega

lemma deinit_balanced : audio.deinit.Balanced := by
  intro bridge
  have hpre := hbal bridge
  unfold retained released held at hpre ⊢
  simp only [deinit, Option.toList_none, nil_append, flatMap_cons, count_append, holds] at hpre ⊢
  omega

lemma step_balanced (label : AirPlayLabel) : (audio.step label).Balanced := by
  cases label with
  | setAudio bridge => exact setAudio_balanced hbal bridge none
  | setStream bridge => exact setAudio_balanced hbal none (some bridge)
  | advance flight answers =>
    unfold step
    dsimp only
    split
    · next hflight => exact advance_balanced hbal hflight
    · exact hbal
  | deinit => exact deinit_balanced hbal
  | init created =>
    unfold step
    dsimp only
    split
    · exact hbal
    · exact (@SameRefs.of_eq audio _ rfl rfl rfl rfl).balanced hbal
  | backend label answers =>
    have hstepped : audio.SameRefs { audio with backend := libmpvStep audio.backend label } :=
      SameRefs.of_eq rfl rfl rfl rfl
    unfold step
    dsimp only
    split
    · exact attach_sameRefs.balanced (hstepped.balanced hbal)
    · exact hstepped.balanced hbal
  | reply reply answers =>
    unfold step
    dsimp only
    split
    · have hreplied := (@audioReply_logs audio answers reply).sameRefs
      exact (SameRefs.mk hreplied.audioBridge hreplied.streamBridge hreplied.flights
        hreplied.bridges).balanced hbal
    · exact hbal
  | listed | answered =>
    unfold step
    dsimp only
    split
    · exact (@SameRefs.of_eq audio _ rfl rfl rfl rfl).balanced hbal
    · exact hbal
  | selected | appeared | vanished => exact hbal

end

/-! ## Selections -/

/-- Calls that select nothing. -/
def NoSelects (calls : List AudioTrackCall) : Prop :=
  ∀ track serial, AudioTrackCall.select track serial ∉ calls

lemma Selects.of_none {calls : List AudioTrackCall} (h : NoSelects calls) : audio.Selects calls :=
  fun track serial hmem => absurd hmem (h track serial)

lemma attach_calls : ∃ calls, (audio.attach answers).calls = audio.calls ++ calls ∧ NoSelects calls := by
  have hnone : ∃ calls, audio.calls = audio.calls ++ calls ∧ NoSelects calls :=
    ⟨[], (append_nil _).symm, fun _ _ => not_mem_nil⟩
  unfold attach
  split
  · exact hnone
  next bridge hbridge =>
  split
  · exact hnone
  have hadd : NoSelects
      [add audio.audioUri audio.audioSerial bridge answers.takes] :=
    fun track serial h => by cases mem_singleton.mp h
  split
  all_goals exact ⟨_, rfl, hadd⟩

lemma setAudio_calls (next : Option (Option ℕ)) :
    ∃ calls, (audio.setAudio bridge next).calls = audio.calls ++ calls ∧ NoSelects calls := by
  unfold setAudio
  split
  · exact ⟨[], (append_nil _).symm, fun _ _ => not_mem_nil⟩
  refine ⟨_, rfl, fun track serial h => ?_⟩
  split at h
  · exact nomatch mem_singleton.mp h
  · exact not_mem_nil h

lemma advance_calls (flight : AirPlayFlight) :
    ∃ calls, (audio.advance answers flight).calls = audio.calls ++ calls ∧ NoSelects calls := by
  have hnone : ∃ calls, audio.calls = audio.calls ++ calls ∧ NoSelects calls :=
    ⟨[], (append_nil _).symm, fun _ _ => not_mem_nil⟩
  unfold advance
  split
  · exact hnone
  · next uri next =>
    obtain ⟨calls, hcalls, hattach⟩ := @attach_calls
      ((audio.remove answers uri).fly (.removing uri next) (next.toList.map .binding)) answers
    refine ⟨(audio.track answers uri).toList.map AudioTrackCall.remove ++ calls, hcalls.trans ?_, ?_⟩
    · rw [remove_eq_log]
      exact append_assoc _ _ _
    intro track serial hmem
    rcases mem_append.mp hmem with hmem | hmem
    · obtain ⟨_, -, h⟩ := mem_map.mp hmem
      cases h
    · exact hattach track serial hmem
  · unfold bindStream
    dsimp only
    split
    all_goals exact hnone
  all_goals exact hnone

lemma step_selects (label : AirPlayLabel) :
    ∃ calls, (audio.step label).calls = audio.calls ++ calls ∧ audio.Selects calls := by
  have hquiet : ∀ {after : AirPlayAudio},
      (∃ calls, after.calls = audio.calls ++ calls ∧ NoSelects calls) →
        ∃ calls, after.calls = audio.calls ++ calls ∧ audio.Selects calls :=
    fun ⟨calls, heq, hnone⟩ => ⟨calls, heq, .of_none hnone⟩
  have hsame : ∀ {after : AirPlayAudio}, after.calls = audio.calls →
      ∃ calls, after.calls = audio.calls ++ calls ∧ audio.Selects calls :=
    fun heq => ⟨[], by rw [heq, append_nil], nofun⟩
  cases label with
  | setAudio bridge => exact hquiet (setAudio_calls bridge none)
  | setStream bridge => exact hquiet (setAudio_calls none (some bridge))
  | advance flight answers =>
    unfold step
    dsimp only
    split
    · exact hquiet (advance_calls flight)
    · exact hsame rfl
  | deinit | selected | appeared | vanished => exact hsame rfl
  | init | listed | answered =>
    unfold step
    dsimp only
    split
    all_goals exact hsame rfl
  | backend label answers =>
    unfold step
    dsimp only
    split
    · exact hquiet attach_calls
    · exact hsame rfl
  | reply reply answers =>
    unfold step
    dsimp only
    split
    · obtain ⟨calls, bridges, heq, -, hselects, -⟩ := @audioReply_logs audio answers reply
      refine ⟨calls, ?_, hselects⟩
      rw [heq]
      rfl
    · exact hsame rfl

/-! ## Attachment -/

lemma Kept.added_le (hkept : audio.Kept) (bridge : ℕ) :
    (audio.added.map Prod.snd).count bridge ≤ (audio.given.map Prod.snd).count (some bridge) := by
  let entry : ℕ × ℕ → ℕ × Option ℕ := fun add => (add.1, some add.2)
  have hfst : (audio.added.map entry).map Prod.fst = audio.added.map Prod.fst := by
    rw [map_map]
    rfl
  have hnodup : (audio.added.map entry).Nodup := by
    refine List.Nodup.of_map Prod.fst ?_
    rw [hfst]
    exact hkept.once
  have hsub : audio.added.map entry ⊆ audio.given := by
    intro given hgiven
    obtain ⟨add, hadd, rfl⟩ := mem_map.mp hgiven
    exact hkept.added add hadd
  obtain ⟨adds, hperm, hsublist⟩ := subperm_of_subset hnodup hsub
  have hcount := (hsublist.map Prod.snd).count_le (some bridge)
  rw [(hperm.map Prod.snd).count_eq] at hcount
  have hsnd : (audio.added.map entry).map Prod.snd = (audio.added.map Prod.snd).map some := by
    rw [map_map, map_map]
    rfl
  rw [hsnd] at hcount
  exact count_le_count_map.trans hcount

lemma initial_kept : initial.Kept where
  serial := rfl
  bound := by decide
  uri := rfl
  alive h := nomatch h
  given _ h := nomatch h
  nodup := nodup_nil
  current _ h := nomatch h
  pending h := nomatch h
  added _ h := nomatch h
  once := nodup_nil
  closed _ := ⟨rfl, nofun⟩
  adds _ h := nomatch h
  addsOnce := nodup_nil
  addsCurrent _ h := nomatch h
  unlisted _ h := nomatch h
  tracks _ h := nomatch h
  single _ h := nomatch h
  covered _ h := nomatch h

/-- The law of the attachment. -/
structure Law (audio : AirPlayAudio) : Prop where
  selected : ∀ label, ∃ calls, (audio.step label).calls = audio.calls ++ calls ∧
    ∀ track serial, .select track serial ∈ calls → audio.Current serial ∧
      track.filename = some (airplayAudioUri serial)
  removed : ∀ track ∈ audio.tracks, ∀ serial, track.filename = some (airplayAudioUri serial) →
    ¬ audio.Current serial → .remove track ∈ audio.calls ∨ audio.Covers serial
  once : (audio.added.map Prod.fst).Nodup
  bridges : ∀ bridge,
    (audio.added.map Prod.snd).count bridge ≤ (audio.given.map Prod.snd).count (some bridge)
  dropped : ∀ bridge,
    audio.retained.count bridge = audio.released.count bridge + audio.held.count bridge

/-- **Attachment.**  In every interleaving of the calls that set a bridge with the sections of the
backend, with what mpv does and with its late replies: a track is selected only under the serial that is
set; a track of another serial has been asked to be removed once neither its `audio-add` nor its reply
is open and the call that replaced it has gone on; a serial is added at most once, so a bridge is not
added more often than it is set; and each reference that is taken is held in one place until it is
dropped. -/
theorem airplayAudio_law
    (h : Runs.Reachable step initial (fun audio label => label.Ok audio) audio) : audio.Law := by
  have hstart : initial.Kept ∧ initial.Balanced := ⟨initial_kept, fun _ => rfl⟩
  obtain ⟨hkept, hbalanced⟩ : audio.Kept ∧ audio.Balanced :=
    h.invariant (P := fun audio => audio.Kept ∧ audio.Balanced) hstart fun audio label hs hok =>
      ⟨step_kept hs.1 hok, step_balanced hs.2 label⟩
  refine ⟨fun label => ?_, fun track htrack serial hname hother => ?_, hkept.once, hkept.added_le,
    hbalanced⟩
  · obtain ⟨calls, heq, hselects⟩ := @step_selects audio label
    exact ⟨calls, heq, fun track serial hmem =>
      ⟨(hselects track serial hmem).1, (hselects track serial hmem).2.2⟩⟩
  · exact (hkept.covered track htrack serial hname).resolve_left hother

/-- A bridge that is replaced while mpv still opens its track. -/
theorem airplayAudio_law_late :
    let ready : AirPlayAnswers := ⟨true, true, true⟩
    let answers : LibmpvAnswers := ⟨true, true, false, fun _ => true⟩
    let labels : List AirPlayLabel := [.init true, .setStream (some 7),
      .advance (.replacing none noAudioUri (some (some 7))) ready,
      .advance (.removing noAudioUri (some (some 7))) ready, .advance (.binding (some 7)) ready,
      .setAudio (some 8), .backend (.fileLoaded answers) ready, .setAudio none, .listed ⟨2, false⟩ 1,
      .answered ⟨2, true⟩ false, .reply ⟨.add, 2, false⟩ ready]
    (Runs.run step initial labels).Law ∧ (Runs.run step initial labels).audioSerial = 3 := by
  intro ready answers labels
  have hlabels : Runs.Along step (fun audio label => label.Ok audio) initial labels :=
    ⟨trivial, by show _ < _; decide +kernel, rfl, rfl, rfl, by show _ < _; decide +kernel, trivial,
      by show _ < _; decide +kernel, trivial, trivial, rfl, trivial⟩
  exact ⟨airplayAudio_law (Runs.Reachable.start.along hlabels), by decide +kernel⟩

end AirPlayAudio

end NXCast

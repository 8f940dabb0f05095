import NXCast.Media.StreamBridge
import Mathlib.Logic.Relation

/-!
# The stream bridge is a queue

The threads that call the bridge, one step a section, and what they leave in every reachable
state: what has been read, followed by what the ring holds, is what has been written.

The muxer runs under `mux_mutex`.  What libavformat hands to `bridge_avio_write` while a call
holds that mutex, and what it answers in the end, is left open, so there is every order and every
size of writes.  A thread that waits sleeps until its condition is signalled, or until it wakes up
of itself.

The invariant goes over the threads.  Only the holder of `mux_mutex` writes, a muxer that is
finished is entered by nobody, and `eof` is set behind a finished muxer: so an end of stream is
read when everything written has been read and nothing more can be.  A thread sleeps only while
its condition fails, so no wake-up is lost.
-/

namespace NXCast

open Function List

/-! ## Threads -/

/-- A call of the bridge: `airplay_stream_bridge_push_video` or `_audio`, `_finish`, `_cancel`
and `_read`. -/
inductive BridgeRequest where
  | push
  | finish
  | cancel
  | read (outputSize : ℕ)
deriving DecidableEq

/-- A call that goes through `mux_mutex`. -/
inductive BridgeMuxCall where
  | push
  | finish
deriving DecidableEq

/-- Where a call stands: in front of `mux_mutex`, under it in libavformat, under it in
`bridge_avio_write`, or in front of a section under `ring_mutex`.  A thread that waits on a
condition of that mutex is asleep. -/
inductive BridgeThread where
  | entering (call : BridgeMuxCall)
  | muxing (call : BridgeMuxCall)
  | writing (call : BridgeMuxCall) (input : List UInt8) (asleep : Bool)
  | finishing (ok : Bool)
  | cancelling
  | reading (outputSize : ℕ) (asleep : Bool)
deriving DecidableEq

/-- What a call has come to. -/
inductive BridgeEvent where
  | wrote (input : List UInt8)
  | writeFailed
  | read (result : BridgeReadResult)
  | finished (ok : Bool)
deriving DecidableEq

/-- The bridge, the holder of `mux_mutex`, the calls that are under way, and what has come of
calls so far. -/
structure BridgeSystem where
  bridge : AirPlayStreamBridge
  mux : Option ℕ
  calls : ℕ → Option BridgeThread
  history : List BridgeEvent

/-- A call with bad arguments returns without a section. -/
def BridgeRequest.start : BridgeRequest → Option BridgeThread
  | .push => some (.entering .push)
  | .finish => some (.entering .finish)
  | .cancel => some .cancelling
  | .read outputSize =>
    if outputSize = 0 ∨ outputSize ≥ 2 ^ 63 then none else some (.reading outputSize false)

namespace BridgeThread

/-- `bridge_cond_wake_all(&bridge->readable)` -/
def wakeReader : BridgeThread → BridgeThread
  | .reading outputSize _ => .reading outputSize false
  | thread => thread

/-- `bridge_cond_wake_all(&bridge->writable)` -/
def wakeWriter : BridgeThread → BridgeThread
  | .writing call input _ => .writing call input false
  | thread => thread

end BridgeThread

namespace BridgeSystem

/-- The system in which no call has been made. -/
def initial (bridge : AirPlayStreamBridge) : BridgeSystem := ⟨bridge, none, fun _ => none, []⟩

variable (s : BridgeSystem) (id : ℕ)

/-- Call `id` goes on as `thread`; the other threads are woken by `wake`. -/
def advance (bridge : AirPlayStreamBridge) (mux : Option ℕ) (wake : BridgeThread → BridgeThread)
    (thread : Option BridgeThread) (events : List BridgeEvent) : BridgeSystem :=
  { bridge
    mux
    calls := update (fun other => (s.calls other).map wake) id thread
    history := s.history ++ events }

/-- Call `id` goes on, and nothing else changes. -/
def goOn (thread : Option BridgeThread) : BridgeSystem :=
  s.advance id s.bridge s.mux (fun t => t) thread []

/-- The first section under `mux_mutex`. -/
def enter (call : BridgeMuxCall) : BridgeSystem :=
  let inside := s.advance id s.bridge (some id) (fun t => t) (some (.muxing call)) []
  match call with
  | .push => if s.bridge.muxFinished || s.bridge.cancelled then s.goOn id none else inside
  | .finish =>
    if !s.bridge.muxFinished && !s.bridge.cancelled then inside
    else s.goOn id (some (.finishing !s.bridge.cancelled))

/-- libavformat calls `bridge_avio_write`, which refuses sizes out of range. -/
def beginWrite (call : BridgeMuxCall) (input : List UInt8) : BridgeSystem :=
  if input = [] ∨ input.length > s.bridge.capacity then s
  else s.goOn id (some (.writing call input false))

/-- A turn of `bridge_avio_write` under `ring_mutex`. -/
def runWrite (call : BridgeMuxCall) (input : List UInt8) : BridgeSystem :=
  match s.bridge.avioWrite input with
  | .wait => s.goOn id (some (.writing call input true))
  | .leave bridge false =>
    s.advance id bridge s.mux (fun t => t) (some (.muxing call)) [.writeFailed]
  | .leave bridge true =>
    s.advance id bridge s.mux BridgeThread.wakeReader (some (.muxing call)) [.wrote input]

/-- The end of the section under `mux_mutex`, with what libavformat has come to. -/
def leaveMux (call : BridgeMuxCall) (ok : Bool) : BridgeSystem :=
  match call with
  | .push => s.advance id s.bridge none (fun t => t) none []
  | .finish =>
    s.advance id { s.bridge with muxFinished := true } none (fun t => t) (some (.finishing ok)) []

/-- The section of `airplay_stream_bridge_finish` under `ring_mutex`. -/
def runFinish (ok : Bool) : BridgeSystem :=
  s.advance id s.bridge.finishRing s.mux (fun t => t.wakeReader.wakeWriter) none [.finished ok]

/-- The section of `airplay_stream_bridge_cancel`. -/
def runCancel : BridgeSystem :=
  s.advance id s.bridge.cancel s.mux (fun t => t.wakeReader.wakeWriter) none []

/-- A turn of `airplay_stream_bridge_read`. -/
def runRead (outputSize : ℕ) : BridgeSystem :=
  match s.bridge.read outputSize with
  | .wait => s.goOn id (some (.reading outputSize true))
  | .leave bridge (.bytes output) =>
    s.advance id bridge s.mux BridgeThread.wakeWriter none [.read (.bytes output)]
  | .leave bridge result => s.advance id bridge s.mux (fun t => t) none [.read result]

end BridgeSystem

/-- One step: a call is made, a thread that is awake runs its next section, or a sleeping
thread wakes up of itself. -/
inductive BridgeStep (s : BridgeSystem) : BridgeSystem → Prop
  | call (id : ℕ) (request : BridgeRequest) (hidle : s.calls id = none) :
    BridgeStep s (s.goOn id request.start)
  | enter (id : ℕ) (call : BridgeMuxCall) (hthread : s.calls id = some (.entering call))
    (hmux : s.mux = none) : BridgeStep s (s.enter id call)
  | beginWrite (id : ℕ) (call : BridgeMuxCall) (input : List UInt8)
    (hthread : s.calls id = some (.muxing call)) (hint : input.length < 2 ^ 31) :
    BridgeStep s (s.beginWrite id call input)
  | write (id : ℕ) (call : BridgeMuxCall) (input : List UInt8)
    (hthread : s.calls id = some (.writing call input false)) :
    BridgeStep s (s.runWrite id call input)
  | leaveMux (id : ℕ) (call : BridgeMuxCall) (ok : Bool)
    (hthread : s.calls id = some (.muxing call)) : BridgeStep s (s.leaveMux id call ok)
  | finish (id : ℕ) (ok : Bool) (hthread : s.calls id = some (.finishing ok)) :
    BridgeStep s (s.runFinish id ok)
  | cancel (id : ℕ) (hthread : s.calls id = some .cancelling) : BridgeStep s (s.runCancel id)
  | read (id outputSize : ℕ) (hthread : s.calls id = some (.reading outputSize false)) :
    BridgeStep s (s.runRead id outputSize)
  | wake (id : ℕ) (thread : BridgeThread) (hthread : s.calls id = some thread) :
    BridgeStep s (s.goOn id (some thread.wakeReader.wakeWriter))

/-- Any number of steps. -/
abbrev BridgeRun : BridgeSystem → BridgeSystem → Prop := Relation.ReflTransGen BridgeStep

/-! ## What has gone through -/

/-- The bytes an event has written. -/
def BridgeEvent.written : BridgeEvent → List UInt8
  | .wrote input => input
  | _ => []

/-- The bytes an event has handed to the reader. -/
def BridgeEvent.taken : BridgeEvent → List UInt8
  | .read (.bytes output) => output
  | _ => []

namespace BridgeSystem

/-- The bytes `bridge_avio_write` has accepted, in order. -/
def written (s : BridgeSystem) : List UInt8 := s.history.flatMap BridgeEvent.written

/-- The bytes `airplay_stream_bridge_read` has returned, in order. -/
def taken (s : BridgeSystem) : List UInt8 := s.history.flatMap BridgeEvent.taken

variable {s : BridgeSystem} {id : ℕ}

section advance

variable {bridge : AirPlayStreamBridge} {mux : Option ℕ} {wake : BridgeThread → BridgeThread}
  {thread : Option BridgeThread} {events : List BridgeEvent}

@[simp] lemma advance_bridge : (s.advance id bridge mux wake thread events).bridge = bridge := rfl

@[simp] lemma advance_mux : (s.advance id bridge mux wake thread events).mux = mux := rfl

@[simp] lemma advance_calls :
    (s.advance id bridge mux wake thread events).calls =
      update (fun other => (s.calls other).map wake) id thread := rfl

@[simp] lemma advance_history :
    (s.advance id bridge mux wake thread events).history = s.history ++ events := rfl

@[simp] lemma advance_written :
    (s.advance id bridge mux wake thread events).written =
      s.written ++ events.flatMap BridgeEvent.written := by
  simp [written]

@[simp] lemma advance_taken :
    (s.advance id bridge mux wake thread events).taken =
      s.taken ++ events.flatMap BridgeEvent.taken := by
  simp [taken]

end advance

end BridgeSystem

/-! ## The invariant -/

/-- What holds of a thread in front of its next section. -/
def BridgeThread.Accords (bridge : AirPlayStreamBridge) (mux : Option ℕ) (id : ℕ) :
    BridgeThread → Prop
  | .muxing _ => mux = some id
  | .writing _ input asleep => mux = some id ∧ (asleep = true →
      bridge.cancelled = false ∧ bridge.capacity - bridge.buffered < input.length)
  | .finishing _ => bridge.muxFinished = true ∨ bridge.cancelled = true
  | .reading outputSize asleep => 0 < outputSize ∧ (asleep = true →
      bridge.buffered = 0 ∧ bridge.eof = false ∧ bridge.cancelled = false)
  | _ => True

/-- The thread holds `mux_mutex`. -/
def BridgeThread.UnderMux : BridgeThread → Prop
  | .muxing _ | .writing _ _ _ => True
  | _ => False

/-- What holds in every reachable state. -/
structure BridgeSystem.Sound (s : BridgeSystem) : Prop where
  valid : s.bridge.Valid
  written_eq : s.written = s.taken ++ s.bridge.contents
  bytesWritten : s.bridge.bytesWritten = UInt64.ofNat s.written.length
  bytesRead : s.bridge.bytesRead = UInt64.ofNat s.taken.length
  threads : ∀ id thread, s.calls id = some thread → thread.Accords s.bridge s.mux id
  unfinished : s.mux ≠ none → s.bridge.muxFinished = false
  eof : s.bridge.eof = true → s.bridge.muxFinished = true
  finished : ∀ ok, .finished ok ∈ s.history → s.bridge.eof = true ∨ s.bridge.cancelled = true

namespace BridgeSystem

variable {s t : BridgeSystem} {id : ℕ} {bridge : AirPlayStreamBridge}

lemma Sound.initial {capacity : ℕ} {ring : List UInt8}
    (h : AirPlayStreamBridge.create capacity ring = some bridge) : (initial bridge).Sound := by
  obtain ⟨hvalid, hbuffered, hwrote, hread, heof, _⟩ := AirPlayStreamBridge.Valid.create h
  refine ⟨hvalid, ?_, hwrote, hread, nofun, absurd rfl, ?_, nofun⟩
  · show [] = [] ++ Ring.window _ _ bridge.buffered
    rw [hbuffered]
    rfl
  · intro htrue
    rw [BridgeSystem.initial, heof] at htrue
    cases htrue

variable {mux : Option ℕ} {wake : BridgeThread → BridgeThread} {next : Option BridgeThread}
  {events : List BridgeEvent}

/-- The threads accord with what a step leaves if the one that runs does and the others, woken,
do. -/
lemma threads_advance (hown : ∀ thread, next = some thread → thread.Accords bridge mux id)
    (hothers : ∀ other thread, other ≠ id → s.calls other = some thread →
      (wake thread).Accords bridge mux other) :
    ∀ other thread, (s.advance id bridge mux wake next events).calls other = some thread →
      thread.Accords bridge mux other := by
  intro other thread hthr
  by_cases hid : other = id
  · subst hid
    rw [advance_calls, update_self] at hthr
    exact hown thread hthr
  · rw [advance_calls, update_of_ne hid] at hthr
    obtain ⟨before, hpre, rfl⟩ := Option.map_eq_some_iff.mp hthr
    exact hothers other before hid hpre

lemma Sound.sameRing (h : s.Sound) (hring : s.bridge.SameRing bridge)
    (hevs : ∀ event ∈ events, event.written = [] ∧ event.taken = [])
    (hown : ∀ thread, next = some thread → thread.Accords bridge mux id)
    (hothers : ∀ other thread, other ≠ id → s.calls other = some thread → (wake thread).Accords bridge mux other)
    (hunfinished : mux ≠ none → bridge.muxFinished = false) (heof : bridge.eof → bridge.muxFinished)
    (hfinished : ∀ ok, .finished ok ∈ s.history ++ events → bridge.eof ∨ bridge.cancelled) :
    (s.advance id bridge mux wake next events).Sound := by
  have hwrote : events.flatMap BridgeEvent.written = [] :=
    flatMap_eq_nil_iff.mpr fun event hevent => (hevs event hevent).1
  have htaken : events.flatMap BridgeEvent.taken = [] :=
    flatMap_eq_nil_iff.mpr fun event hevent => (hevs event hevent).2
  refine ⟨hring.valid, ?_, ?_, ?_, threads_advance hown hothers, hunfinished, heof, hfinished⟩
  · simpa [hwrote, htaken, hring.contents] using h.written_eq
  · simpa [hwrote, hring.bytesWritten] using h.bytesWritten
  · simpa [htaken, hring.bytesRead] using h.bytesRead

/-- A step that changes neither the bridge nor the holder of `mux_mutex`. -/
lemma Sound.same (h : s.Sound) (hevs : ∀ event ∈ events, event.written = [] ∧ event.taken = [])
    (hrun : ∀ ok, .finished ok ∉ events)
    (hown : ∀ thread, next = some thread → thread.Accords s.bridge s.mux id) :
    (s.advance id s.bridge s.mux (fun t => t) next events).Sound := by
  apply h.sameRing h.valid.sameRing_refl hevs hown
  · exact fun other thread _ hthr => h.threads other thread hthr
  · exact h.unfinished
  · exact h.eof
  · intro ok hok
    exact h.finished ok ((mem_append.mp hok).resolve_right (hrun ok))

lemma Sound.goOn (h : s.Sound)
    (hown : ∀ thread, next = some thread → thread.Accords s.bridge s.mux id) :
    (s.goOn id next).Sound := h.same nofun nofun hown

/-! ### One step -/

variable {thread : BridgeThread}

/-- The other threads are not under `mux_mutex` when a thread is. -/
lemma Sound.not_underMux (h : s.Sound) (hmux : s.mux = some id) {other : ℕ} (hother : other ≠ id)
    (hthr : s.calls other = some thread) : ¬thread.UnderMux := by
  have hacc := h.threads other thread hthr
  cases thread with
  | muxing call => exact fun _ => hother (Option.some.inj (hmux.symm.trans hacc)).symm
  | writing call input asleep =>
    exact fun _ => hother (Option.some.inj (hmux.symm.trans hacc.1)).symm
  | _ => exact not_false

lemma Sound.enter (h : s.Sound) (hmux : s.mux = none) (call : BridgeMuxCall) :
    (s.enter id call).Sound := by
  have hinside (hopen : s.bridge.muxFinished = false) :
      (s.advance id s.bridge (some id) (fun t => t) (some (.muxing call)) []).Sound := by
    apply h.sameRing h.valid.sameRing_refl
    · nofun
    · rintro thread ⟨⟩
      rfl
    · intro other thread _ hthr
      have hacc := h.threads other thread hthr
      rw [hmux] at hacc
      cases thread with
      | muxing call => cases hacc
      | writing call input asleep => cases hacc.1
      | _ => exact hacc
    · exact fun _ => hopen
    · exact h.eof
    · simpa using h.finished
  cases call with
  | push =>
    rw [BridgeSystem.enter]
    split_ifs with hshut
    · exact h.goOn nofun
    · exact hinside (by simp_all)
  | finish =>
    rw [BridgeSystem.enter]
    split_ifs with hopen
    · exact hinside (by simp_all)
    apply h.goOn
    rintro thread ⟨⟩
    simpa [BridgeThread.Accords, or_iff_not_imp_left] using hopen

variable {call : BridgeMuxCall}

lemma Sound.beginWrite (h : s.Sound) (hthr : s.calls id = some (.muxing call)) (input : List UInt8) :
    (s.beginWrite id call input).Sound := by
  rw [BridgeSystem.beginWrite]
  split_ifs
  · exact h
  apply h.goOn
  rintro thread ⟨⟩
  exact ⟨h.threads id _ hthr, nofun⟩

lemma Sound.runWrite (h : s.Sound) {input : List UInt8}
    (hthr : s.calls id = some (.writing call input false)) : (s.runWrite id call input).Sound := by
  have hmux : s.mux = some id := (h.threads id _ hthr).1
  rw [BridgeSystem.runWrite]
  obtain ⟨hrun, hcan, hroom⟩ | ⟨hrun, _⟩ | ⟨bridge, hrun, hcan, hwrote⟩ :=
    h.valid.avioWrite_cases input
  · rw [hrun]
    apply h.goOn
    rintro thread ⟨⟩
    exact ⟨hmux, fun _ => ⟨hcan, hroom⟩⟩
  · rw [hrun]
    apply h.same
    · simp [BridgeEvent.written, BridgeEvent.taken]
    · simp
    · rintro thread ⟨⟩
      exact hmux
  rw [hrun]
  refine ⟨hwrote.valid, ?_, ?_, ?_, ?_, ?_, ?_, ?_⟩
  · simp [BridgeEvent.written, BridgeEvent.taken, h.written_eq, hwrote.contents]
  · simp [BridgeEvent.written, hwrote.bytesWritten, h.bytesWritten]
  · simpa [BridgeEvent.taken, hwrote.bytesRead] using h.bytesRead
  · apply threads_advance
    · rintro thread ⟨⟩
      exact hmux
    intro other thread hother hthr
    have hacc := h.threads other thread hthr
    have hmuxless := h.not_underMux hmux hother hthr
    cases thread with
    | muxing | writing => exact absurd trivial hmuxless
    | finishing ok =>
      show bridge.muxFinished ∨ bridge.cancelled = true
      rw [hwrote.muxFinished, hwrote.cancelled]
      exact hacc
    | reading outputSize asleep => exact ⟨hacc.1, nofun⟩
    | _ => trivial
  · exact fun hheld => hwrote.muxFinished.trans (h.unfinished hheld)
  · intro heof
    exact hwrote.muxFinished.trans (h.eof (hwrote.eof.symm.trans heof))
  · simpa [hwrote.eof, hwrote.cancelled] using h.finished

lemma Sound.leaveMux (h : s.Sound) (hthr : s.calls id = some (.muxing call)) (ok : Bool) :
    (s.leaveMux id call ok).Sound := by
  have hmux : s.mux = some id := h.threads id _ hthr
  cases call with
  | push =>
    apply h.sameRing h.valid.sameRing_refl
    · nofun
    · nofun
    · intro other thread hother hthr
      have hacc := h.threads other thread hthr
      have hmuxless := h.not_underMux hmux hother hthr
      cases thread with
      | muxing | writing => exact absurd trivial hmuxless
      | _ => exact hacc
    · exact absurd rfl
    · exact h.eof
    · simpa using h.finished
  | finish =>
    apply h.sameRing h.valid.sameRing_muxFinished
    · nofun
    · rintro thread ⟨⟩
      exact .inl rfl
    · intro other thread hother hthr
      have hacc := h.threads other thread hthr
      have hmuxless := h.not_underMux hmux hother hthr
      cases thread with
      | muxing | writing => exact absurd trivial hmuxless
      | finishing ok => exact .inl rfl
      | _ => exact hacc
    · exact absurd rfl
    · exact fun _ => rfl
    · simpa using h.finished

/-- Threads that have been woken accord with any change that leaves the finished muxer. -/
lemma accords_awake {bridge' : AirPlayStreamBridge} (hacc : thread.Accords bridge mux id)
    (hshut : bridge.muxFinished ∨ bridge.cancelled → bridge'.muxFinished ∨ bridge'.cancelled) :
    thread.wakeReader.wakeWriter.Accords bridge' mux id := by
  cases thread with
  | muxing call => exact hacc
  | writing | reading => exact ⟨hacc.1, nofun⟩
  | finishing ok => exact hshut hacc
  | _ => trivial

lemma Sound.runFinish (h : s.Sound) {ok : Bool} (hthr : s.calls id = some (.finishing ok)) :
    (s.runFinish id ok).Sound := by
  have hshut := h.threads id _ hthr
  apply h.sameRing h.valid.sameRing_finishRing
  · simp [BridgeEvent.written, BridgeEvent.taken]
  · nofun
  · exact fun other thread _ hthr => accords_awake (h.threads other thread hthr) fun h => h
  · exact h.unfinished
  · intro heof
    have hcan : s.bridge.cancelled = false := by
      simpa [AirPlayStreamBridge.finishRing] using heof
    exact hshut.resolve_right (by simp [hcan])
  · intro _ _
    show (!s.bridge.cancelled) ∨ s.bridge.cancelled = true
    cases s.bridge.cancelled <;> simp

lemma Sound.runCancel (h : s.Sound) : (s.runCancel id).Sound := by
  apply h.sameRing h.valid.sameRing_cancel
  · nofun
  · nofun
  · exact fun other thread _ hthr =>
      accords_awake (h.threads other thread hthr) fun _ => .inr rfl
  · exact h.unfinished
  · exact h.eof
  · exact fun _ _ => .inr rfl

lemma Sound.runRead (h : s.Sound) {outputSize : ℕ}
    (hthr : s.calls id = some (.reading outputSize false)) : (s.runRead id outputSize).Sound := by
  rw [BridgeSystem.runRead]
  obtain ⟨hrun, hempty, heof, hcan⟩ | ⟨hrun, _⟩ | ⟨hrun, _⟩ | ⟨bridge, hrun, hfull, _, htook⟩ :=
    h.valid.read_cases outputSize
  · rw [hrun]
    apply h.goOn
    rintro thread ⟨⟩
    exact ⟨(h.threads id _ hthr).1, fun _ => ⟨hempty, heof, hcan⟩⟩
  · rw [hrun]
    exact h.same (by simp [BridgeEvent.written, BridgeEvent.taken]) (by simp) nofun
  · rw [hrun]
    exact h.same (by simp [BridgeEvent.written, BridgeEvent.taken]) (by simp) nofun
  rw [hrun]
  refine ⟨htook.valid, ?_, ?_, ?_, ?_, ?_, ?_, ?_⟩
  · simp only [advance_written, advance_taken, advance_bridge, flatMap_singleton,
      BridgeEvent.written, BridgeEvent.taken, append_nil, append_assoc,
      ← htook.contents]
    exact h.written_eq
  · simpa [BridgeEvent.written, htook.bytesWritten] using h.bytesWritten
  · simp only [advance_taken, advance_bridge, flatMap_singleton, BridgeEvent.taken,
      length_append, htook.bytesRead, h.bytesRead, UInt64.ofNat_add]
  · apply threads_advance
    · nofun
    intro other thread _ hthr
    have hacc := h.threads other thread hthr
    cases thread with
    | muxing call => exact hacc
    | writing call input asleep => exact ⟨hacc.1, nofun⟩
    | finishing ok =>
      show bridge.muxFinished ∨ bridge.cancelled = true
      rw [htook.muxFinished, htook.cancelled]
      exact hacc
    | reading outputSize asleep => exact ⟨hacc.1, fun hasleep => absurd (hacc.2 hasleep).1 hfull⟩
    | _ => trivial
  · exact fun hheld => htook.muxFinished.trans (h.unfinished hheld)
  · intro heof
    exact htook.muxFinished.trans (h.eof (htook.eof.symm.trans heof))
  · simpa [htook.eof, htook.cancelled] using h.finished

lemma accords_start {request : BridgeRequest} (hstart : request.start = some thread) :
    thread.Accords bridge mux id := by
  cases request with
  | read outputSize =>
    rw [BridgeRequest.start] at hstart
    split_ifs at hstart with href
    cases hstart
    exact ⟨by omega, nofun⟩
  | _ =>
    cases hstart
    trivial

/-- **Every step** leaves a sound system sound. -/
theorem Sound.step (h : s.Sound) (hstep : BridgeStep s t) : t.Sound := by
  cases hstep with
  | call id request hidle => exact h.goOn fun _ => accords_start
  | enter id call _ hmux => exact h.enter hmux call
  | beginWrite id call input hthr _ => exact h.beginWrite hthr input
  | write id call input hthr => exact h.runWrite hthr
  | leaveMux id call ok hthr => exact h.leaveMux hthr ok
  | finish id ok hthr => exact h.runFinish hthr
  | cancel id _ => exact h.runCancel
  | read id outputSize hthr => exact h.runRead hthr
  | wake id thread hthr =>
    apply h.goOn
    rintro woken ⟨⟩
    exact accords_awake (h.threads id thread hthr) fun hshut => hshut

/-- **Every run** leaves a sound system sound. -/
theorem Sound.of_run (h : s.Sound) (hrun : BridgeRun s t) : t.Sound := by
  induction hrun with
  | refl => exact h
  | tail _ hstep ih => exact ih.step hstep

/-! ## Behind a finished muxer -/

/-- What a step leaves of the bridge: its size, a finished muxer, and what has been written by
then. -/
structure Keeps (s t : BridgeSystem) : Prop where
  capacity : t.bridge.capacity = s.bridge.capacity
  muxFinished : s.bridge.muxFinished = true → t.bridge.muxFinished = true
  written : s.bridge.muxFinished = true → t.written = s.written

lemma Keeps.refl (s : BridgeSystem) : Keeps s s := ⟨rfl, id, fun _ => rfl⟩

lemma Keeps.trans {u : BridgeSystem} (h : Keeps s t) (h' : Keeps t u) : Keeps s u :=
  ⟨h'.capacity.trans h.capacity, fun hs => h'.muxFinished (h.muxFinished hs),
    fun hs => (h'.written (h.muxFinished hs)).trans (h.written hs)⟩

lemma keeps_goOn (next : Option BridgeThread) : Keeps s (s.goOn id next) :=
  ⟨rfl, fun h => h, fun _ => by simp [BridgeSystem.goOn]⟩

lemma keeps_advance (hcapacity : bridge.capacity = s.bridge.capacity)
    (hmux : s.bridge.muxFinished → bridge.muxFinished)
    (hevs : events.flatMap BridgeEvent.written = []) :
    Keeps s (s.advance id bridge mux wake next events) :=
  ⟨hcapacity, hmux, fun _ => by simp [hevs]⟩

variable (h : s.Sound)

include h

lemma Sound.keeps_step (hstep : BridgeStep s t) : Keeps s t := by
  cases hstep with
  | call id request _ => exact keeps_goOn _
  | enter id call _ _ =>
    cases call with
    | push =>
      rw [BridgeSystem.enter]
      split_ifs
      · exact keeps_goOn _
      · exact keeps_advance rfl (fun h => h) rfl
    | finish =>
      rw [BridgeSystem.enter]
      split_ifs
      · exact keeps_advance rfl (fun h => h) rfl
      · exact keeps_goOn _
  | beginWrite id call input _ _ =>
    rw [BridgeSystem.beginWrite]
    split_ifs
    · exact Keeps.refl s
    · exact keeps_goOn _
  | write id call input hthr =>
    have hopen : s.bridge.muxFinished = false := by
      apply h.unfinished
      rw [(h.threads id _ hthr).1]
      nofun
    rw [BridgeSystem.runWrite]
    obtain ⟨hrun, _⟩ | ⟨hrun, _⟩ | ⟨bridge, hrun, _, hwrote⟩ := h.valid.avioWrite_cases input
    · rw [hrun]
      exact keeps_goOn _
    · rw [hrun]
      exact keeps_advance rfl (fun h => h) rfl
    rw [hrun]
    -- the muxer is not finished while a thread writes
    refine ⟨hwrote.capacity, ?_, ?_⟩
    all_goals exact fun hshut => absurd hshut (by simp [hopen])
  | leaveMux id call ok _ =>
    cases call with
    | push => exact keeps_advance rfl (fun h => h) rfl
    | finish => exact keeps_advance rfl (fun _ => rfl) rfl
  | finish id ok _ => exact keeps_advance rfl (fun h => h) rfl
  | cancel id _ => exact keeps_advance rfl (fun h => h) rfl
  | read id outputSize _ =>
    rw [BridgeSystem.runRead]
    obtain ⟨hrun, _⟩ | ⟨hrun, _⟩ | ⟨hrun, _⟩ | ⟨bridge, hrun, _, _, htook⟩ :=
      h.valid.read_cases outputSize
    · rw [hrun]
      exact keeps_goOn _
    · rw [hrun]
      exact keeps_advance rfl (fun h => h) rfl
    · rw [hrun]
      exact keeps_advance rfl (fun h => h) rfl
    · rw [hrun]
      exact keeps_advance htook.capacity htook.muxFinished.trans rfl
  | wake id thread _ => exact keeps_goOn _

lemma Sound.keeps_run (hrun : BridgeRun s t) : Keeps s t := by
  induction hrun with
  | refl => exact Keeps.refl s
  | tail hpre hstep ih => exact ih.trans ((h.of_run hpre).keeps_step hstep)

/-! ## Reading behind a finished muxer -/

lemma Sound.contents_eq : s.bridge.contents = s.written.drop s.taken.length := by
  rw [h.written_eq, drop_left]

lemma Sound.buffered_eq : s.written.length = s.taken.length + s.bridge.buffered := by
  rw [h.written_eq, length_append, h.valid.length_contents]

/-- Nothing is left in the ring exactly when everything written has been read. -/
lemma Sound.drained : s.bridge.buffered = 0 ↔ s.taken = s.written := by
  constructor
  · intro hempty
    have hnil : s.bridge.contents = [] := by
      rw [← length_eq_zero_iff, h.valid.length_contents, hempty]
    rw [h.written_eq, hnil, append_nil]
  · intro hall
    have hlen := h.buffered_eq
    rw [hall] at hlen
    omega

/-- A read of a bridge at its end returns at once, with the next bytes while there are any. -/
lemma Sound.runRead_eof (heof : s.bridge.eof) (hcan : s.bridge.cancelled = false) (outputSize : ℕ) :
    (s.runRead id outputSize).history = s.history ++ [.read (if s.taken = s.written
      then .endOfStream else .bytes ((s.written.drop s.taken.length).take outputSize))] := by
  rw [BridgeSystem.runRead]
  obtain ⟨_, _, hopen, _⟩ | ⟨_, hset⟩ | ⟨hrun, hempty, _⟩ | ⟨bridge, hrun, hfull, _⟩ :=
    h.valid.read_cases outputSize
  · rw [heof] at hopen
    cases hopen
  · rw [hcan] at hset
    cases hset
  · rw [hrun, if_pos (h.drained.mp hempty)]
    rfl
  · rw [hrun, if_neg (fun hall => hfull (h.drained.mpr hall)), ← h.contents_eq]
    rfl

/-- Only a read of a drained bridge at its end reports the end of the stream. -/
lemma Sound.endOfStream_step (hstep : BridgeStep s t)
    (hend : t.history = s.history ++ [.read .endOfStream]) :
    s.bridge.buffered = 0 ∧ s.bridge.eof := by
  cases hstep with
  | call | wake => simp [BridgeSystem.goOn] at hend
  | enter id call _ _ =>
    cases call <;> simp [BridgeSystem.enter, BridgeSystem.goOn, apply_ite history] at hend
  | beginWrite id call input _ _ =>
    simp [BridgeSystem.beginWrite, BridgeSystem.goOn, apply_ite history] at hend
  | write id call input _ =>
    rw [BridgeSystem.runWrite] at hend
    obtain ⟨hrun, _⟩ | ⟨hrun, _⟩ | ⟨_, hrun, _⟩ := h.valid.avioWrite_cases input <;>
      simp [hrun, BridgeSystem.goOn] at hend
  | leaveMux id call ok _ => cases call <;> simp [BridgeSystem.leaveMux] at hend
  | finish id ok _ => simp [BridgeSystem.runFinish] at hend
  | cancel id _ => simp [BridgeSystem.runCancel] at hend
  | read id outputSize _ =>
    rw [BridgeSystem.runRead] at hend
    obtain ⟨hrun, _⟩ | ⟨hrun, _⟩ | ⟨_, hempty, heof, _⟩ | ⟨_, hrun, _⟩ :=
      h.valid.read_cases outputSize
    · simp [hrun, BridgeSystem.goOn] at hend
    · simp [hrun] at hend
    · exact ⟨hempty, heof⟩
    · simp [hrun] at hend

end BridgeSystem

open BridgeSystem in
/-- **The stream bridge is a queue** for every interleaving of its calls.  What has been read
is a prefix of what has been written, and the ring holds the difference, within its capacity.
Once `airplay_stream_bridge_finish` has returned on a bridge that is not cancelled, nothing more
is written, no reader sleeps, and each read returns the next bytes until there are none left.
The end of the stream is reported only when everything written has been read, and nothing is
written after it. -/
theorem streamBridge_fifo {capacity : ℕ} {ring : List UInt8} {bridge : AirPlayStreamBridge}
    (hcreate : AirPlayStreamBridge.create capacity ring = some bridge) {s : BridgeSystem}
    (hrun : BridgeRun (initial bridge) s) :
    s.taken <+: s.written ∧
    s.bridge.buffered = s.written.length - s.taken.length ∧
    (s.bridge.bytesWritten - s.bridge.bytesRead).toNat = s.bridge.buffered ∧
    s.bridge.buffered ≤ bridge.capacity ∧
    ((∃ ok, .finished ok ∈ s.history) → s.bridge.cancelled = false →
      (∀ t, BridgeRun s t → t.written = s.written) ∧
      ∀ id outputSize asleep, s.calls id = some (.reading outputSize asleep) →
        asleep = false ∧ 0 < outputSize ∧
        (s.runRead id outputSize).history = s.history ++ [.read (if s.taken = s.written
          then .endOfStream else .bytes ((s.written.drop s.taken.length).take outputSize))]) ∧
    ∀ t, BridgeStep s t → t.history = s.history ++ [.read .endOfStream] →
      s.taken = s.written ∧ ∀ u, BridgeRun t u → u.written = s.written := by
  have hinitial := Sound.initial hcreate
  have h := hinitial.of_run hrun
  have hbuffered := h.valid.buffered_le
  have hlength := h.buffered_eq
  refine ⟨⟨_, h.written_eq.symm⟩, by omega, ?_, ?_, ?_, ?_⟩
  · have hlt := h.valid.capacity_lt
    have hdifference : s.bridge.bytesWritten - s.bridge.bytesRead =
        UInt64.ofNat s.bridge.buffered := by
      rw [h.bytesWritten, h.bytesRead, hlength, UInt64.ofNat_add, UInt64.add_comm,
        UInt64.add_sub_cancel]
    rw [hdifference, UInt64.toNat_ofNat']
    exact Nat.mod_eq_of_lt (by omega)
  · have hcapacity : s.bridge.capacity = bridge.capacity := (hinitial.keeps_run hrun).capacity
    omega
  · rintro ⟨ok, hfinished⟩ hcancelled
    have heof : s.bridge.eof = true := by
      simpa [hcancelled] using h.finished ok hfinished
    constructor
    · exact fun t hlater => (h.keeps_run hlater).written (h.eof heof)
    intro id outputSize asleep hthread
    obtain ⟨hsize, hsleep⟩ := h.threads id _ hthread
    refine ⟨?_, hsize, h.runRead_eof heof hcancelled outputSize⟩
    cases asleep with
    | false => rfl
    | true =>
      have hopen := (hsleep rfl).2.1
      rw [heof] at hopen
      cases hopen
  · intro t hstep hend
    obtain ⟨hempty, heof⟩ := h.endOfStream_step hstep hend
    refine ⟨h.drained.mp hempty, fun u hlater => ?_⟩
    have hwritten := (h.keeps_step hstep).written (h.eof heof)
    have hfinished := (h.keeps_step hstep).muxFinished (h.eof heof)
    exact (((h.step hstep).keeps_run hlater).written hfinished).trans hwritten

/-- A bridge of the least size. -/
def AirPlayStreamBridge.least : AirPlayStreamBridge :=
  { ring := List.replicate streamBridgeMinCapacity 0
    capacity := streamBridgeMinCapacity
    readOffset := 0
    writeOffset := 0
    buffered := 0
    bytesWritten := 0
    bytesRead := 0
    eof := false
    cancelled := false
    muxFinished := false }

lemma AirPlayStreamBridge.create_least :
    create streamBridgeMinCapacity (replicate streamBridgeMinCapacity 0) = some least := by
  have hpos : streamBridgeMinCapacity ≠ 0 := by decide
  have hsize : streamBridgeMinCapacity < 2 ^ 63 := by decide
  simp only [create, hpos, hsize, if_false, lt_irrefl, length_replicate, and_self, if_true, least]

open BridgeSystem in
/-- Three bytes are written, two are read, and the bridge is finished: one is left to read. -/
theorem streamBridge_fifo_finished :
    ∃ s, BridgeRun (initial .least) s ∧ s.written = [1, 2, 3] ∧ s.taken = [1, 2] ∧
      (∀ t, BridgeRun s t → t.written = [1, 2, 3]) := by
  have hcall := Relation.ReflTransGen.refl.tail (BridgeStep.call (s := initial .least) 0 .push rfl)
  have hwritten := (((hcall.tail (.enter 0 .push rfl rfl)).tail
    (.beginWrite 0 .push [1, 2, 3] rfl (by decide))).tail (.write 0 .push [1, 2, 3] rfl)).tail
    (.leaveMux 0 .push true rfl)
  have hread := (hwritten.tail (.call 1 (.read 2) rfl)).tail (.read 1 2 rfl)
  have hrun := (((hread.tail (.call 2 .finish rfl)).tail (.enter 2 .finish rfl rfl)).tail
    (.leaveMux 2 .finish true rfl)).tail (.finish 2 true rfl)
  refine ⟨_, hrun, rfl, rfl, ?_⟩
  have hfifo := streamBridge_fifo AirPlayStreamBridge.create_least hrun
  exact (hfifo.2.2.2.2.1 ⟨true, List.mem_append_right _ (List.mem_singleton_self _)⟩ rfl).1

/-! ## Sleeping threads -/

/-- What a thread writes. -/
def BridgeThread.input : BridgeThread → List UInt8
  | .writing _ input _ => input
  | _ => []

namespace BridgeSystem

variable {s t : BridgeSystem}

lemma input_awake (thread : BridgeThread) :
    thread.wakeReader.input = thread.input ∧ thread.wakeWriter.input = thread.input := by
  cases thread <;> exact ⟨rfl, rfl⟩

/-- What threads write fits the ring, as `bridge_avio_write` has seen to. -/
def Fits (capacity : ℕ) (s : BridgeSystem) : Prop :=
  ∀ id thread, s.calls id = some thread → thread.input.length ≤ capacity

lemma Fits.advance {capacity id : ℕ} {bridge : AirPlayStreamBridge} {mux : Option ℕ}
    {wake : BridgeThread → BridgeThread} {next : Option BridgeThread} {events : List BridgeEvent}
    (h : s.Fits capacity) (hwake : ∀ thread, (wake thread).input = thread.input)
    (hnext : ∀ thread, next = some thread → thread.input.length ≤ capacity) :
    (s.advance id bridge mux wake next events).Fits capacity := by
  intro other thread hthr
  rw [advance_calls, update_apply] at hthr
  split_ifs at hthr
  · exact hnext thread hthr
  obtain ⟨before, hpre, rfl⟩ := Option.map_eq_some_iff.mp hthr
  exact hwake before ▸ h other before hpre

lemma Fits.step (h : s.Fits s.bridge.capacity) (hstep : BridgeStep s t) :
    t.Fits s.bridge.capacity := by
  have hboth (thread : BridgeThread) : thread.wakeReader.wakeWriter.input = thread.input :=
    (input_awake _).2.trans (input_awake thread).1
  cases hstep with
  | call id request _ =>
    refine h.advance (fun _ => rfl) ?_
    cases request <;> simp [BridgeRequest.start, BridgeThread.input]
  | enter id call _ _ =>
    cases call <;> rw [BridgeSystem.enter] <;> split_ifs <;>
      exact h.advance (fun _ => rfl) (by simp [BridgeThread.input])
  | beginWrite id call input _ _ =>
    rw [BridgeSystem.beginWrite]
    split_ifs with hbad
    · exact h
    · refine h.advance (fun _ => rfl) ?_
      rintro _ ⟨⟩
      exact Nat.le_of_not_lt fun hlong => hbad (.inr hlong)
  | write id call input hthr =>
    rw [BridgeSystem.runWrite]
    split
    · refine h.advance (fun _ => rfl) ?_
      rintro _ ⟨⟩
      exact h id (.writing call input false) hthr
    · exact h.advance (fun _ => rfl) (by simp [BridgeThread.input])
    · exact h.advance (fun thread => (input_awake thread).1) (by simp [BridgeThread.input])
  | leaveMux id call ok _ =>
    cases call <;> exact h.advance (fun _ => rfl) (by simp [BridgeThread.input])
  | finish id ok _ | cancel id _ => exact h.advance hboth nofun
  | read id outputSize _ =>
    rw [BridgeSystem.runRead]
    split
    · exact h.advance (fun _ => rfl) (by simp [BridgeThread.input])
    · exact h.advance (fun thread => (input_awake thread).2) nofun
    · exact h.advance (fun _ => rfl) nofun
  | wake id thread hthr =>
    refine h.advance (fun _ => rfl) ?_
    rintro _ ⟨⟩
    exact hboth thread ▸ h id thread hthr

lemma Fits.of_run (h : s.Fits s.bridge.capacity) (hsound : s.Sound) (hrun : BridgeRun s t) :
    t.Fits t.bridge.capacity := by
  induction hrun with
  | refl => exact h
  | tail hpre hstep ih =>
    rw [((hsound.of_run hpre).keeps_step hstep).capacity]
    exact ih.step hstep

end BridgeSystem

open BridgeSystem in
/-- **No wake-up is lost**, and no two threads wait for each other.  While a reader sleeps the ring is
empty, not finished and not cancelled, and whoever writes is awake; while a writer sleeps the ring is
not cancelled and has no room, but bytes for a reader. -/
theorem streamBridge_wakes {capacity : ℕ} {ring : List UInt8} {bridge : AirPlayStreamBridge}
    (hcreate : AirPlayStreamBridge.create capacity ring = some bridge) {s : BridgeSystem}
    (hrun : BridgeRun (initial bridge) s) :
    (∀ id outputSize, s.calls id = some (.reading outputSize true) →
      s.bridge.buffered = 0 ∧ s.bridge.eof = false ∧ s.bridge.cancelled = false ∧
        ∀ writer call input, s.calls writer ≠ some (.writing call input true)) ∧
    ∀ id call input, s.calls id = some (.writing call input true) →
      s.bridge.cancelled = false ∧ s.bridge.capacity - s.bridge.buffered < input.length ∧
        0 < s.bridge.buffered := by
  have hinitial := Sound.initial hcreate
  have h := hinitial.of_run hrun
  have hfits : s.Fits s.bridge.capacity := Fits.of_run (fun _ _ hthr => by cases hthr) hinitial hrun
  have hwriter : ∀ id call input, s.calls id = some (.writing call input true) →
      s.bridge.cancelled = false ∧ s.bridge.capacity - s.bridge.buffered < input.length ∧
        0 < s.bridge.buffered := by
    intro id call input hthr
    obtain ⟨hcan, hroom⟩ := (h.threads id _ hthr).2 rfl
    have hinput : input.length ≤ s.bridge.capacity := hfits id _ hthr
    exact ⟨hcan, hroom, by omega⟩
  refine ⟨fun id outputSize hthr => ?_, hwriter⟩
  obtain ⟨hempty, heof, hcan⟩ := (h.threads id _ hthr).2 rfl
  refine ⟨hempty, heof, hcan, fun writer call input hwriting => ?_⟩
  exact (hwriter writer call input hwriting).2.2.ne' hempty

/-- A reader sleeps on a ring that nothing has been written to. -/
theorem streamBridge_wakes_reader :
    ∃ s : BridgeSystem, s.calls 1 = some (.reading 2 true) ∧ s.bridge.buffered = 0 := by
  have hrun := (Relation.ReflTransGen.refl.tail (BridgeStep.call (s := .initial .least) 1 (.read 2)
    rfl)).tail (.read 1 2 rfl)
  exact ⟨_, rfl, ((streamBridge_wakes AirPlayStreamBridge.create_least hrun).1 1 2 rfl).1⟩

end NXCast

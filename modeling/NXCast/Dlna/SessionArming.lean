import NXCast.Dlna.ControllerSession
import Mathlib.Data.List.Chain

/-!
# Arming and timeouts of the controller's session

The session is armed after four polls with small gaps, and a timeout is taken once for each arming.
Each function reads some of the atomics and writes others later, so both may fail when the
other thread writes in between: a reset, while a poll holds the count it has read; a poll or a
reset, while the main thread holds the time it has read.  The results are about the runs in which
this does not happen.
-/

namespace NXCast

open List Trace

/-! ## The properties -/

/-- What an event makes of the polls since the last reset. -/
def pollsAfter (polls : List UInt64) : ControllerEvent → List UInt64
  | .polled now => polls ++ [now]
  | .reset => []
  | _ => polls

/-- The polls since the last reset, oldest first. -/
def pollsSinceReset (events : List ControllerEvent) : List UInt64 := events.foldl pollsAfter []

/-- What an event makes of the time of the last poll or refresh. -/
def noteAfter (last : Option UInt64) : ControllerEvent → Option UInt64
  | .polled now | .refreshed now => some now
  | _ => last

/-- The time of the last poll or refresh. -/
def lastControllerNote (events : List ControllerEvent) : Option UInt64 :=
  events.foldl noteAfter none

/-- The gap between two polls is small. -/
def ClosePolls (earlier later : UInt64) : Prop :=
  earlier ≤ later ∧ later - earlier ≤ controllerArmWindowMs

/-- At least four polls in a row with small gaps. -/
def FourPolls (polls : List UInt64) : Prop :=
  ∃ before row after, polls = before ++ row ++ after ∧ 4 ≤ row.length ∧ row.IsChain ClosePolls

def ControllerEvent.isReset (event : ControllerEvent) : Prop := event = .reset

def ControllerEvent.isTimeout : ControllerEvent → Prop
  | .timedOut _ _ => True
  | _ => False

/-- An event in its place: the session is armed after four polls, and a timeout comes while it is
armed, when nothing has been noted for that long, and once for each arming or retry. -/
def ControllerAllowed (before : List ControllerEvent) : ControllerEvent → Prop
  | .armed => FourPolls (pollsSinceReset before)
  | .timedOut now timeout =>
    Trace.Since before .armed ControllerEvent.isReset ∧
      (∃ last, lastControllerNote before = some last ∧ last ≤ now ∧ timeout ≤ now - last) ∧
      (Trace.Since before .armed ControllerEvent.isTimeout ∨
        Trace.Since before .retried ControllerEvent.isTimeout)
  | _ => True

/-- A poll holds the count it has read, or has stored it and not yet armed the session. -/
def ControllerHttp.Counting : ControllerHttp → Prop
  | .pollStoringLast _ _ | .pollStoringCount _ | .pollArming => True
  | _ => False

/-- A reset on the main thread has disarmed the session and not yet made its other stores. -/
def ControllerMain.Disarming : ControllerMain → Prop
  | .resetting .count | .resetting .lastPoll => True
  | _ => False

/-- A reset is about to disarm the session, its first store made, or an arming is about to make its
last store. -/
def ControllerHttp.Clearing : ControllerHttp → Prop
  | .resetting .armed _ | .pollClearing => True
  | _ => False

namespace ControllerSystem

/-- A poll does not count while the main thread resets the session, and the main thread takes a timeout only while what it
has read still holds. -/
def Calm (s : ControllerSystem) : ControllerLabel → Prop
  | .http =>
    match s.http with
    | .pollReadingCount _ _ => ¬s.main.Disarming
    | _ => True
  | .main =>
    match s.main with
    | .resetting .armed | .resetting .count | .resetting .lastPoll => ¬s.http.Counting
    | .timeoutConsuming _ _ last =>
      s.session.timeoutConsumed = false →
        s.session.armed = true ∧ s.session.lastPollMs = last ∧ ¬s.http.Clearing
    | _ => True
  | _ => True

/-- The session is armed only after four polls since the last reset, and the events are in their
places. -/
structure Accords (s : ControllerSystem) : Prop where
  armed : s.session.armed = true → FourPolls (pollsSinceReset s.history)
  events : Trace.Each ControllerAllowed s.history

end ControllerSystem

/-! ## Histories -/

section Histories

variable {events : List ControllerEvent} {now : UInt64} {polls : List UInt64}

@[simp] lemma pollsSinceReset_concat (event : ControllerEvent) :
    pollsSinceReset (events ++ [event]) = pollsAfter (pollsSinceReset events) event := by
  rw [pollsSinceReset, pollsSinceReset, foldl_concat]

@[simp] lemma lastControllerNote_concat (event : ControllerEvent) :
    lastControllerNote (events ++ [event]) = noteAfter (lastControllerNote events) event := by
  rw [lastControllerNote, lastControllerNote, foldl_concat]

/-- The polls end in a row of a given length. -/
def EndsInRow (polls : List UInt64) (count : ℕ) (last : UInt64) : Prop :=
  ∃ before row, polls = before ++ row ∧ row.length = count ∧ row.IsChain ClosePolls ∧
    row.getLast? = some last

lemma endsInRow_one (polls : List UInt64) (now : UInt64) : EndsInRow (polls ++ [now]) 1 now :=
  ⟨polls, [now], rfl, rfl, isChain_singleton now, rfl⟩

lemma EndsInRow.succ {count : ℕ} {last : UInt64} (h : EndsInRow polls count last)
    (hclose : ClosePolls last now) : EndsInRow (polls ++ [now]) (count + 1) now := by
  obtain ⟨before, row, rfl, hlen, hchain, hlast⟩ := h
  refine ⟨before, row ++ [now], append_assoc _ _ _, by simp [hlen], ?_, by simp⟩
  rw [isChain_append]
  refine ⟨hchain, isChain_singleton now, fun x hx y hy => ?_⟩
  rw [hlast, Option.mem_some_iff] at hx
  simp only [head?_cons, Option.mem_some_iff] at hy
  exact hx ▸ hy ▸ hclose

lemma EndsInRow.four {count : ℕ} {last : UInt64} (h : EndsInRow polls count last)
    (hcount : 4 ≤ count) : FourPolls polls := by
  obtain ⟨before, row, rfl, hlen, hchain, -⟩ := h
  exact ⟨before, row, [], by rw [append_nil], hlen ▸ hcount, hchain⟩

lemma FourPolls.append (h : FourPolls polls) : FourPolls (polls ++ [now]) := by
  obtain ⟨before, row, after, rfl, hlen, hchain⟩ := h
  exact ⟨before, row, after ++ [now], append_assoc _ _ _, hlen, hchain⟩

end Histories

/-! ## The invariant -/

namespace ControllerSystem

/-- An arming or a retry has come since the last timeout. -/
def TimeoutReady (history : List ControllerEvent) : Prop :=
  Trace.Since history .armed ControllerEvent.isTimeout ∨
    Trace.Since history .retried ControllerEvent.isTimeout

/-- What the thread of the SOAP actions has found out. -/
def HttpSound (s : ControllerSystem) : ControllerHttp → Prop
  | .pollTouching _ | .refreshStoring _ =>
    s.session.armed = true ∨ s.main = .resetting .count ∨ s.session.pollCount = 0
  | .pollReadingLast _ => s.session.armed = false
  | .pollReadingCount _ previous =>
    s.session.armed = false ∧ (s.session.pollCount = 0 ∨ previous = s.session.lastPollMs)
  | .pollStoringLast now count =>
    s.session.armed = false ∧ ¬s.main.Disarming ∧
      EndsInRow (pollsSinceReset s.history ++ [now]) count.toNat now ∧ count ≤ 4
  | .pollStoringCount count =>
    s.session.armed = false ∧ ¬s.main.Disarming ∧
      EndsInRow (pollsSinceReset s.history) count.toNat s.session.lastPollMs ∧ count ≤ 4 ∧
      lastControllerNote s.history = some s.session.lastPollMs
  | .pollArming =>
    s.session.armed = false ∧ ¬s.main.Disarming ∧ FourPolls (pollsSinceReset s.history) ∧
      lastControllerNote s.history = some s.session.lastPollMs
  | .pollClearing => s.session.armed = true → TimeoutReady s.history
  | .resetting .count _ => s.session.armed = false
  | .resetting .lastPoll _ => s.session.armed = false ∧ s.session.pollCount = 0
  | _ => True

/-- What the main thread has found out. -/
def MainSound (s : ControllerSystem) : ControllerMain → Prop
  | .resetting .count => s.session.armed = false ∧ ¬s.http.Counting
  | .resetting .lastPoll =>
    s.session.armed = false ∧ s.session.pollCount = 0 ∧ ¬s.http.Counting
  | .resetting .home => False
  | .timeoutConsuming now timeout last => last ≤ now ∧ timeout ≤ now - last
  | _ => True

/-- A reset has made its first store and not its second. -/
def Unguarded (s : ControllerSystem) : Prop :=
  s.main = .resetting .armed ∨ ∃ home, s.http = .resetting .armed home

/-- The count is that of the polls, unless one of the threads is about to store another. -/
def Counted (s : ControllerSystem) : Prop :=
  s.session.armed = false → s.session.pollCount ≠ 0 → s.main ≠ .resetting .count →
    (∀ home, s.http ≠ .resetting .count home) → ¬s.http.Counting →
    EndsInRow (pollsSinceReset s.history) s.session.pollCount.toNat s.session.lastPollMs ∧
      s.session.pollCount < 4

structure Sound (s : ControllerSystem) : Prop extends s.Accords where
  since : s.session.armed = true → Trace.Since s.history .armed ControllerEvent.isReset
  note : s.session.armed = true → lastControllerNote s.history = some s.session.lastPollMs
  ready : s.session.armed = true → s.session.timeoutConsumed = false →
    TimeoutReady s.history ∨ s.Unguarded
  counted : s.Counted
  http : s.HttpSound s.http
  main : s.MainSound s.main

variable {s : ControllerSystem}

/-! ## Steps -/

variable {http : ControllerHttp}

lemma Sound.http_reads (h : s.Sound)
    (hold : ¬s.http.Counting ∧ ∀ store home, s.http ≠ .resetting store home)
    (hnew : http.Counting → ¬s.main.Disarming) (hhttp : s.HttpSound http) :
    (s.httpOn s.session http []).Sound := by
  have hhist : (s.httpOn s.session http []).history = s.history := append_nil _
  have hcounted := h.counted
  constructor
  · constructor
    · rw [hhist]
      exact h.armed
    · rw [hhist]
      exact h.events
  · rw [hhist]
    exact h.since
  · rw [hhist]
    exact h.note
  · intro harmed hused
    rw [hhist]
    rcases h.ready harmed hused with hready | hmain | ⟨home, hreset⟩
    · exact .inl hready
    · exact .inr (.inl hmain)
    · exact absurd hreset (hold.2 _ _)
  · intro harmed hcount hmain _ _
    rw [hhist]
    exact hcounted harmed hcount hmain (hold.2 _) hold.1
  · simp only [httpOn, append_nil]
    exact hhttp
  revert hnew
  have hmain := h.main
  revert hmain
  simp only [httpOn]
  cases hmain : s.main with
  | resetting store =>
    cases store with
    | count => exact fun hsound hnew => ⟨hsound.1, fun hcnt => hnew hcnt trivial⟩
    | lastPoll =>
      exact fun hsound hnew => ⟨hsound.1, hsound.2.1, fun hcnt => hnew hcnt trivial⟩
    | home => exact fun hsound _ => hsound
    | _ => exact fun _ _ => trivial
  | timeoutConsuming => exact fun hsound _ => hsound
  | _ => exact fun _ _ => trivial

variable {main : ControllerMain}

lemma MainSound.mono {s' : ControllerSystem} (h : s.MainSound main)
    (harmed : main.Disarming → s.session.armed = false → s'.session.armed = false)
    (hcount : main = .resetting .lastPoll → s.session.pollCount = 0 → s'.session.pollCount = 0)
    (hcnt : main.Disarming → ¬s.http.Counting → ¬s'.http.Counting) : s'.MainSound main := by
  cases main with
  | resetting store =>
    cases store with
    | count => exact ⟨harmed trivial h.1, hcnt trivial h.2⟩
    | lastPoll => exact ⟨harmed trivial h.1, hcount rfl h.2.1, hcnt trivial h.2.2⟩
    | home => exact h.elim
    | _ => trivial
  | timeoutConsuming => exact h
  | _ => trivial

variable {history : List ControllerEvent}

lemma allowed_event {event : ControllerEvent}
    (h : Trace.Each ControllerAllowed history) (hevent : ControllerAllowed history event) :
    Trace.Each ControllerAllowed (history ++ [event]) :=
  each_concat.mpr ⟨h, hevent⟩

lemma TimeoutReady.event {event : ControllerEvent}
    (h : TimeoutReady history) (hevent : ¬event.isTimeout) : TimeoutReady (history ++ [event]) :=
  h.imp (fun h => since_concat.mpr (.inr ⟨h, hevent⟩)) fun h => since_concat.mpr (.inr ⟨h, hevent⟩)

section

variable (h : s.Sound)

include h

lemma Sound.http_touches {now : UInt64} {event : ControllerEvent}
    (hold : s.http = .pollTouching now ∨ s.http = .refreshStoring now)
    (hevent : event = .polled now ∨ event = .refreshed now) :
    (s.httpOn { s.session with lastPollMs := now } .idle [event]).Sound := by
  have hok : ControllerAllowed s.history event := by
    rcases hevent with rfl | rfl <;> trivial
  have hreset : ¬event.isReset := by
    rcases hevent with rfl | rfl <;> exact nofun
  have htimeout : ¬event.isTimeout := by
    rcases hevent with rfl | rfl <;> exact id
  have htouched : s.session.armed = true ∨ s.main = .resetting .count ∨ s.session.pollCount = 0 := by
    have hhttp := h.http
    rcases hold with hold | hold <;> rw [hold] at hhttp <;> exact hhttp
  constructor
  · constructor
    · intro harmed
      have hfour := h.armed harmed
      simp only [httpOn, pollsSinceReset_concat]
      rcases hevent with rfl | rfl
      · exact hfour.append
      · exact hfour
    · exact allowed_event h.events hok
  · exact fun harmed => since_concat.mpr (.inr ⟨h.since harmed, hreset⟩)
  · intro _
    simp only [httpOn, lastControllerNote_concat]
    rcases hevent with rfl | rfl <;> rfl
  · intro harmed hused
    rcases h.ready harmed hused with hready | hmain | ⟨home, hresetting⟩
    · exact .inl (hready.event htimeout)
    · exact .inr (.inl hmain)
    · rcases hold with hold | hold <;> rw [hold] at hresetting <;> cases hresetting
  · intro harmed hcount hmain _ _
    rcases htouched with harmed' | hmain' | hcount'
    · exact absurd harmed' (by rw [show s.session.armed = false from harmed]; exact nofun)
    · exact absurd hmain' hmain
    · exact absurd hcount' hcount
  · trivial
  · exact h.main.mono (fun _ => id) (fun _ => id) fun _ _ => id

lemma Sound.http_storesLast {now : UInt64} {count : UInt32}
    (hold : s.http = .pollStoringLast now count) :
    (s.httpOn { s.session with lastPollMs := now } (.pollStoringCount count)
      [.polled now]).Sound := by
  have hhttp := h.http
  rw [hold] at hhttp
  obtain ⟨hunarm, hdisarm, hrow, hcount⟩ := hhttp
  have hnot (harmed : s.session.armed = true) : False := by
    rw [hunarm] at harmed
    cases harmed
  constructor
  · exact ⟨fun harmed => (hnot harmed).elim, allowed_event h.events trivial⟩
  · exact fun harmed => (hnot harmed).elim
  · exact fun harmed => (hnot harmed).elim
  · exact fun harmed => (hnot harmed).elim
  · exact fun _ _ _ _ hcnt => absurd trivial hcnt
  · refine ⟨hunarm, hdisarm, ?_, hcount, ?_⟩
    · simp only [httpOn, pollsSinceReset_concat]
      exact hrow
    · simp only [httpOn, lastControllerNote_concat]
      rfl
  · exact h.main.mono (fun _ => id) (fun _ => id) fun hmain => absurd hmain hdisarm

lemma Sound.http_storesCount {count : UInt32} (hold : s.http = .pollStoringCount count) :
    (s.httpOn { s.session with pollCount := count }
      (if count < controllerArmPollCount then .idle else .pollArming) []).Sound := by
  have hhttp := h.http
  rw [hold] at hhttp
  obtain ⟨hunarm, hdisarm, hrow, hcount, hnote⟩ := hhttp
  have hnot (harmed : s.session.armed = true) : False := by
    rw [hunarm] at harmed
    cases harmed
  constructor
  · refine ⟨fun harmed => (hnot harmed).elim, ?_⟩
    simp only [httpOn, append_nil]
    exact h.events
  · exact fun harmed => (hnot harmed).elim
  · exact fun harmed => (hnot harmed).elim
  · exact fun harmed => (hnot harmed).elim
  · intro _ _ _ _ hcnt
    simp only [httpOn, append_nil]
    by_cases hfour : count < controllerArmPollCount
    · exact ⟨hrow, hfour⟩
    · simp only [httpOn, if_neg hfour] at hcnt
      exact absurd trivial hcnt
  · by_cases hfour : count < controllerArmPollCount
    · simp only [httpOn, if_pos hfour]
      trivial
    simp only [httpOn, if_neg hfour, append_nil]
    refine ⟨hunarm, hdisarm, hrow.four ?_, hnote⟩
    have hle : controllerArmPollCount ≤ count := UInt32.not_lt.mp hfour
    exact UInt32.le_iff_toNat_le.mp hle
  · exact h.main.mono (fun _ => id) (fun hmain => absurd (by rw [hmain]; trivial) hdisarm)
      fun hmain => absurd hmain hdisarm

lemma Sound.http_arms (hold : s.http = .pollArming) :
    (s.httpOn { s.session with armed := true } .pollClearing [.armed]).Sound := by
  have hhttp := h.http
  rw [hold] at hhttp
  obtain ⟨hunarm, hdisarm, hfour, hnote⟩ := hhttp
  constructor
  · refine ⟨fun _ => ?_, allowed_event h.events hfour⟩
    simp only [httpOn, pollsSinceReset_concat]
    exact hfour
  · exact fun _ => since_concat.mpr (.inl rfl)
  · intro _
    simp only [httpOn, lastControllerNote_concat]
    exact hnote
  · exact fun _ _ => .inl (.inl (since_concat.mpr (.inl rfl)))
  · exact fun harmed => by cases harmed
  · exact fun _ => .inl (since_concat.mpr (.inl rfl))
  · exact h.main.mono (fun hmain => absurd hmain hdisarm) (fun _ => id)
      fun hmain => absurd hmain hdisarm

lemma Sound.http_clears (hold : s.http = .pollClearing) :
    (s.httpOn { s.session with timeoutConsumed := false } .idle []).Sound := by
  have hready := h.http
  rw [hold] at hready
  have hhist : (s.httpOn { s.session with timeoutConsumed := false } .idle []).history =
      s.history := append_nil _
  constructor
  · constructor
    · rw [hhist]
      exact h.armed
    · rw [hhist]
      exact h.events
  · rw [hhist]
    exact h.since
  · rw [hhist]
    exact h.note
  · rw [hhist]
    exact fun harmed _ => .inl (hready harmed)
  · intro harmed hcount hmain _ _
    rw [hhist]
    refine h.counted harmed hcount hmain (fun home => ?_) ?_
    · rw [hold]
      exact nofun
    · rw [hold]
      exact id
  · trivial
  · exact h.main.mono (fun _ => id) (fun _ => id) fun _ _ => id

lemma Sound.http_resets {store : ControllerReset} {home : Bool}
    (hold : s.http = .resetting store home) : s.httpStep.Sound := by
  have hhttp := h.http
  rw [hold] at hhttp
  have hcnt : ¬s.http.Counting := by
    rw [hold]
    exact id
  have hhist {session : ControllerSession} {http : ControllerHttp} :
      (s.httpOn session http []).history = s.history := append_nil _
  simp only [httpStep, hold]
  cases store with
  | consumed =>
    refine ⟨⟨?_, ?_⟩, ?_, ?_, fun _ _ => .inr (.inr ⟨home, rfl⟩), ?_, trivial,
      h.main.mono (fun _ => id) (fun _ => id) fun _ _ => id⟩
    · exact hhist ▸ h.armed
    · exact hhist ▸ h.events
    · exact hhist ▸ h.since
    · exact hhist ▸ h.note
    intro harmed hcount hmain _ _
    simp only [resetEvents, hhist]
    exact h.counted harmed hcount hmain (by rw [hold]; exact nofun) hcnt
  | armed =>
    refine ⟨⟨nofun, allowed_event h.events trivial⟩, nofun, nofun, nofun, ?_, rfl,
      h.main.mono (fun _ _ => rfl) (fun _ => id) fun _ _ => id⟩
    exact fun _ _ _ hhttp => absurd rfl (hhttp home)
  | count =>
    have hunarm : s.session.armed = false := hhttp
    have hnot (harmed : s.session.armed = true) : False := by
      rw [hunarm] at harmed
      cases harmed
    exact ⟨⟨fun harmed => (hnot harmed).elim, hhist ▸ h.events⟩,
      fun harmed => (hnot harmed).elim, fun harmed => (hnot harmed).elim,
      fun harmed => (hnot harmed).elim, fun _ => absurd rfl, ⟨hunarm, rfl⟩,
      h.main.mono (fun _ => id) (fun _ _ => rfl) fun _ _ => id⟩
  | lastPoll =>
    obtain ⟨hunarm, hzero⟩ := hhttp
    have hnot (harmed : s.session.armed = true) : False := by
      rw [hunarm] at harmed
      cases harmed
    exact ⟨⟨fun harmed => (hnot harmed).elim, hhist ▸ h.events⟩,
      fun harmed => (hnot harmed).elim, fun harmed => (hnot harmed).elim,
      fun harmed => (hnot harmed).elim, fun _ => absurd hzero, trivial,
      h.main.mono (fun _ => id) (fun _ => id) fun _ _ => id⟩
  | home =>
    refine ⟨⟨?_, ?_⟩, ?_, ?_, ?_, ?_, trivial,
      h.main.mono (fun _ => id) (fun _ => id) fun _ _ => id⟩
    · exact hhist ▸ h.armed
    · exact hhist ▸ h.events
    · exact hhist ▸ h.since
    · exact hhist ▸ h.note
    · intro harmed hused
      simp only [resetEvents, hhist]
      rcases h.ready harmed hused with hready | hmain | ⟨home', hreset⟩
      · exact .inl hready
      · exact .inr (.inl hmain)
      · rw [hold] at hreset
        cases hreset
    · intro harmed hcount hmain _ _
      simp only [resetEvents, hhist]
      exact h.counted harmed hcount hmain (by rw [hold]; exact nofun) hcnt

lemma Sound.nextCount {now previous : UInt64}
    (hold : s.http = .pollReadingCount now previous) (hcalm : ¬s.main.Disarming) :
    EndsInRow (pollsSinceReset s.history ++ [now]) (s.session.nextPollCount now previous).toNat
        now ∧
      s.session.nextPollCount now previous ≤ 4 := by
  have hhttp := h.http
  rw [hold] at hhttp
  obtain ⟨hunarm, hprev⟩ := hhttp
  rw [ControllerSession.nextPollCount]
  split_ifs with hclose
  · obtain ⟨hpositive, hle, hgap⟩ := hclose
    have hcount : s.session.pollCount ≠ 0 := by
      rintro hzero
      rw [hzero] at hpositive
      exact absurd hpositive (by decide)
    obtain ⟨hrow, hfour⟩ := h.counted hunarm hcount (fun hmain => hcalm (by rw [hmain]; trivial))
      (by rw [hold]; exact nofun) (by rw [hold]; exact id)
    rw [hprev.resolve_left hcount] at hle hgap
    have hnat : (s.session.pollCount + 1).toNat = s.session.pollCount.toNat + 1 := by
      have : s.session.pollCount.toNat < 4 := UInt32.lt_iff_toNat_lt.mp hfour
      rw [UInt32.toNat_add]
      simp only [UInt32.reduceToNat]
      omega
    refine ⟨hnat ▸ hrow.succ ⟨hle, hgap⟩, ?_⟩
    rw [UInt32.le_iff_toNat_le, hnat]
    exact UInt32.lt_iff_toNat_lt.mp hfour
  · exact ⟨endsInRow_one _ _, by decide⟩

lemma Sound.httpStep (hcalm : s.Calm .http) : s.httpStep.Sound := by
  have hhttp := h.http
  cases hold : s.http with
  | idle =>
    simp only [ControllerSystem.httpStep, hold]
    exact h
  | pollChecking now =>
    simp only [ControllerSystem.httpStep, hold]
    refine h.http_reads (by rw [hold]; exact ⟨id, nofun⟩) ?_ ?_
    · split <;> exact False.elim
    split_ifs with harmed
    · exact .inl harmed
    · exact eq_false_of_ne_true harmed
  | pollTouching now =>
    simp only [ControllerSystem.httpStep, hold]
    exact h.http_touches (.inl hold) (.inl rfl)
  | pollReadingLast now =>
    rw [hold] at hhttp
    simp only [ControllerSystem.httpStep, hold]
    exact h.http_reads (by rw [hold]; exact ⟨id, nofun⟩) False.elim ⟨hhttp, .inr rfl⟩
  | pollReadingCount now previous =>
    rw [hold] at hhttp
    rw [Calm, hold] at hcalm
    simp only [ControllerSystem.httpStep, hold]
    exact h.http_reads (by rw [hold]; exact ⟨id, nofun⟩) (fun _ => hcalm)
      ⟨hhttp.1, hcalm, h.nextCount hold hcalm⟩
  | pollStoringLast now count =>
    simp only [ControllerSystem.httpStep, hold]
    exact h.http_storesLast hold
  | pollStoringCount count =>
    simp only [ControllerSystem.httpStep, hold]
    exact h.http_storesCount hold
  | pollArming =>
    rw [hold] at hhttp
    simp only [ControllerSystem.httpStep, hold]
    rw [if_neg (by rw [hhttp.1]; exact Bool.false_ne_true)]
    exact h.http_arms hold
  | pollClearing =>
    simp only [ControllerSystem.httpStep, hold]
    exact h.http_clears hold
  | refreshChecking now =>
    simp only [ControllerSystem.httpStep, hold]
    refine h.http_reads (by rw [hold]; exact ⟨id, nofun⟩) ?_ ?_
    · split <;> exact False.elim
    split_ifs with harmed
    · exact .inl harmed
    · trivial
  | refreshStoring now =>
    simp only [ControllerSystem.httpStep, hold]
    exact h.http_touches (.inr hold) (.inr rfl)
  | resetting store home => exact h.http_resets hold

end

/-- What keeps the findings of the thread of the SOAP actions while the main thread goes on. -/
lemma HttpSound.mono {t : ControllerSystem} (h : s.HttpSound http)
    (hunarm : s.session.armed = false → t.session.armed = false)
    (htouched : s.session.armed = true ∨ s.main = .resetting .count ∨ s.session.pollCount = 0 → t.session.armed = true ∨ t.main = .resetting .count ∨ t.session.pollCount = 0)
    (hzero : s.session.pollCount = 0 → t.session.pollCount = 0)
    (hlast : t.session.pollCount = 0 ∨ t.session.lastPollMs = s.session.lastPollMs)
    (hcnt : http.Counting → ¬t.main.Disarming ∧ t.session.lastPollMs = s.session.lastPollMs ∧ pollsSinceReset t.history = pollsSinceReset s.history ∧ lastControllerNote t.history = lastControllerNote s.history)
    (hready : http = .pollClearing → t.session.armed = true → s.session.armed = true ∧ (TimeoutReady s.history → TimeoutReady t.history)) :
    t.HttpSound http := by
  cases http with
  | pollTouching | refreshStoring => exact htouched h
  | pollReadingLast => exact hunarm h
  | pollReadingCount now previous =>
    obtain ⟨harmed, hprev⟩ := h
    refine ⟨hunarm harmed, ?_⟩
    rcases hprev with hcount | hprev
    · exact .inl (hzero hcount)
    · exact hlast.imp_right fun hlast => hprev.trans hlast.symm
  | pollStoringLast now count =>
    obtain ⟨hdisarm, _, hpolls, _⟩ := hcnt trivial
    obtain ⟨harmed, _, hrow, hcount⟩ := h
    exact ⟨hunarm harmed, hdisarm, hpolls ▸ hrow, hcount⟩
  | pollStoringCount count =>
    obtain ⟨hdisarm, hlast, hpolls, hnote⟩ := hcnt trivial
    obtain ⟨harmed, _, hrow, hcount, hnoted⟩ := h
    refine ⟨hunarm harmed, hdisarm, ?_, hcount, ?_⟩
    · rw [hpolls, hlast]
      exact hrow
    · rw [hnote, hlast]
      exact hnoted
  | pollArming =>
    obtain ⟨hdisarm, hlast, hpolls, hnote⟩ := hcnt trivial
    obtain ⟨harmed, _, hfour, hnoted⟩ := h
    refine ⟨hunarm harmed, hdisarm, hpolls ▸ hfour, ?_⟩
    rw [hnote, hlast]
    exact hnoted
  | pollClearing =>
    intro harmed
    obtain ⟨harmed', hevs⟩ := hready rfl harmed
    exact hevs (h harmed')
  | resetting store home =>
    cases store with
    | count => exact hunarm h
    | lastPoll => exact ⟨hunarm h.1, hzero h.2⟩
    | _ => trivial
  | _ => trivial

section

variable (h : s.Sound)

include h

variable {session : ControllerSession}

/-- The main thread reads, or stores what none of the properties is about. -/
lemma Sound.main_reads
    (hold : ∀ store, s.main ≠ .resetting store) (hmain : s.MainSound main) (hnew : ¬main.Disarming)
    (hsess : session = { s.session with homeRequested := session.homeRequested }) :
    (s.mainOn session main []).Sound := by
  have hhist : (s.mainOn session main []).history = s.history := append_nil _
  have harmed : session.armed = s.session.armed := by rw [hsess]
  have hcount : session.pollCount = s.session.pollCount := by rw [hsess]
  have hlast : session.lastPollMs = s.session.lastPollMs := by rw [hsess]
  have hused : session.timeoutConsumed = s.session.timeoutConsumed := by rw [hsess]
  constructor
  · constructor
    · rw [hhist]
      exact fun h' => h.armed (harmed ▸ h')
    · rw [hhist]
      exact h.events
  · rw [hhist]
    exact fun h' => h.since (harmed ▸ h')
  · rw [hhist]
    exact fun h' => (h.note (harmed ▸ h')).trans (congrArg some hlast.symm)
  · intro harmed' hused'
    rw [hhist]
    rcases h.ready (harmed ▸ harmed') (hused ▸ hused') with hready | hreset | hreset
    · exact .inl hready
    · exact absurd hreset (hold _)
    · exact .inr (.inr hreset)
  · intro harmed' hcount' _ hhttp hcnt
    rw [hhist]
    simp only [mainOn, harmed, hcount, hlast] at harmed' hcount' ⊢
    exact h.counted harmed' hcount' (hold _) hhttp hcnt
  · refine h.http.mono (harmed.trans) ?_ (hcount.trans)
      (.inr hlast) (fun _ => ⟨hnew, hlast, ?_, ?_⟩) fun _ h' => ⟨harmed ▸ h', ?_⟩
    · rintro (h' | h' | h')
      · exact .inl (harmed.trans h')
      · exact absurd h' (hold _)
      · exact .inr (.inr (hcount.trans h'))
    · rw [hhist]
    · rw [hhist]
    · rw [hhist]
      exact id
  · exact hmain.mono (fun h' => absurd h' hnew) (fun h' => absurd (by rw [h']; trivial) hnew)
      fun _ => id

lemma Sound.main_resetConsumed (hold : s.main = .resetting .consumed) :
    (s.mainOn { s.session with timeoutConsumed := false } (.resetting .armed) []).Sound := by
  have hhist : (s.mainOn { s.session with timeoutConsumed := false } (.resetting .armed)
      []).history = s.history := append_nil _
  refine ⟨⟨?_, ?_⟩, ?_, ?_, fun _ _ => .inr (.inl rfl), ?_, ?_, trivial⟩
  · exact hhist ▸ h.armed
  · exact hhist ▸ h.events
  · exact hhist ▸ h.since
  · exact hhist ▸ h.note
  · intro harmed hcount _ hhttp hcnt
    rw [hhist]
    exact h.counted harmed hcount (by rw [hold]; exact nofun) hhttp hcnt
  refine h.http.mono id ?_ id (.inr rfl) (fun _ => ⟨id, rfl, ?_, ?_⟩) fun _ h' => ⟨h', ?_⟩
  · rintro (h' | h' | h')
    · exact .inl h'
    · rw [hold] at h'
      cases h'
    · exact .inr (.inr h')
  · rw [hhist]
  · rw [hhist]
  · rw [hhist]
    exact id

lemma Sound.main_disarms (hcalm : ¬s.http.Counting) :
    (s.mainOn { s.session with armed := false } (.resetting .count) [.reset]).Sound := by
  refine ⟨⟨nofun, allowed_event h.events trivial⟩, nofun, nofun, nofun, ?_, ?_, ⟨rfl, hcalm⟩⟩
  · exact fun _ _ hmain => absurd rfl hmain
  · exact h.http.mono (fun _ => rfl) (fun _ => .inr (.inl rfl)) id (.inr rfl)
      (fun hcnt => absurd hcnt hcalm) fun _ => nofun

lemma Sound.main_resetCount (hold : s.main = .resetting .count) :
    (s.mainOn { s.session with pollCount := 0 } (.resetting .lastPoll) []).Sound := by
  have hmain := h.main
  rw [hold] at hmain
  obtain ⟨hunarm, hcnt⟩ := hmain
  have hnot (harmed : s.session.armed = true) : False := by
    rw [hunarm] at harmed
    cases harmed
  have hevs : Trace.Each ControllerAllowed (s.history ++ []) := by
    rw [append_nil]
    exact h.events
  refine ⟨⟨fun harmed => (hnot harmed).elim, hevs⟩, fun harmed => (hnot harmed).elim,
    fun harmed => (hnot harmed).elim, fun harmed => (hnot harmed).elim, ?_, ?_,
    ⟨hunarm, rfl, hcnt⟩⟩
  · exact fun _ => absurd rfl
  · exact h.http.mono id (fun _ => .inr (.inr rfl)) (fun _ => rfl) (.inl rfl)
      (fun h' => absurd h' hcnt) fun _ harmed => (hnot harmed).elim

lemma Sound.main_resetLast (hold : s.main = .resetting .lastPoll) :
    (s.mainOn { s.session with lastPollMs := 0 } .idle []).Sound := by
  have hmain := h.main
  rw [hold] at hmain
  obtain ⟨hunarm, hzero, hcnt⟩ := hmain
  have hnot (harmed : s.session.armed = true) : False := by
    rw [hunarm] at harmed
    cases harmed
  have hevs : Trace.Each ControllerAllowed (s.history ++ []) := by
    rw [append_nil]
    exact h.events
  refine ⟨⟨fun harmed => (hnot harmed).elim, hevs⟩, fun harmed => (hnot harmed).elim,
    fun harmed => (hnot harmed).elim, fun harmed => (hnot harmed).elim, ?_, ?_, trivial⟩
  · exact fun _ => absurd hzero
  · exact h.http.mono id (fun _ => .inr (.inr hzero)) id (.inl hzero)
      (fun h' => absurd h' hcnt) fun _ harmed => (hnot harmed).elim

lemma Sound.main_consumes {now timeout last : UInt64}
    (hold : s.main = .timeoutConsuming now timeout last) (hused : s.session.timeoutConsumed = false)
    (hcalm : s.session.armed = true ∧ s.session.lastPollMs = last ∧ ¬s.http.Clearing) :
    (s.mainOn { s.session with timeoutConsumed := true } .idle [.timedOut now timeout]).Sound := by
  obtain ⟨harmed, hlast, hclearing⟩ := hcalm
  have hmain := h.main
  rw [hold] at hmain
  have hready : TimeoutReady s.history := by
    rcases h.ready harmed hused with hready | hreset | ⟨home, hreset⟩
    · exact hready
    · rw [hold] at hreset
      cases hreset
    · exact absurd (by rw [hreset]; trivial) hclearing
  have hpolls : pollsSinceReset (s.history ++ [.timedOut now timeout]) =
      pollsSinceReset s.history := pollsSinceReset_concat _
  have hnote : lastControllerNote (s.history ++ [.timedOut now timeout]) =
      lastControllerNote s.history := lastControllerNote_concat _
  constructor
  · refine ⟨fun harmed => ?_, allowed_event h.events ?_⟩
    · simp only [mainOn, hpolls]
      exact h.armed harmed
    · exact ⟨h.since harmed, ⟨last, hlast ▸ h.note harmed, hmain⟩, hready⟩
  · exact fun harmed => since_concat.mpr (.inr ⟨h.since harmed, nofun⟩)
  · intro harmed
    simp only [mainOn, hnote]
    exact h.note harmed
  · exact fun _ hused => by cases hused
  · intro harmed hcount _ hhttp hcnt
    simp only [mainOn, hpolls]
    exact h.counted harmed hcount (by rw [hold]; exact nofun) hhttp hcnt
  · refine h.http.mono id ?_ id (.inr rfl) (fun _ => ⟨id, rfl, hpolls, hnote⟩) ?_
    · rintro (h' | h' | h')
      · exact .inl h'
      · rw [hold] at h'
        cases h'
      · exact .inr (.inr h')
    · exact fun hhttp => absurd (by rw [hhttp]; trivial) hclearing
  · trivial

lemma Sound.main_retries (hold : s.main = .retryStoring) :
    (s.mainOn { s.session with timeoutConsumed := false } .idle [.retried]).Sound := by
  have hpolls : pollsSinceReset (s.history ++ [.retried]) = pollsSinceReset s.history :=
    pollsSinceReset_concat _
  have hnote : lastControllerNote (s.history ++ [.retried]) = lastControllerNote s.history :=
    lastControllerNote_concat _
  have hready : TimeoutReady (s.history ++ [.retried]) := .inr (since_concat.mpr (.inl rfl))
  constructor
  · refine ⟨fun harmed => ?_, allowed_event h.events trivial⟩
    simp only [mainOn, hpolls]
    exact h.armed harmed
  · exact fun harmed => since_concat.mpr (.inr ⟨h.since harmed, nofun⟩)
  · intro harmed
    simp only [mainOn, hnote]
    exact h.note harmed
  · exact fun _ _ => .inl hready
  · intro harmed hcount _ hhttp hcnt
    simp only [mainOn, hpolls]
    exact h.counted harmed hcount (by rw [hold]; exact nofun) hhttp hcnt
  · refine h.http.mono id ?_ id (.inr rfl) (fun _ => ⟨id, rfl, hpolls, hnote⟩) ?_
    · rintro (h' | h' | h')
      · exact .inl h'
      · rw [hold] at h'
        cases h'
      · exact .inr (.inr h')
    · exact fun _ harmed => ⟨harmed, fun _ => hready⟩
  · trivial

lemma Sound.mainStep (hcalm : s.Calm .main) : s.mainStep.Sound := by
  rw [Calm] at hcalm
  cases hold : s.main with
  | idle =>
    simp only [ControllerSystem.mainStep, hold]
    exact h
  | resetting store =>
    rw [hold] at hcalm
    simp only [ControllerSystem.mainStep, hold]
    cases store with
    | consumed => exact h.main_resetConsumed hold
    | armed => exact h.main_disarms hcalm
    | count => exact h.main_resetCount hold
    | lastPoll => exact h.main_resetLast hold
    | home =>
      have hmain := h.main
      rw [hold] at hmain
      exact hmain.elim
  | timeoutChecking | retryChecking =>
    simp only [ControllerSystem.mainStep, hold]
    refine h.main_reads (by rw [hold]; exact nofun) ?_ ?_ rfl
    · split <;> trivial
    · split <;> exact id
  | timeoutReading now timeout =>
    simp only [ControllerSystem.mainStep, hold]
    refine h.main_reads (by rw [hold]; exact nofun) ?_ ?_ rfl
    · split_ifs with hrest
      · trivial
      · obtain ⟨hle, hgap⟩ := not_or.mp hrest
        exact ⟨UInt64.not_lt.mp hle, UInt64.not_lt.mp hgap⟩
    · split <;> exact id
  | timeoutConsuming now timeout last =>
    rw [hold] at hcalm
    simp only [ControllerSystem.mainStep, hold]
    split_ifs with hused
    · exact h.main_reads (by rw [hold]; exact nofun) trivial id rfl
    · have hused := eq_false_of_ne_true hused
      exact h.main_consumes hold hused (hcalm hused)
  | retryStoring =>
    simp only [ControllerSystem.mainStep, hold]
    exact h.main_retries hold

lemma Sound.callHttp (hcnt : ¬http.Counting)
    (hhttp : s.HttpSound http) : (s.callHttp http).Sound := by
  rw [ControllerSystem.callHttp]
  split_ifs with hidle
  · have hreads := h.http_reads (by rw [hidle]; exact ⟨id, nofun⟩) (fun h' => absurd h' hcnt) hhttp
    rw [httpOn, append_nil] at hreads
    exact hreads
  · exact h

lemma Sound.callMain (hmain : s.MainSound main) (hnew : ¬main.Disarming)
    (hsess : session = { s.session with homeRequested := session.homeRequested }) :
    (s.callMain session main).Sound := by
  rw [ControllerSystem.callMain]
  split_ifs with hidle
  · have hreads := h.main_reads (by rw [hidle]; exact nofun) hmain hnew hsess
    rw [mainOn, append_nil] at hreads
    exact hreads
  · exact h

lemma Sound.step {label : ControllerLabel} (hcalm : s.Calm label) : (s.step label).Sound := by
  cases label with
  | notePoll | refresh | reset | requestHome => exact h.callHttp id trivial
  | http => exact h.httpStep hcalm
  | consumeTimeout now timeout eligible =>
    apply h.callMain
    · split
      · trivial
      · split <;> trivial
    · split
      · exact id
      · split <;> exact id
    · rfl
  | allowTimeoutRetry | consumeHomeRequest | allowHomeRetry => exact h.callMain trivial id rfl
  | main => exact h.mainStep hcalm

end

lemma Sound.of_reachable (hrun : s.Reachable Calm) : s.Sound := by
  induction hrun with
  | initial =>
    refine ⟨⟨nofun, ?_⟩, nofun, nofun, nofun, ?_, trivial, trivial⟩
    · exact each_nil
    · exact fun _ => absurd rfl
  | step label _ hcalm ih => exact ih.step hcalm

/-- The session is armed, and its timeouts come, as they should. -/
theorem session_arms (hrun : s.Reachable Calm) : s.Accords :=
  (Sound.of_reachable hrun).toAccords

/-- A poll while the session is not armed, and while it is. -/
def pollLabels (now : UInt64) : List ControllerLabel :=
  [.notePoll now, .http, .http, .http, .http, .http]

/-- Four polls, and the timeout that comes a minute later. -/
def fourPollsLabels : List ControllerLabel :=
  pollLabels 1000 ++ pollLabels 2000 ++ pollLabels 3000 ++ pollLabels 4000 ++
    [.http, .http, .consumeTimeout 64000 60000 true, .main, .main, .main]

/-- The fourth poll has read the count when the main thread resets the session, and arms it then. -/
def staleArmingLabels : List ControllerLabel :=
  pollLabels 1000 ++ pollLabels 2000 ++ pollLabels 3000 ++
    [.notePoll 4000, .http, .http, .http, .consumeTimeout 4000 60000 false, .main, .main, .main,
      .main, .http, .http, .http]

theorem session_arms_four :
    ((initial.run fourPollsLabels).history =
        [.polled 1000, .polled 2000, .polled 3000, .polled 4000, .armed, .timedOut 64000 60000]) ∧
      (initial.run fourPollsLabels).Accords :=
  ⟨by decide +kernel, session_arms (Reachable.along .initial
    ⟨trivial, trivial, trivial, id, trivial, trivial,
      trivial, trivial, trivial, id, trivial, trivial,
      trivial, trivial, trivial, id, trivial, trivial,
      trivial, trivial, trivial, id, trivial, trivial,
      trivial, trivial, trivial, trivial, trivial, fun _ => ⟨rfl, rfl, id⟩, trivial⟩)⟩

theorem session_arms_stale :
    ¬∀ s : ControllerSystem, s.Reachable (fun _ _ => True) → s.Accords := by
  intro h
  have hrun := h _ (Reachable.run .initial staleArmingLabels)
  have hpolls : pollsSinceReset (initial.run staleArmingLabels).history = [4000] := by
    decide +kernel
  obtain ⟨before, row, after, hsplit, hlength, -⟩ := hrun.armed (by decide +kernel)
  have := congrArg List.length (hpolls.symm.trans hsplit)
  simp only [List.length_append, List.length_cons, List.length_nil] at this
  omega

end ControllerSystem

end NXCast

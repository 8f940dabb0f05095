import NXCast.Framework.Trace

/-!
# The controller's session

`controller_session.c`: whether a DLNA controller polls, and for how long it has not.  The five
variables are atomics, and a step is one access to one of them.  One thread serves the SOAP
actions; it notes polls, refreshes the session, resets it and asks for the home screen.  The main thread asks
whether the session has timed out, which resets it when no timeout can come, allows
another timeout, and takes and repeats the request for the home screen.

The clock is read before each call, so the times are arguments.
-/

namespace NXCast

/-! ## Data -/

/-- `DLNA_CONTROLLER_ARM_POLL_COUNT` -/
def controllerArmPollCount : UInt32 := 4

/-- `DLNA_CONTROLLER_ARM_WINDOW_MS` -/
def controllerArmWindowMs : UInt64 := 3000

/-- The atomics of `controller_session.c`. -/
structure ControllerSession where
  lastPollMs : UInt64
  pollCount : UInt32
  armed : Bool
  timeoutConsumed : Bool
  homeRequested : Bool

/-- The stores of `controller_session_reset_tracking`, and the store of the request for the home
screen behind it. -/
inductive ControllerReset where
  | consumed
  | armed
  | count
  | lastPoll
  | home
deriving DecidableEq

/-- Where the thread of the SOAP actions stands: in `dlna_controller_session_note_poll_at`, in
`dlna_controller_session_refresh_at`, or in a reset, with what it stores as the request for the home screen. -/
inductive ControllerHttp where
  | idle
  | pollChecking (now : UInt64)
  | pollTouching (now : UInt64)
  | pollReadingLast (now : UInt64)
  | pollReadingCount (now previous : UInt64)
  | pollStoringLast (now : UInt64) (count : UInt32)
  | pollStoringCount (count : UInt32)
  | pollArming
  | pollClearing
  | refreshChecking (now : UInt64)
  | refreshStoring (now : UInt64)
  | resetting (store : ControllerReset) (home : Bool)
deriving DecidableEq

/-- Where the main thread stands: in `dlna_controller_session_consume_timeout_at` or in
`dlna_controller_session_allow_timeout_retry`. -/
inductive ControllerMain where
  | idle
  | resetting (store : ControllerReset)
  | timeoutChecking (now timeout : UInt64)
  | timeoutReading (now timeout : UInt64)
  | timeoutConsuming (now timeout last : UInt64)
  | retryChecking
  | retryStoring
deriving DecidableEq

/-- What happens to the session. -/
inductive ControllerEvent where
  | polled (now : UInt64)
  | refreshed (now : UInt64)
  | reset
  | armed
  | retried
  | timedOut (now timeout : UInt64)
deriving DecidableEq

/-- The session and its two threads. -/
structure ControllerSystem where
  session : ControllerSession
  http : ControllerHttp
  main : ControllerMain
  history : List ControllerEvent

/-- A call of one of the two threads, or its next access. -/
inductive ControllerLabel where
  | notePoll (now : UInt64)
  | refresh (now : UInt64)
  | reset
  | requestHome
  | http
  | consumeTimeout (now timeout : UInt64) (eligible : Bool)
  | allowTimeoutRetry
  | consumeHomeRequest
  | allowHomeRetry
  | main

/-! ## Steps -/

namespace ControllerSession

variable (session : ControllerSession)

/-- A store of a reset. -/
def resetStore (home : Bool) : ControllerReset → ControllerSession
  | .consumed => { session with timeoutConsumed := false }
  | .armed => { session with armed := false }
  | .count => { session with pollCount := 0 }
  | .lastPoll => { session with lastPollMs := 0 }
  | .home => { session with homeRequested := home }

/-- The count that `dlna_controller_session_note_poll_at` stores. -/
def nextPollCount (now previous : UInt64) : UInt32 :=
  if 0 < session.pollCount ∧ previous ≤ now ∧ now - previous ≤ controllerArmWindowMs then
    session.pollCount + 1
  else 1

end ControllerSession

namespace ControllerSystem

variable (s : ControllerSystem)

/-- The thread of the SOAP actions goes on. -/
def httpOn (session : ControllerSession) (http : ControllerHttp) (events : List ControllerEvent) :
    ControllerSystem :=
  { s with session, http, history := s.history ++ events }

/-- The main thread goes on. -/
def mainOn (session : ControllerSession) (main : ControllerMain) (events : List ControllerEvent) :
    ControllerSystem :=
  { s with session, main, history := s.history ++ events }

/-- A call on the thread of the SOAP actions, while it is in no other. -/
def callHttp (http : ControllerHttp) : ControllerSystem :=
  if s.http = .idle then { s with http } else s

/-- A call on the main thread, while it is in no other. -/
def callMain (session : ControllerSession) (main : ControllerMain) : ControllerSystem :=
  if s.main = .idle then { s with session, main } else s

/-- With the second store the session is no longer armed. -/
def resetEvents : ControllerReset → List ControllerEvent
  | .armed => [.reset]
  | _ => []

/-- An access of the thread of the SOAP actions. -/
def httpStep : ControllerSystem :=
  let session := s.session
  match s.http with
  | .idle => s
  | .pollChecking now =>
    s.httpOn session (if session.armed then .pollTouching now else .pollReadingLast now) []
  | .pollTouching now => s.httpOn { session with lastPollMs := now } .idle [.polled now]
  | .pollReadingLast now => s.httpOn session (.pollReadingCount now session.lastPollMs) []
  | .pollReadingCount now previous =>
    s.httpOn session (.pollStoringLast now (session.nextPollCount now previous)) []
  | .pollStoringLast now count =>
    s.httpOn { session with lastPollMs := now } (.pollStoringCount count) [.polled now]
  | .pollStoringCount count =>
    s.httpOn { session with pollCount := count }
      (if count < controllerArmPollCount then .idle else .pollArming) []
  | .pollArming =>
    if session.armed then s.httpOn session .idle []
    else s.httpOn { session with armed := true } .pollClearing [.armed]
  | .pollClearing => s.httpOn { session with timeoutConsumed := false } .idle []
  | .refreshChecking now =>
    s.httpOn session (if session.armed then .refreshStoring now else .idle) []
  | .refreshStoring now => s.httpOn { session with lastPollMs := now } .idle [.refreshed now]
  | .resetting store home =>
    s.httpOn (session.resetStore home store)
      (match store with
      | .consumed => .resetting .armed home
      | .armed => .resetting .count home
      | .count => .resetting .lastPoll home
      | .lastPoll => .resetting .home home
      | .home => .idle)
      (resetEvents store)

/-- An access of the main thread. -/
def mainStep : ControllerSystem :=
  let session := s.session
  match s.main with
  | .idle => s
  | .resetting store =>
    s.mainOn (session.resetStore session.homeRequested store)
      (match store with
      | .consumed => .resetting .armed
      | .armed => .resetting .count
      | .count => .resetting .lastPoll
      | .lastPoll | .home => .idle)
      (resetEvents store)
  | .timeoutChecking now timeout =>
    s.mainOn session (if session.armed then .timeoutReading now timeout else .idle) []
  | .timeoutReading now timeout =>
    let last := session.lastPollMs
    s.mainOn session
      (if now < last ∨ now - last < timeout then .idle else .timeoutConsuming now timeout last) []
  | .timeoutConsuming now timeout _ =>
    if session.timeoutConsumed then s.mainOn session .idle []
    else s.mainOn { session with timeoutConsumed := true } .idle [.timedOut now timeout]
  | .retryChecking => s.mainOn session (if session.armed then .retryStoring else .idle) []
  | .retryStoring => s.mainOn { session with timeoutConsumed := false } .idle [.retried]

/-- One step. -/
def step : ControllerLabel → ControllerSystem
  | .notePoll now => s.callHttp (.pollChecking now)
  | .refresh now => s.callHttp (.refreshChecking now)
  | .reset => s.callHttp (.resetting .consumed false)
  | .requestHome => s.callHttp (.resetting .consumed true)
  | .http => s.httpStep
  | .consumeTimeout now timeout eligible =>
    s.callMain s.session
      (if !eligible then .resetting .consumed
      else if timeout = 0 then .idle else .timeoutChecking now timeout)
  | .allowTimeoutRetry => s.callMain s.session .retryChecking
  | .consumeHomeRequest =>
    s.callMain { s.session with homeRequested := false } .idle
  | .allowHomeRetry => s.callMain { s.session with homeRequested := true } .idle
  | .main => s.mainStep

/-- Steps one after the other. -/
def run (labels : List ControllerLabel) : ControllerSystem := labels.foldl step s

/-- What the program begins with. -/
def initial : ControllerSystem := ⟨⟨0, 0, false, false, false⟩, .idle, .idle, []⟩

/-- A state that a run leads to, each of whose steps is as `ok` says. -/
inductive Reachable (ok : ControllerSystem → ControllerLabel → Prop) : ControllerSystem → Prop where
  | initial : Reachable ok ControllerSystem.initial
  | step {s : ControllerSystem} (label : ControllerLabel) :
      Reachable ok s → ok s label → Reachable ok (s.step label)

/-- The steps of a run are as `ok` says. -/
def Along (ok : ControllerSystem → ControllerLabel → Prop) :
    ControllerSystem → List ControllerLabel → Prop
  | _, [] => True
  | s, label :: labels => ok s label ∧ Along ok (s.step label) labels

lemma Reachable.along {ok : ControllerSystem → ControllerLabel → Prop} {s : ControllerSystem}
    {labels : List ControllerLabel} (h : s.Reachable ok) (hlabs : Along ok s labels) :
    (s.run labels).Reachable ok := by
  induction labels generalizing s with
  | nil => exact h
  | cons label labels ih => exact ih (h.step label hlabs.1) hlabs.2

lemma Reachable.run {s : ControllerSystem} (h : s.Reachable fun _ _ => True)
    (labels : List ControllerLabel) : (s.run labels).Reachable fun _ _ => True := by
  induction labels generalizing s with
  | nil => exact h
  | cons label labels ih => exact ih (h.step label trivial)

end ControllerSystem

end NXCast

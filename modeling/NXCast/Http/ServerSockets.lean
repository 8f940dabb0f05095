import NXCast.Framework.Handover
import NXCast.Framework.Runs

/-!
# The sockets of the two servers

`event_send_notify` beside `event_server_stop`, and `http_server_thread` beside `http_server_stop`: each
thread goes on by one atomic step, one access to a shared variable or one call with a socket.  An answer of
the system comes with the step of the worker, and with it the number of a socket that is opened, which is
none that is open.

Both are a `Handover`: `EventSockets.handover` and `HttpSockets.handover` are what a state is there, and a
step is none or one there.
-/

namespace NXCast

open Handover (Event)

/-! ## Notifications -/

/-- Where the event thread is: in `event_thread_main`, or in `event_send_notify` with a socket or without. -/
inductive EventSocketWorker where
  | loop
  | notify
  | socket
  | store (sock : ℕ)
  | testStored (sock : ℕ)
  | configure (sock : ℕ)
  | connect (sock : ℕ)
  | testStop (sock : ℕ)
  | testSocket (sock : ℕ)
  | send (sock : ℕ)
  | cleanup (sock : ℕ)
  | abandon (sock : ℕ)
  | shutdown (sock : ℕ)
  | close (sock : ℕ)
  | exited
deriving DecidableEq

/-- Where `event_server_stop` is, of a server that was started. -/
inductive EventSocketStopper where
  | request
  | exchange
  | shutdown (activeSocket : Option ℕ)
  | wait (activeSocket : Option ℕ)
  | close (activeSocket : Option ℕ)
  | returned
deriving DecidableEq

/-- A socket of the source is none if it is negative. -/
structure EventSockets where
  worker : EventSocketWorker
  stopper : EventSocketStopper
  stopRequested : Bool
  activeSocket : Option ℕ
  history : List Event

/-- Who goes on. -/
inductive SocketLabel where
  | worker (answer more : Bool) (sock : ℕ)
  | stopper

namespace EventSockets

variable (s : EventSockets)

def log (event : Event) : EventSockets := { s with history := s.history ++ [event] }

def goOn (worker : EventSocketWorker) : EventSockets := { s with worker }

def stopAt (stopper : EventSocketStopper) : EventSockets := { s with stopper }

/-- The atomic steps of `event_send_notify`, and of the loop around it. -/
def workerStep (answer : Bool) (sock : ℕ) : EventSockets :=
  match s.worker with
  | .loop => s.goOn (if s.stopRequested then .exited else if answer then .notify else .loop)
  | .notify => s.goOn (if s.stopRequested then .loop else if answer then .socket else .loop)
  | .socket =>
    if answer = false then s.goOn .loop
    else if ∀ held ∈ Handover.after s.history, sock ∉ held then (s.log (.opened sock)).goOn (.store sock)
    else s
  | .store sock => { s.goOn (.testStored sock) with activeSocket := some sock }
  | .testStored sock => s.goOn (if s.stopRequested then .abandon sock else .configure sock)
  -- the time-outs of the socket, and the address of the host
  | .configure sock => (s.log (.used sock)).goOn (if answer then .connect sock else .cleanup sock)
  | .connect sock => (s.log (.used sock)).goOn (if answer then .testStop sock else .cleanup sock)
  | .testStop sock => s.goOn (if s.stopRequested then .cleanup sock else .testSocket sock)
  | .testSocket sock =>
    s.goOn (if s.activeSocket = some sock ∧ answer then .send sock else .cleanup sock)
  -- `event_send_all` may send any number of times
  | .send sock => (s.log (.used sock)).goOn (if answer then .send sock else .cleanup sock)
  | .cleanup sock =>
    if s.activeSocket = some sock then { s.goOn (.close sock) with activeSocket := none } else s.goOn .loop
  | .abandon sock =>
    if s.activeSocket = some sock then { s.goOn (.shutdown sock) with activeSocket := none } else s.goOn .loop
  | .shutdown sock => (s.log (.used sock)).goOn (.close sock)
  | .close sock => (s.log (.closed sock)).goOn .loop
  | .exited => s

/-- The atomic steps of `event_server_stop`. -/
def stopperStep : EventSockets :=
  match s.stopper with
  | .request => { s.stopAt .exchange with stopRequested := true }
  | .exchange => { s.stopAt (.shutdown s.activeSocket) with activeSocket := none }
  | .shutdown (some sock) => (s.log (.used sock)).stopAt (.wait (some sock))
  | .shutdown none => s.stopAt (.wait none)
  | .wait activeSocket => if s.worker = .exited then s.stopAt (.close activeSocket) else s
  | .close (some sock) => (s.log (.closed sock)).stopAt .returned
  | .close none => s.stopAt .returned
  | .returned => s

def step : SocketLabel → EventSockets
  | .worker answer _ sock => s.workerStep answer sock
  | .stopper => s.stopperStep

/-- The server has been started. -/
def started : EventSockets := ⟨.loop, .request, false, none, []⟩

/-- What the state is as a hand-over. -/
def handover : Handover.State where
  worker :=
    match s.worker with
    | .loop | .notify | .socket => .idle
    | .store sock => .holding sock
    | .shutdown sock | .close sock => .owning sock
    | .testStored sock | .configure sock | .connect sock | .testStop sock | .testSocket sock | .send sock
    | .cleanup sock | .abandon sock => .sharing sock
    | .exited => .gone
  stopper :=
    match s.stopper with
    | .request | .exchange => .before
    | .shutdown activeSocket | .wait activeSocket => .taken activeSocket
    | .close activeSocket => .joined activeSocket
    | .returned => .joined none
  cell := s.activeSocket
  lent := none
  history := s.history

/-- **A step** is none of the hand-over, or one. -/
lemma handover_step (label : SocketLabel) :
    Relation.ReflTransGen Handover.State.Step s.handover (s.step label).handover := by
  obtain ⟨worker, stopper, stopRequested, activeSocket, history⟩ := s
  cases label with
  | worker answer more sock =>
    change Relation.ReflTransGen _ _ (EventSockets.workerStep _ answer sock).handover
    cases worker with
    | loop => cases stopRequested <;> cases answer <;> first | exact .refl | exact .single (.exits rfl)
    | notify => cases stopRequested <;> cases answer <;> exact .refl
    | socket =>
      unfold workerStep
      dsimp only
      split_ifs with hanswer hfresh
      · exact .refl
      · exact .single (.opens rfl hfresh)
      · exact .refl
    | store sock => exact .single (.publishes rfl)
    | testStored | testStop => cases stopRequested <;> exact .refl
    | configure sock | connect sock | send sock => cases answer <;> exact .single (.uses rfl)
    | testSocket sock =>
      unfold workerStep
      dsimp only
      split_ifs <;> exact .refl
    | cleanup sock | abandon sock =>
      unfold workerStep
      dsimp only
      split_ifs with hcell
      · exact .single (.reclaims rfl hcell)
      · exact .single (.leaves rfl hcell)
    | shutdown sock => exact .single (.uses rfl)
    | close sock => exact .single (.closes rfl)
    | exited => exact .refl
  | stopper =>
    cases stopper with
    | request | returned => exact .refl
    | exchange => exact .single (.takes rfl)
    | shutdown taken =>
      cases taken with
      | none => exact .refl
      | some sock => exact .single (.stops rfl)
    | wait taken =>
      change Relation.ReflTransGen _ _ (EventSockets.stopperStep _).handover
      unfold stopperStep
      split_ifs with hexit
      · subst hexit
        exact .single (.joins rfl rfl)
      · exact .refl
    | close taken =>
      cases taken with
      | none => exact .refl
      | some sock => exact .single (.closesTaken rfl)

lemma sound_run (labels : List SocketLabel) : (Runs.run step started labels).handover.Sound := by
  have hreach : Runs.Reachable step started (fun _ _ => True) (Runs.run step started labels) :=
    Runs.Reachable.start.run labels
  refine hreach.invariant (P := fun s => s.handover.Sound) ?_ fun s label h _ => ?_
  · exact ⟨rfl, List.nodup_nil, nofun, nofun, nofun⟩
  · exact h.steps (s.handover_step label)

end EventSockets

/-! ## Requests -/

/-- Where `http_server_thread` is. -/
inductive HttpSocketWorker where
  | loop
  | loadListen
  | select (listenSock : ℕ)
  | testRunning (listenSock : ℕ) (ready : Bool)
  | accept (listenSock : ℕ)
  | store (clientSock : ℕ)
  | testStored (clientSock : ℕ)
  | handle (clientSock : ℕ)
  | reclaim (clientSock : ℕ)
  | testReclaimed (clientSock : ℕ)
  | shutdown (clientSock : ℕ)
  | close (clientSock : ℕ)
  | leave
  | exited
deriving DecidableEq

/-- The socket to listen at that the worker has loaded. -/
def HttpSocketWorker.listenSock : HttpSocketWorker → Option ℕ
  | .select listenSock | .testRunning listenSock _ | .accept listenSock => some listenSock
  | _ => none

/-- Where `http_server_stop` is, of a server whose thread was started. -/
inductive HttpSocketStopper where
  | request
  | exchangeListen
  | exchangeClient (listenSock : Option ℕ)
  | shutdownListen (listenSock clientSock : Option ℕ)
  | shutdownClient (listenSock clientSock : Option ℕ)
  | wait (listenSock clientSock : Option ℕ)
  | closeClient (listenSock clientSock : Option ℕ)
  | closeListen (listenSock : Option ℕ)
  | returned
deriving DecidableEq

structure HttpSockets where
  worker : HttpSocketWorker
  stopper : HttpSocketStopper
  running : Bool
  listenSock : Option ℕ
  activeClientSock : Option ℕ
  history : List Event

namespace HttpSockets

variable (s : HttpSockets)

def log (event : Event) : HttpSockets := { s with history := s.history ++ [event] }

def logAll (event : ℕ → Event) (sock : Option ℕ) : HttpSockets :=
  sock.elim s fun sock => s.log (event sock)

def goOn (worker : HttpSocketWorker) : HttpSockets := { s with worker }

def stopAt (stopper : HttpSocketStopper) : HttpSockets := { s with stopper }

/-- The atomic steps of `http_server_thread`. -/
def workerStep (answer more : Bool) (sock : ℕ) : HttpSockets :=
  match s.worker with
  | .loop => s.goOn (if s.running then .loadListen else .leave)
  | .loadListen => s.goOn (s.listenSock.elim .leave .select)
  -- an interrupted `select` goes on, one that fails ends the loop
  | .select listenSock =>
    (s.log (.used listenSock)).goOn
      (if answer then .testRunning listenSock more else if more then .loop else .leave)
  | .testRunning listenSock ready =>
    s.goOn (if s.running = false then .leave else if ready then .accept listenSock else .loop)
  | .accept listenSock =>
    if answer = false then (s.log (.used listenSock)).goOn .loop
    else if ∀ held ∈ Handover.after s.history, sock ∉ held then
      ((s.log (.used listenSock)).log (.opened sock)).goOn (.store sock)
    else s
  | .store clientSock => { s.goOn (.testStored clientSock) with activeClientSock := some clientSock }
  | .testStored clientSock => s.goOn (if s.running then .handle clientSock else .reclaim clientSock)
  -- `handle_client` may use the socket any number of times
  | .handle clientSock =>
    (s.log (.used clientSock)).goOn (if answer then .handle clientSock else .reclaim clientSock)
  | .reclaim clientSock =>
    if s.activeClientSock = some clientSock then
      { s.goOn (.testReclaimed clientSock) with activeClientSock := none }
    else s.goOn .loop
  | .testReclaimed clientSock => s.goOn (if s.running then .close clientSock else .shutdown clientSock)
  | .shutdown clientSock => (s.log (.used clientSock)).goOn (.close clientSock)
  | .close clientSock => (s.log (.closed clientSock)).goOn .loop
  | .leave => { s.goOn .exited with running := false }
  | .exited => s

/-- The atomic steps of `http_server_stop`. -/
def stopperStep : HttpSockets :=
  match s.stopper with
  | .request => { s.stopAt .exchangeListen with running := false }
  | .exchangeListen => { s.stopAt (.exchangeClient s.listenSock) with listenSock := none }
  | .exchangeClient listenSock =>
    { s.stopAt (.shutdownListen listenSock s.activeClientSock) with activeClientSock := none }
  | .shutdownListen listenSock clientSock =>
    (s.logAll .used listenSock).stopAt (.shutdownClient listenSock clientSock)
  | .shutdownClient listenSock clientSock =>
    (s.logAll .used clientSock).stopAt (.wait listenSock clientSock)
  | .wait listenSock clientSock =>
    if s.worker = .exited then s.stopAt (.closeClient listenSock clientSock) else s
  | .closeClient listenSock clientSock => (s.logAll .closed clientSock).stopAt (.closeListen listenSock)
  | .closeListen listenSock => (s.logAll .closed listenSock).stopAt .returned
  | .returned => s

def step : SocketLabel → HttpSockets
  | .worker answer more sock => s.workerStep answer more sock
  | .stopper => s.stopperStep

/-- The server has been started with a socket to listen at. -/
def started (listenSock : ℕ) : HttpSockets :=
  ⟨.loop, .request, true, some listenSock, none, [.opened listenSock]⟩

/-- The socket to listen at, as the stopper has it. -/
def listening : Option ℕ :=
  match s.stopper with
  | .request | .exchangeListen => s.listenSock
  | .exchangeClient listenSock | .shutdownListen listenSock _ | .shutdownClient listenSock _
  | .wait listenSock _ | .closeClient listenSock _ | .closeListen listenSock => listenSock
  | .returned => none

/-- What the state is as a hand-over. -/
def handover : Handover.State where
  worker :=
    match s.worker with
    | .loop | .loadListen | .select _ | .testRunning _ _ | .accept _ | .leave => .idle
    | .store clientSock => .holding clientSock
    | .testReclaimed clientSock | .shutdown clientSock | .close clientSock => .owning clientSock
    | .testStored clientSock | .handle clientSock | .reclaim clientSock => .sharing clientSock
    | .exited => .gone
  stopper :=
    match s.stopper with
    | .request | .exchangeListen | .exchangeClient _ => .before
    | .shutdownListen _ clientSock | .shutdownClient _ clientSock | .wait _ clientSock => .taken clientSock
    | .closeClient _ clientSock => .joined clientSock
    | .closeListen _ | .returned => .joined none
  cell := s.activeClientSock
  lent := s.listening
  history := s.history

/-- What holds of the two at any time. -/
structure Sound (s : HttpSockets) : Prop where
  handover : s.handover.Sound
  /-- What the worker listens at the stopper has not closed. -/
  loaded : ∀ sock, s.worker.listenSock = some sock → s.listening = some sock
  published : s.listenSock ≠ none → s.stopper = .request ∨ s.stopper = .exchangeListen

lemma Sound.handover_workerStep {s : HttpSockets} (h : s.Sound) (answer more : Bool) (sock : ℕ) :
    Relation.ReflTransGen Handover.State.Step s.handover (s.workerStep answer more sock).handover := by
  obtain ⟨hpass, hload, -⟩ := h
  obtain ⟨worker, stopper, running, listenSock, activeClientSock, history⟩ := s
  cases worker with
  | loop | testStored | testReclaimed => cases running <;> exact .refl
  | loadListen => cases listenSock <;> exact .refl
  | select listenSock =>
    have hlent := hload listenSock rfl
    cases answer <;> cases more <;> exact .single (.borrows rfl hlent)
  | testRunning listenSock ready => cases running <;> cases ready <;> exact .refl
  | accept listenSock =>
    have hlent := hload listenSock rfl
    unfold workerStep
    dsimp only
    split_ifs with hanswer hfresh
    · exact .single (.borrows rfl hlent)
    · refine .tail (.single (.borrows rfl hlent)) (.opens rfl fun held hheld => ?_)
      have hused := (hpass.step (.borrows rfl hlent)).held
      obtain rfl := Option.some.inj (hused.symm.trans hheld)
      exact hfresh _ hpass.held
    · exact .refl
  | store clientSock => exact .single (.publishes rfl)
  | handle clientSock => cases answer <;> exact .single (.uses rfl)
  | reclaim clientSock =>
    unfold workerStep
    dsimp only
    split_ifs with hcell
    · exact .single (.reclaims rfl hcell)
    · exact .single (.leaves rfl hcell)
  | shutdown clientSock => exact .single (.uses rfl)
  | close clientSock => exact .single (.closes rfl)
  | leave => exact .single (.exits rfl)
  | exited => exact .refl

lemma workerStep_frame (s : HttpSockets) (answer more : Bool) (sock : ℕ) :
    let next := s.workerStep answer more sock
    next.stopper = s.stopper ∧ next.listenSock = s.listenSock ∧
      ∀ found, next.worker.listenSock = some found →
        s.worker.listenSock = some found ∨ s.listenSock = some found := by
  obtain ⟨worker, stopper, running, listenSock, activeClientSock, history⟩ := s
  unfold workerStep
  cases worker with
  | loadListen => cases listenSock <;> simp [goOn, HttpSocketWorker.listenSock]
  | store | shutdown | close | leave | exited => simp [goOn, log, HttpSocketWorker.listenSock]
  | loop | select | testRunning | accept | testStored | handle | reclaim | testReclaimed =>
    dsimp only
    split_ifs <;> simp [goOn, log, HttpSocketWorker.listenSock]

lemma Sound.workerStep {s : HttpSockets} (h : s.Sound) (answer more : Bool) (sock : ℕ) :
    (s.workerStep answer more sock).Sound := by
  have hsteps := h.handover_workerStep answer more sock
  obtain ⟨hstop, hlisten, hfound⟩ := s.workerStep_frame answer more sock
  have hlistening : (s.workerStep answer more sock).listening = s.listening := by
    rw [listening, listening, hstop, hlisten]
  refine ⟨h.handover.steps hsteps, fun found hload => ?_, by rw [hlisten, hstop]; exact h.published⟩
  rw [hlistening]
  rcases hfound found hload with hload | hload
  · exact h.loaded found hload
  rcases h.published (by simp [hload]) with hreq | hreq
  all_goals
    rw [listening, hreq]
    exact hload

lemma Sound.stopperStep {s : HttpSockets} (h : s.Sound) : s.stopperStep.Sound := by
  have hgone := h.handover.joined
  obtain ⟨hpass, hload, hpub⟩ := h
  obtain ⟨worker, stopper, running, listenSock, activeClientSock, history⟩ := s
  cases stopper with
  | request => exact ⟨hpass, hload, fun _ => .inr rfl⟩
  | exchangeListen => exact ⟨hpass, hload, absurd rfl⟩
  | exchangeClient listenSock => exact ⟨hpass.step (.takes rfl), hload, fun hne => (hpub hne).elim nofun nofun⟩
  | shutdownListen listenSock clientSock =>
    cases listenSock with
    | none => exact ⟨hpass, hload, fun hne => (hpub hne).elim nofun nofun⟩
    | some sock => exact ⟨hpass.step (.stopsLent rfl rfl), hload, fun hne => (hpub hne).elim nofun nofun⟩
  | shutdownClient listenSock clientSock =>
    cases clientSock with
    | none => exact ⟨hpass, hload, fun hne => (hpub hne).elim nofun nofun⟩
    | some sock => exact ⟨hpass.step (.stops rfl), hload, fun hne => (hpub hne).elim nofun nofun⟩
  | wait listenSock clientSock =>
    unfold HttpSockets.stopperStep
    split_ifs with hexit
    · subst hexit
      exact ⟨hpass.step (.joins rfl rfl), hload, fun hne => (hpub hne).elim nofun nofun⟩
    · exact ⟨hpass, hload, fun hne => (hpub hne).elim nofun nofun⟩
  | closeClient listenSock clientSock =>
    cases clientSock with
    | none => exact ⟨hpass, hload, fun hne => (hpub hne).elim nofun nofun⟩
    | some sock => exact ⟨hpass.step (.closesTaken rfl), hload, fun hne => (hpub hne).elim nofun nofun⟩
  | closeListen held =>
    have hexit : worker = .exited := by
      have hwork := hgone none rfl
      cases worker with
      | exited => rfl
      | loop | loadListen | select | testRunning | accept | store | testStored | handle | reclaim
      | testReclaimed | shutdown | close | leave => cases hwork
    subst hexit
    cases held with
    | none => exact ⟨hpass, nofun, fun hne => (hpub hne).elim nofun nofun⟩
    | some sock =>
      exact ⟨hpass.step (.closesLent rfl rfl), nofun, fun hne => (hpub hne).elim nofun nofun⟩
  | returned => exact ⟨hpass, hload, fun hne => (hpub hne).elim nofun nofun⟩

lemma sound_run (listenSock : ℕ) (labels : List SocketLabel) :
    (Runs.run step (started listenSock) labels).Sound := by
  have hreach : Runs.Reachable step (started listenSock) (fun _ _ => True)
      (Runs.run step (started listenSock) labels) := Runs.Reachable.start.run labels
  refine hreach.invariant ?_ fun s label h _ => ?_
  · exact ⟨⟨rfl, List.nodup_singleton _, nofun, nofun, nofun⟩, nofun, fun _ => .inl rfl⟩
  cases label with
  | worker answer more sock => exact h.workerStep answer more sock
  | stopper => exact h.stopperStep

end HttpSockets

/-- **Sockets are closed once.**  Whatever the steps of a worker and of the one who stops its server, and
whatever the system answers: nothing is used or closed that is not open, and when the stop returns everything
that was opened has been closed. -/
theorem serverSockets_closedOnce :
    (∀ labels, let s := Runs.run EventSockets.step .started labels
      (∃ held, Handover.after s.history = some held) ∧
        (s.stopper = .returned → Handover.ClosedOnce s.history)) ∧
    ∀ listenSock labels, let s := Runs.run HttpSockets.step (.started listenSock) labels
      (∃ held, Handover.after s.history = some held) ∧
        (s.stopper = .returned → Handover.ClosedOnce s.history) := by
  refine ⟨fun labels => ?_, fun listenSock labels => ?_⟩
  · have hsound := EventSockets.sound_run labels
    refine ⟨⟨_, hsound.held⟩, fun hreturned => hsound.closedOnce ?_ rfl⟩
    simp [EventSockets.handover, hreturned]
  · have hsound := (HttpSockets.sound_run listenSock labels).handover
    refine ⟨⟨_, hsound.held⟩, fun hreturned => hsound.closedOnce ?_ ?_⟩
    · simp [HttpSockets.handover, hreturned]
    · simp [HttpSockets.handover, HttpSockets.listening, hreturned]

/-- A notification and a request that the stop takes their sockets from. -/
theorem serverSockets_closedOnce_taken :
    let go := SocketLabel.worker true true 4
    let taken := List.replicate 3 .stopper ++ List.replicate 3 go ++ List.replicate 2 .stopper
    Handover.ClosedOnce (Runs.run EventSockets.step .started (List.replicate 4 go ++ taken)).history ∧
      Handover.ClosedOnce (Runs.run HttpSockets.step (.started 3)
        (List.replicate 6 go ++ List.replicate 5 .stopper ++ List.replicate 4 go ++
          List.replicate 3 .stopper)).history :=
  ⟨(serverSockets_closedOnce.1 _).2 (by decide), (serverSockets_closedOnce.2 3 _).2 (by decide)⟩

end NXCast

import Mathlib.Data.List.Basic
import Mathlib.Tactic.Common

/-!
# The SSDP thread

`ssdp_thread` of `ssdp.c`, an iteration of its loop a step.  The socket is the queue of the datagrams that
have arrived, of which `FIONREAD` reports the size of the first.  `handle_packet` only answers searches
and is left out.
-/

namespace NXCast

/-- `SsdpAdvertisement` -/
structure SsdpAdvertisement where
  st : String
  usn : String
deriving DecidableEq

/-- What `select` answers: it failed with `EINTR` or otherwise, or found nothing or something. -/
inductive SsdpSelect where
  | interrupted
  | failed
  | timeout
  | readable
deriving DecidableEq

/-- What an iteration finds: the clock at its start and behind `select`, the flags and the socket when it
starts, whether it is still running behind `select`, and the datagrams that come meanwhile. -/
structure SsdpTurn where
  start : ℕ
  now : ℕ
  start_le_now : start ≤ now
  running : Bool
  opened : Bool
  suspended : Bool
  stillRunning : Bool
  arrivals : List (List UInt8)
  select : SsdpSelect

/-- The thread between two iterations. -/
structure SsdpThread where
  nextNotifyMs : ℕ
  wasSuspended : Bool
  socket : List (List UInt8)
  finished : Bool

/-- `SSDP_NOTIFY_INTERVAL_MS` -/
def ssdpNotifyIntervalMs : ℕ := 30000

/-- `ssdp_recv_packet_alloc`: the socket it leaves.  Without memory it takes the datagram too. -/
def ssdpRecvPacketAlloc : List (List UInt8) → List (List UInt8)
  | [] => []
  | packet :: packets => if packet.length ≤ 0 then packet :: packets else packets

namespace SsdpThread

/-- The thread in front of its loop. -/
def initial (now : ℕ) : SsdpThread := ⟨now, false, [], false⟩

/-- An iteration that is not suspended, up to `select`: the thread, and the alive notifications that
were sent. -/
def resumed (advertisements : List SsdpAdvertisement) (turn : SsdpTurn) (thread : SsdpThread) :
    SsdpThread × List SsdpAdvertisement :=
  if thread.wasSuspended then
    ({ thread with nextNotifyMs := turn.start + ssdpNotifyIntervalMs, wasSuspended := false },
      advertisements)
  else (thread, [])

/-- An iteration behind `select`. -/
def selected (advertisements : List SsdpAdvertisement) (turn : SsdpTurn) (thread : SsdpThread) :
    SsdpThread × List SsdpAdvertisement :=
  let thread := { thread with socket := thread.socket ++ turn.arrivals }
  if turn.select = .interrupted then (thread, [])
  else if turn.select = .failed ∨ !turn.stillRunning then ({ thread with finished := true }, [])
  else if turn.select = .timeout then
    if turn.now ≥ thread.nextNotifyMs then
      ({ thread with nextNotifyMs := turn.now + ssdpNotifyIntervalMs }, advertisements)
    else (thread, [])
  else ({ thread with socket := ssdpRecvPacketAlloc thread.socket }, [])

/-- An iteration: the thread, and the alive notifications that were sent. -/
def iterate (advertisements : List SsdpAdvertisement) (turn : SsdpTurn) (thread : SsdpThread) :
    SsdpThread × List SsdpAdvertisement :=
  if thread.finished then (thread, [])
  else if !turn.running ∨ !turn.opened then ({ thread with finished := true }, [])
  else if turn.suspended then
    ({ thread with wasSuspended := true, socket := thread.socket ++ turn.arrivals }, [])
  else
    let (thread, resumed) := thread.resumed advertisements turn
    let (thread, sent) := thread.selected advertisements turn
    (thread, resumed ++ sent)

/-- Each iteration of a run is as `P` says. -/
def Along (advertisements : List SsdpAdvertisement) (P : SsdpThread → SsdpTurn → Prop) :
    List SsdpTurn → SsdpThread → Prop
  | [], _ => True
  | turn :: turns, thread => P thread turn ∧ Along advertisements P turns (thread.iterate advertisements turn).1

/-- The thread runs through the iteration and is not suspended. -/
def Runs (thread : SsdpThread) (turn : SsdpTurn) : Prop :=
  thread.finished = false ∧ turn.running ∧ turn.opened ∧ turn.suspended = false ∧ turn.stillRunning

/-- An iteration that is due sends every advertisement, and one that sees a datagram takes it. -/
def Announces (advertisements : List SsdpAdvertisement) (thread : SsdpThread) (turn : SsdpTurn) : Prop :=
  thread.Runs turn →
    (thread.nextNotifyMs ≤ turn.start →
      ∀ advertisement ∈ advertisements, advertisement ∈ (thread.iterate advertisements turn).2) ∧
    (turn.select = .readable → ∀ packet packets, thread.socket ++ turn.arrivals = packet :: packets →
      (thread.iterate advertisements turn).1.socket = packets)

/-- `select` finds nothing in an iteration that is due, unless nothing is to be sent or the thread was
suspended before; and it finds no empty datagram. -/
def Quiet (advertisements : List SsdpAdvertisement) (thread : SsdpThread) (turn : SsdpTurn) : Prop :=
  thread.Runs turn →
    (thread.nextNotifyMs ≤ turn.start →
      turn.select = .timeout ∨ advertisements = [] ∨ thread.wasSuspended) ∧
    (turn.select = .readable → (thread.socket ++ turn.arrivals).head? ≠ some [])

variable {advertisements : List SsdpAdvertisement} {thread : SsdpThread} {turn : SsdpTurn}

lemma iterate_eq (h : thread.Runs turn) : thread.iterate advertisements turn =
    (((thread.resumed advertisements turn).1.selected advertisements turn).1,
      (thread.resumed advertisements turn).2 ++
        ((thread.resumed advertisements turn).1.selected advertisements turn).2) := by
  obtain ⟨hfinished, hrunning, hopened, hsuspended, -⟩ := h
  simp [iterate, hfinished, hrunning, hopened, hsuspended]

/-- **The iteration that is due** looks at the timer where `select` found nothing. -/
lemma sends_iff (h : thread.Runs turn) (hdue : thread.nextNotifyMs ≤ turn.start) :
    (∀ advertisement ∈ advertisements, advertisement ∈ (thread.iterate advertisements turn).2) ↔
      turn.select = .timeout ∨ advertisements = [] ∨ thread.wasSuspended := by
  have hnow := Nat.le_trans hdue turn.start_le_now
  rw [iterate_eq h]
  dsimp only
  cases hsuspended : thread.wasSuspended with
  | true => simp +contextual [resumed, hsuspended]
  | false =>
    rw [resumed, hsuspended]
    cases hselect : turn.select with
    | timeout => simp [selected, hselect, h.2.2.2.2, hnow]
    | _ => simp [selected, hselect, h.2.2.2.2, List.eq_nil_iff_forall_not_mem]

/-- **An empty datagram** stays where it is. -/
lemma takes_iff (h : thread.Runs turn) (hselect : turn.select = .readable) :
    (∀ packet packets, thread.socket ++ turn.arrivals = packet :: packets →
      (thread.iterate advertisements turn).1.socket = packets) ↔
        (thread.socket ++ turn.arrivals).head? ≠ some [] := by
  have hsocket : (thread.resumed advertisements turn).1.socket = thread.socket := by
    rw [resumed]
    split <;> rfl
  rw [iterate_eq h]
  simp only [selected, hselect, h.2.2.2.2, hsocket]
  cases thread.socket ++ turn.arrivals with
  | nil => simp
  | cons packet packets =>
    rw [show ssdpRecvPacketAlloc (packet :: packets) =
      if packet.length ≤ 0 then packet :: packets else packets from rfl]
    cases packet with
    | nil | cons => simp

lemma announces_iff : thread.Announces advertisements turn ↔ thread.Quiet advertisements turn :=
  forall_congr' fun h => and_congr (forall_congr' (sends_iff h)) (forall_congr' (takes_iff h))

end SsdpThread

/-- **The announcements.** In every run of the thread the iterations that are due send every alive
notification, and those that see a datagram take it, exactly if `select` finds nothing when one is due
(or nothing is to be sent, or the thread was just suspended) and never an empty datagram. -/
theorem ssdpThread_announces_iff (advertisements : List SsdpAdvertisement) (now : ℕ)
    (turns : List SsdpTurn) :
    SsdpThread.Along advertisements (SsdpThread.Announces advertisements) turns (.initial now) ↔
      SsdpThread.Along advertisements (SsdpThread.Quiet advertisements) turns (.initial now) := by
  generalize SsdpThread.initial now = thread
  induction turns generalizing thread with
  | nil => rfl
  | cons turn turns ih => exact and_congr SsdpThread.announces_iff (ih _)

/-- A datagram comes when the first notification is due. -/
theorem ssdpThread_announces_late :
    ¬ SsdpThread.Along [⟨"upnp:rootdevice", "uuid:1"⟩]
      (SsdpThread.Announces [⟨"upnp:rootdevice", "uuid:1"⟩])
      [⟨0, 0, Nat.le_refl 0, true, true, false, true, [[0x4d]], .readable⟩] (.initial 0) :=
  fun h => nomatch (h.1 ⟨rfl, rfl, rfl, rfl, rfl⟩).1 (Nat.le_refl 0) _ (.head _)

end NXCast

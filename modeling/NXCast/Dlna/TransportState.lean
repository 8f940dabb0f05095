import NXCast.Dlna.DlnaSystem

/-!
# The published transport state

`TransportState` and `TransportStatus` have two writers: the delivery of the player's events, and the
SOAP actions, which write what they expect of the command they have submitted.  The command may
long have been executed by then and its events delivered, so an action can write over what an event
has said.  Where none does, the published state is that of the last event.
-/

namespace NXCast

open List ProtocolState

/-! ## The property -/

/-- What an event that maps to a transport state writes. -/
def transportWrites (mapped : List UInt8 × List UInt8) : List ProtocolWrite :=
  [.text .transportState mapped.1, .text .transportStatus mapped.2]

/-- The two variables. -/
def ProtocolVariable.IsTransport (name : ProtocolVariable) : Prop :=
  name = .text .transportState ∨ name = .text .transportStatus

namespace DlnaSystem

/-- What the delivery of an event is still to write. -/
def handlerLeft (s : DlnaSystem) : List ProtocolWrite :=
  match s.handler with
  | .idle => []
  | .writing left _ => left

/-- The published state is what the last event of the current media maps to. -/
def Published (s : DlnaSystem) : Prop :=
  ∀ mapped, s.mapped = some mapped → ∀ write ∈ transportWrites mapped,
    s.state.value write.name = write

/-- An action writes to the transport state what the last event of the current media has said, or
before the delivery of that event does. -/
def Follows (s : DlnaSystem) : DlnaLabel → Prop
  | .soap =>
    match s.soap with
    | .writing (write :: _) =>
      write.name.IsTransport → ∀ mapped, s.mapped = some mapped →
        write ∈ transportWrites mapped ∨ ∃ later ∈ s.handlerLeft, later.name = write.name
    | _ => True
  | _ => True

/-- A variable is as the last event has said, or the delivery is to write it. -/
structure TransportSound (s : DlnaSystem) : Prop where
  shown : ∀ mapped, s.mapped = some mapped → ∀ write ∈ transportWrites mapped,
    s.state.value write.name = write ∨ write ∈ s.handlerLeft
  left : ∀ write ∈ s.handlerLeft, write.name.IsTransport →
    ∃ mapped, s.mapped = some mapped ∧ write ∈ transportWrites mapped

end DlnaSystem

/-! ## Writes -/

lemma ProtocolState.value_name (s : ProtocolState) (name : ProtocolVariable) :
    (s.value name).name = name := by
  cases name <;> rfl

lemma ProtocolState.value_write (s : ProtocolState) (write : ProtocolWrite)
    (name : ProtocolVariable) :
    (s.write write).value name = if write.name = name then write else s.value name := by
  cases write with
  | mute value => cases name <;> rfl
  | text written value =>
    cases name with
    | text name =>
      simp only [ProtocolState.value, ProtocolState.write, ProtocolWrite.name,
        Function.update_apply, ProtocolVariable.text.injEq]
      by_cases h : written = name
      · rw [if_pos h, if_pos h.symm, h]
      · rw [if_neg h, if_neg (Ne.symm h)]
    | _ => rfl
  | number written value =>
    cases name with
    | number name =>
      simp only [ProtocolState.value, ProtocolState.write, ProtocolWrite.name,
        Function.update_apply, ProtocolVariable.number.injEq]
      by_cases h : written = name
      · rw [if_pos h, if_pos h.symm, h]
      · rw [if_neg h, if_neg (Ne.symm h)]
    | _ => rfl

variable {write : ProtocolWrite} {mapped : List UInt8 × List UInt8}

lemma transportWrites_unique {other : ProtocolWrite} (h : write ∈ transportWrites mapped)
    (hother : other ∈ transportWrites mapped) (hname : write.name = other.name) : write =
      other := by
  simp only [transportWrites, mem_cons, not_mem_nil, or_false] at h hother
  rcases h with rfl | rfl <;> rcases hother with rfl | rfl
  · rfl
  · cases hname
  · cases hname
  · rfl

lemma isTransport_of_mem (h : write ∈ transportWrites mapped) : write.name.IsTransport := by
  simp only [transportWrites, mem_cons, not_mem_nil, or_false] at h
  rcases h with rfl | rfl
  · exact .inl rfl
  · exact .inr rfl

variable {event : RendererEvent}

lemma onRendererEvent_of_transport (h : event.transport = some mapped) :
    onRendererEvent event = transportWrites mapped := by
  rw [RendererEvent.transport] at h
  rw [onRendererEvent]
  split at h
  · rename_i htype
    rw [htype]
    split at h
    · rename_i happly
      cases h
      exact if_pos happly
    · cases h
  · rename_i htype
    rw [htype]
    cases h
    rfl
  · cases h

lemma not_isTransport_of_mem (h : event.transport = none)
    (hwrite : write ∈ onRendererEvent event) : ¬write.name.IsTransport := by
  cases htype : event.type <;> simp only [RendererEvent.transport, htype] at h <;>
    simp only [onRendererEvent, htype] at hwrite
  case stateChanged =>
    by_cases happly : shouldApplyTransportStateFromRenderer event.state = true
    · rw [if_pos happly] at h
      cases h
    · rw [if_neg happly] at hwrite
      cases hwrite
  case error => cases h
  case uriChanged => cases hwrite
  case volumeChanged | muteChanged =>
    rw [mem_singleton.mp hwrite]
    rintro (h | h) <;> cases h
  case positionChanged | durationChanged =>
    simp only [mem_cons, not_mem_nil, or_false] at hwrite
    rcases hwrite with rfl | rfl <;> rintro (h | h) <;> cases h

/-! ## Steps -/

namespace DlnaSystem

variable {s : DlnaSystem}

section

variable (h : s.TransportSound)

include h

lemma TransportSound.congr {t : DlnaSystem} (hstate : t.state = s.state)
    (hhand : t.handler = s.handler) (hmapped : t.mapped = s.mapped) : t.TransportSound := by
  have hleft : t.handlerLeft = s.handlerLeft := by rw [handlerLeft, handlerLeft, hhand]
  constructor
  · rw [hstate, hmapped, hleft]
    exact h.shown
  · rw [hmapped, hleft]
    exact h.left

variable {left : List ProtocolWrite}

lemma TransportSound.soapWrites {write : ProtocolWrite}
    (hsoap : s.soap = .writing (write :: left))
    (hfollows : s.Follows .soap) :
    ({ s.wrote write with soap := .writing left } : DlnaSystem).TransportSound := by
  simp only [Follows, hsoap] at hfollows
  refine ⟨fun mapped hmapped expected hexp => ?_, h.left⟩
  show (s.state.write write).value expected.name = expected ∨ expected ∈ s.handlerLeft
  rw [value_write]
  by_cases hname : write.name = expected.name
  · rw [if_pos hname]
    have htrans : write.name.IsTransport := hname ▸ isTransport_of_mem hexp
    rcases hfollows htrans mapped hmapped with hwrite | ⟨later, hlater, hlatername⟩
    · exact .inl (transportWrites_unique hwrite hexp hname)
    obtain ⟨mapped', hmapped', hlater'⟩ := h.left later hlater (hlatername ▸ htrans)
    rw [show s.mapped = some mapped from hmapped] at hmapped'
    cases hmapped'
    have hsame := transportWrites_unique hlater' hexp (hlatername.trans hname)
    exact .inr (hsame ▸ hlater)
  · rw [if_neg hname]
    exact h.shown mapped hmapped expected hexp

lemma TransportSound.handlerWrites {write : ProtocolWrite}
        (hhand : s.handler = .writing (write :: left) event) :
    ({ s.wrote write with handler := .writing left event } : DlnaSystem).TransportSound := by
  have hleft : s.handlerLeft = write :: left := by rw [handlerLeft, hhand]
  constructor
  · intro mapped hmapped expected hexp
    show (s.state.write write).value expected.name = expected ∨ expected ∈ left
    rw [value_write]
    by_cases hname : write.name = expected.name
    · rw [if_pos hname]
      have htrans : write.name.IsTransport := hname ▸ isTransport_of_mem hexp
      obtain ⟨mapped', hmapped', hwrite⟩ :=
        h.left write (hleft ▸ mem_cons_self) htrans
      rw [show s.mapped = some mapped from hmapped] at hmapped'
      cases hmapped'
      exact .inl (transportWrites_unique hwrite hexp hname)
    · rw [if_neg hname]
      rcases h.shown mapped hmapped expected hexp with hshown | hexp'
      · exact .inl hshown
      rw [hleft, mem_cons] at hexp'
      rcases hexp' with rfl | hexp'
      · exact absurd rfl hname
      · exact .inr hexp'
  · exact fun other hother => h.left other (hleft ▸ mem_cons_of_mem write hother)

lemma TransportSound.callHandler (owner : Option PlayerOwnershipLease)
    (event : RendererEvent) : (s.callHandler owner event).TransportSound := by
  rw [DlnaSystem.callHandler]
  cases hhand : s.handler with
  | writing => exact h
  | idle =>
    simp only
    split
    · have hnone : s.handlerLeft = [] := by rw [handlerLeft, hhand]
      cases htrans : event.transport with
      | some mapped =>
        have hwrites := onRendererEvent_of_transport htrans
        refine ⟨fun mapped' hmapped' expected hexp => .inr ?_, fun write hwrite _ => ?_⟩
        · cases hmapped'
          exact hwrites ▸ hexp
        · exact ⟨mapped, rfl, hwrites ▸ hwrite⟩
      | none =>
        refine ⟨fun mapped hmapped expected hexp => ?_, fun write hwrite hname => ?_⟩
        · refine .inl ((h.shown mapped hmapped expected hexp).resolve_right ?_)
          rw [hnone]
          exact not_mem_nil
        · exact absurd hname (not_isTransport_of_mem htrans hwrite)
    · exact h

lemma TransportSound.step {label : DlnaLabel} (hfollows : s.Follows label) :
    (s.step label).TransportSound := by
  cases label with
  | action action =>
    rw [DlnaSystem.step, callAction]
    split
    · split
      · exact h
      · exact h.congr rfl rfl rfl
    · exact h
  | answered succeeded =>
    rw [DlnaSystem.step, answerAction]
    split
    · exact h.congr rfl rfl rfl
    · exact h
  | soap =>
    rw [DlnaSystem.step, soapStep]
    split
    · rename_i hsoap
      exact h.soapWrites hsoap hfollows
    · exact h.congr rfl rfl rfl
    · exact h
  | opened =>
    rw [DlnaSystem.step, openMedia]
    split
    · rename_i hhand
      refine ⟨nofun, fun write hwrite => ?_⟩
      simp only [handlerLeft, hhand, not_mem_nil] at hwrite
    · exact h
  | rendererEvent owner event => exact h.callHandler owner event
  | handler =>
    rw [DlnaSystem.step, handlerStep]
    split
    · exact h
    · rename_i hhand
      exact h.handlerWrites hhand
    rename_i hhand
    refine ⟨fun mapped hmapped expected hexp => .inl ?_, nofun⟩
    refine (h.shown mapped hmapped expected hexp).resolve_right ?_
    rw [handlerLeft, hhand]
    exact not_mem_nil
  | request | stop => exact h.congr rfl rfl rfl
  | worker now sent =>
    rw [DlnaSystem.step, workerStep]
    split
    · split
      · exact h.congr rfl rfl rfl
      · split <;> exact h.congr rfl rfl rfl
    · exact h.congr rfl rfl rfl
    · split <;> exact h.congr rfl rfl rfl
    all_goals exact h.congr rfl rfl rfl

end

/-- Where no action writes over what an event has said, the published state is that of the last
event, whenever no event is being delivered. -/
theorem transport_published (hrun : Runs.Reachable step initial Follows s)
    (hhandler : s.handler = .idle) : s.Published := by
  have hsound : s.TransportSound := by
    refine hrun.invariant (P := TransportSound)
      ⟨fun _ hmapped => (by cases hmapped), fun _ hwrite => absurd hwrite List.not_mem_nil⟩ ?_
    exact fun s label h hfollows => h.step hfollows
  intro mapped hmapped write hwrite
  refine (hsound.shown mapped hmapped write hwrite).resolve_right ?_
  rw [handlerLeft, hhandler]
  exact List.not_mem_nil

/-- A change of the player's state. -/
def stateEvent (state : PlayerState) : RendererEvent := ⟨.stateChanged, state, 0, 0, 100, false⟩

/-- The player is in a state, and the event of it is delivered. -/
def deliverState (state : PlayerState) : List DlnaLabel :=
  [.rendererEvent none (stateEvent state), .handler, .handler, .handler]

/-- A media is opened, plays and is paused. -/
def pauseLabels : List DlnaLabel :=
  [.action (.setUri (asciiBytes "http://a/") []), .opened, .answered true] ++
    List.replicate 13 .soap ++ deliverState .playing ++ [.action .pause] ++ deliverState .paused ++
    [.answered true, .soap, .soap, .soap]

/-- The media fails to load, and its event is delivered before the action goes on. -/
def failedLoadLabels : List DlnaLabel :=
  [.action (.setUri (asciiBytes "http://a/") []), .opened] ++ deliverState .error ++
    [.answered true] ++ List.replicate 13 .soap

theorem transport_published_paused :
    (Runs.run step initial pauseLabels).Published ∧
      (Runs.run step initial pauseLabels).mapped =
        some (asciiBytes "PAUSED_PLAYBACK", asciiBytes "OK") := by
  have hfollows : Runs.Along step Follows initial pauseLabels :=
    ⟨trivial, trivial, trivial, nofun, nofun, nofun, nofun, nofun, nofun, nofun, nofun,
      nofun, nofun, nofun,
      nofun, trivial, trivial, trivial, trivial, trivial, trivial,
      trivial, trivial, trivial, trivial, trivial,
      fun _ _ h => Option.some.inj h ▸ .inl (.head _),
      fun _ _ h => Option.some.inj h ▸ .inl (.tail _ (.head _)), trivial, trivial⟩
  exact ⟨transport_published (Runs.Reachable.along .start hfollows) rfl, rfl⟩

/-- The action's `PAUSED_PLAYBACK` hides the error for good. -/
theorem transport_published_failed :
    ¬∀ s, Runs.Reachable step initial (fun _ _ => True) s → s.soap = .idle → s.handler = .idle →
      s.Published := by
  intro h
  have hrun := h _ (Runs.Reachable.run .start failedLoadLabels) rfl rfl
    (asciiBytes "STOPPED", asciiBytes "ERROR_OCCURRED") rfl _ List.mem_cons_self
  exact absurd hrun (by decide +kernel)

end DlnaSystem

end NXCast

import NXCast.App.MediaSession
import NXCast.Framework.Runs

/-!
# Histories of the media session

What `protocol_media_session_transition` does to any session, and what a history of events does.  A
lease whose playback was asked to stop, or ended, stays that way for as long as nobody claims the same
lease once more: a session that was released or reset takes any valid lease, so a second claim of one
lease is for the ownership to rule out and not for this machine.
-/

namespace NXCast

/-- A session without its revision. -/
def unrevised (session : ProtocolMediaSessionSnapshot) : ProtocolMediaSessionSnapshot :=
  { session with revision := 0 }

/-- The session that an event leaves. -/
def protocolMediaSessionNext (session : ProtocolMediaSessionSnapshot) (event : ProtocolMediaEvent) :
    ProtocolMediaSessionSnapshot := (protocolMediaSessionTransition session event).2

/-- What one event does: it is applied when it changes something, and then counted once. -/
structure HonestStep (session : ProtocolMediaSessionSnapshot) (event : ProtocolMediaEvent) :
    Prop where
  applied : (protocolMediaSessionTransition session event).1 = .applied ↔
    unrevised (protocolMediaSessionNext session event) ≠ unrevised session
  unchanged : (protocolMediaSessionTransition session event).1 ≠ .applied →
    protocolMediaSessionNext session event = session
  revision : (protocolMediaSessionTransition session event).1 = .applied →
    (protocolMediaSessionNext session event).revision =
      if session.revision + 1 = 0 then 1 else session.revision + 1

/-! ## Steps -/

/-- An event leaves the session, or changes it and is counted. -/
def StepCases (session : ProtocolMediaSessionSnapshot)
    (result : ProtocolMediaTransitionStatus × ProtocolMediaSessionSnapshot) : Prop :=
  (result.1 ≠ .applied ∧ result.2 = session) ∨
    (result.1 = .applied ∧ unrevised result.2 ≠ unrevised session ∧
      result.2.revision = bumpRevision session.revision)

lemma applyReset_cases (session : ProtocolMediaSessionSnapshot) :
    StepCases session (applyReset session) := by
  unfold applyReset
  split_ifs with h
  · exact .inl ⟨nofun, rfl⟩
  refine .inr ⟨rfl, fun heq => h ?_, rfl⟩
  have hlife := congrArg ProtocolMediaSessionSnapshot.lifecycle heq
  have hlease := congrArg ProtocolMediaSessionSnapshot.lease heq
  exact ⟨hlife.symm, congrArg PlayerOwnershipLease.owner hlease.symm⟩

lemma applyClaim_cases (session : ProtocolMediaSessionSnapshot) (lease : PlayerOwnershipLease) :
    StepCases session (applyClaim session lease) := by
  unfold applyClaim
  split
  · exact .inl ⟨nofun, rfl⟩
  split
  · exact .inl ⟨nofun, rfl⟩
  rename_i hlease
  split
  · exact .inl ⟨nofun, rfl⟩
  · exact .inr ⟨rfl, fun heq => hlease (congrArg ProtocolMediaSessionSnapshot.lease heq).symm, rfl⟩

lemma sessionChanged_cases {session next : ProtocolMediaSessionSnapshot} {changed : Bool}
    (hsame : changed = false → next = session)
    (hother : changed → unrevised next ≠ unrevised session) :
    StepCases session (sessionChanged session next changed) := by
  unfold sessionChanged
  split_ifs with hchanged
  · exact .inl ⟨nofun, hsame hchanged⟩
  · exact .inr ⟨rfl, hother (Bool.not_eq_false _ ▸ hchanged), rfl⟩

lemma transition_cases (session : ProtocolMediaSessionSnapshot) (event : ProtocolMediaEvent) :
    StepCases session (protocolMediaSessionTransition session event) := by
  have hleft : ∀ status : ProtocolMediaTransitionStatus, status ≠ .applied →
      StepCases session (status, session) := fun status hstat => .inl ⟨hstat, rfl⟩
  obtain ⟨lease, lifecycle, playback, control, revision⟩ := session
  unfold protocolMediaSessionTransition
  split
  · exact applyReset_cases _
  split
  · exact applyClaim_cases _ _
  split
  · exact hleft _ nofun
  split
  all_goals first
    | exact applyReset_cases _
    | exact hleft _ nofun
    | (split
       · exact hleft _ nofun
       · exact sessionChanged_cases (by grind) (by grind [unrevised]))
    | exact sessionChanged_cases (by grind) (by grind [unrevised])

lemma honestStep (session : ProtocolMediaSessionSnapshot) (event : ProtocolMediaEvent) :
    HonestStep session event := by
  rcases transition_cases session event with ⟨hstat, hnext⟩ | ⟨hstat, hother, hrevision⟩
  · refine ⟨⟨fun happ => absurd happ hstat, absurd ?_⟩,
      fun _ => hnext, fun happ => absurd happ hstat⟩
    rw [protocolMediaSessionNext, hnext]
  refine ⟨⟨fun _ => hother, fun _ => hstat⟩, absurd hstat, fun _ => ?_⟩
  rw [protocolMediaSessionNext, hrevision, bumpRevision]
  split_ifs with hzero
  · rw [hzero]
    rfl
  · rfl

/-- An event of another lease is none of the session's, unless it is a claim or a reset. -/
lemma next_of_foreign {session : ProtocolMediaSessionSnapshot} {event : ProtocolMediaEvent}
    (hclaim : event.kind ≠ .claimed) (hreset : event.kind ≠ .reset)
    (hlease : event.lease ≠ session.lease) : protocolMediaSessionNext session event = session := by
  unfold protocolMediaSessionNext protocolMediaSessionTransition
  rw [if_neg hreset, if_neg hclaim, if_pos (.inr (Ne.symm hlease))]

lemma newer_of_applied {session : ProtocolMediaSessionSnapshot} {event : ProtocolMediaEvent}
    (hkind : event.kind = .claimed) (hheld : leaseValid session.lease)
    (happ : (protocolMediaSessionTransition session event).1 = .applied) :
    generationNewer event.lease.generation session.lease.generation := by
  have hgen : session.lease.generation ≠ 0 := (of_decide_eq_true hheld).2
  unfold protocolMediaSessionTransition applyClaim at happ
  rw [if_neg (by rw [hkind]; decide), if_pos hkind] at happ
  by_contra hold
  rw [Bool.not_eq_true] at hold
  split at happ
  · cases happ
  split at happ
  · cases happ
  · rw [if_pos ⟨hgen, hold⟩] at happ
    cases happ

/-! ## After a stop -/

/-- The lease is being stopped whenever it is the session's. -/
def StoppingUnder (lease : PlayerOwnershipLease) (session : ProtocolMediaSessionSnapshot) : Prop :=
  session.lease = lease → session.lifecycle = .stopping

/-- The event claims a lease that the session does not have. -/
def Reclaims (lease : PlayerOwnershipLease) (session : ProtocolMediaSessionSnapshot)
    (event : ProtocolMediaEvent) : Prop :=
  event.kind = .claimed ∧ event.lease = lease ∧ session.lease ≠ lease

variable {session : ProtocolMediaSessionSnapshot} {event : ProtocolMediaEvent}
  {lease : PlayerOwnershipLease}

lemma stoppingUnder_of_stop (hkind : event.kind = .stopRequested ∨ event.kind = .ended)
    (hlease : event.lease = session.lease) (hvalid : leaseValid event.lease) :
    (protocolMediaSessionNext session event).lifecycle = .stopping := by
  unfold protocolMediaSessionNext protocolMediaSessionTransition
  have hreset : event.kind ≠ .reset := by
    rcases hkind with h | h <;> rw [h] <;> decide
  have hclaim : event.kind ≠ .claimed := by
    rcases hkind with h | h <;> rw [h] <;> decide
  rw [if_neg hreset, if_neg hclaim, if_neg (by rw [hvalid, hlease]; simp)]
  rcases hkind with h | h <;>
  · rw [h]
    dsimp only
    unfold sessionChanged
    split <;> rfl

lemma next_of_stopping (hstop : session.lifecycle = .stopping) (hauth : event.isAuthority = false) :
    protocolMediaSessionNext session event = session := by
  simp only [ProtocolMediaEvent.isAuthority, decide_eq_false_iff_not, not_or] at hauth
  obtain ⟨hclaim, hrel, hreset⟩ := hauth
  have hclosing : sessionClosing session := by
    rw [sessionClosing, hstop]
    rfl
  unfold protocolMediaSessionNext protocolMediaSessionTransition
  rw [if_neg hreset, if_neg hclaim]
  split
  · rfl
  split
  all_goals first
    | rw [if_pos hclosing]
    | rw [if_pos hstop]
    | rfl
    | exact absurd ‹event.kind = .released› hrel
    | (rw [sessionChanged, if_pos (by simp [hstop]), ← hstop])

lemma not_valid_of_applyReset (happ : (applyReset session).1 = .applied) :
    leaseValid (applyReset session).2.lease = false := by
  unfold applyReset at happ ⊢
  split_ifs with hidle
  · rw [if_pos hidle] at happ
    cases happ
  · rfl

lemma lease_of_authority (hauth : event.isAuthority)
    (happ : (protocolMediaSessionTransition session event).1 = .applied) :
    leaseValid (protocolMediaSessionNext session event).lease = false ∨
      (event.kind = .claimed ∧ session.lease ≠ event.lease ∧
        (protocolMediaSessionNext session event).lease = event.lease) := by
  unfold protocolMediaSessionNext
  rcases of_decide_eq_true hauth with hkind | hkind | hkind
  · refine .inr ⟨hkind, ?_⟩
    unfold protocolMediaSessionTransition applyClaim at happ ⊢
    simp only [hkind, reduceCtorEq, ↓reduceIte] at happ ⊢
    split at happ
    · cases happ
    rename_i hvalid
    split at happ
    · cases happ
    rename_i hother
    split at happ
    · cases happ
    rename_i hnewer
    rw [if_neg hvalid, if_neg hother, if_neg hnewer]
    exact ⟨hother, rfl⟩
  · left
    unfold protocolMediaSessionTransition at happ ⊢
    simp only [hkind, reduceCtorEq, ↓reduceIte] at happ ⊢
    split at happ
    · cases happ
    rename_i hown
    rw [if_neg hown]
    exact not_valid_of_applyReset happ
  · left
    unfold protocolMediaSessionTransition at happ ⊢
    rw [if_pos hkind] at happ ⊢
    exact not_valid_of_applyReset happ

lemma StoppingUnder.next (hvalid : leaseValid lease) (hstop : StoppingUnder lease session)
    (hclaim : ¬Reclaims lease session event) :
    StoppingUnder lease (protocolMediaSessionNext session event) := by
  intro hnext
  cases hauth : event.isAuthority with
  | false =>
    have hlease : session.lease = lease := by
      rw [← hnext]
      exact (lease_transition_of_not_authority hauth).symm
    rw [next_of_stopping (hstop hlease) hauth, hstop hlease]
  | true =>
    rcases transition_cases session event with ⟨-, hsame⟩ | ⟨happ, -, -⟩
    · rw [protocolMediaSessionNext, hsame] at hnext ⊢
      exact hstop hnext
    rcases lease_of_authority hauth happ with hnone | ⟨hkind, hother, hmoved⟩
    · rw [hnext, hvalid] at hnone
      cases hnone
    · rw [hmoved] at hnext
      exact absurd ⟨hkind, hnext, hnext ▸ hother⟩ hclaim

/-! ## Main results -/

/-- **The media session machine.** Every event is applied exactly when it changes the session, and is
then counted; an event that carries another lease changes nothing unless it is a claim or a reset; a
claim that is applied while a lease is held is newer; and a lease that was stopped, or whose playback
ended, is never loading or active again unless somebody claims it once more. -/
theorem media_session_machine :
    (∀ session event, HonestStep session event) ∧
    (∀ session event, event.kind ≠ .claimed → event.kind ≠ .reset → event.lease ≠ session.lease →
      protocolMediaSessionNext session event = session) ∧
    (∀ session event, event.kind = .claimed → leaseValid session.lease = true →
      (protocolMediaSessionTransition session event).1 = .applied →
        generationNewer event.lease.generation session.lease.generation = true) ∧
    ∀ session event, (event.kind = .stopRequested ∨ event.kind = .ended) →
      event.lease = session.lease → leaseValid event.lease = true →
      ∀ later, Runs.Reachable protocolMediaSessionNext (protocolMediaSessionNext session event)
        (fun session event' => ¬Reclaims event.lease session event') later →
      later.lease = event.lease → later.lifecycle ≠ .loading ∧ later.lifecycle ≠ .active := by
  refine ⟨honestStep, fun session event => next_of_foreign, fun session event => newer_of_applied,
    fun session event hkind hlease hvalid later hlater hheld => ?_⟩
  have hstopping : StoppingUnder event.lease later :=
    hlater.invariant (fun _ => stoppingUnder_of_stop hkind hlease hvalid)
      fun session event' hsession hclaim => hsession.next hvalid hclaim
  rw [hstopping hheld]
  exact ⟨nofun, nofun⟩

/-- A session that was stopped is asked to play. -/
theorem media_session_machine_stopped :
    (protocolMediaSessionNext
      (protocolMediaSessionNext ⟨⟨.dlna, 1, 1⟩, .active, .playing, .unknown, 4⟩
        ⟨.stopRequested, ⟨.dlna, 1, 1⟩⟩) ⟨.playing, ⟨.dlna, 1, 1⟩⟩).lifecycle ≠ .active :=
  (media_session_machine.2.2.2 ⟨⟨.dlna, 1, 1⟩, .active, .playing, .unknown, 4⟩
    ⟨.stopRequested, ⟨.dlna, 1, 1⟩⟩ (.inl rfl) rfl rfl _
    (Runs.Reachable.step ⟨.playing, ⟨.dlna, 1, 1⟩⟩ .start fun h => nomatch h.1) rfl).2

/-- A reset carries no lease and changes the session, and a lease that is claimed again after its
release is loaded again. -/
theorem media_session_machine_not_own :
    (protocolMediaSessionNext ⟨⟨.dlna, 1, 1⟩, .active, .playing, .unknown, 4⟩
        ⟨.reset, .zero⟩).lease = .zero ∧
      (Runs.run protocolMediaSessionNext ⟨⟨.dlna, 1, 1⟩, .active, .playing, .unknown, 4⟩
          [⟨.stopRequested, ⟨.dlna, 1, 1⟩⟩, ⟨.released, ⟨.dlna, 1, 1⟩⟩, ⟨.claimed, ⟨.dlna, 1, 1⟩⟩,
            ⟨.loadRequested, ⟨.dlna, 1, 1⟩⟩]) =
        ⟨⟨.dlna, 1, 1⟩, .loading, .unknown, .unknown, 8⟩ := by
  decide

end NXCast

import NXCast.App.Leases

/-!
# Stale leases, and the hand-over of the player

Two results about every run of the coordinator, whatever the threads call and however their
sections fall.  A lease that is not the newest one is refused and can release nothing
(`staleLease_rejected`).  With exclusive resources the player goes from one family of
protocols to another only through a moment without owner (`mediaBegin_handover`).
-/

namespace NXCast

open Interleaving ProtocolCoordinator

/-! ## Runs -/

/-- The coordinator is not started again. -/
def NoStart (_ : CoordinatorPool) (label : Label CoordinatorRequest) (_ : CoordinatorPool) :
    Prop :=
  ∀ id config a b, label ≠ .call id (.start config a b)

/-- Any move. -/
def AnyMove (_ : CoordinatorPool) (_ : Label CoordinatorRequest) (_ : CoordinatorPool) : Prop :=
  True

section Runs

variable {c : ProtocolCoordinator} {p p' : CoordinatorPool} {label : Label CoordinatorRequest}

lemma respects_of_noStart (h : NoStart p label p') :
    p.Respects (leaseProtocol true) (LeaseCallable true) label p' where
  callable id _ hlabel _ config a b hreq := h id config a b (hreq ▸ hlabel)
  allowed := trivial
  quiet _ _ _ _ _ _ _ _ := trivial

lemma respects_of_anyMove :
    p.Respects (leaseProtocol false) (LeaseCallable false) label p' where
  callable _ _ _ hsteady := by cases hsteady
  allowed := trivial
  quiet _ _ _ _ _ _ _ _ := trivial

variable (hboot : c.ownership = .initial)

include hboot

lemma sat_initial {steady : Bool} :
    (Pool.initial c : CoordinatorPool).Sat (leaseProtocol steady) (leaseSpec steady) := by
  refine Pool.Sat.of_quiescent (fun _ => rfl) rfl ?_ trivial
  show c.ownership.Sound
  rw [hboot]
  exact PlayerOwnership.sound_initial

lemma sat_of_noStart (hrun : Pool.Run coordinatorProgram NoStart (.initial c) p) :
    p.Sat (leaseProtocol true) (leaseSpec true) :=
  (Pool.Sat.of_run (fun _ _ _ => respects_of_noStart) (coordinatorProgram_correct true)
    (sat_initial hboot) hrun).1

lemma sat_of_anyMove (hrun : Pool.Run coordinatorProgram AnyMove (.initial c) p) :
    p.Sat (leaseProtocol false) (leaseSpec false) :=
  (Pool.Sat.of_run (fun _ _ _ _ => respects_of_anyMove) (coordinatorProgram_correct false)
    (sat_initial hboot) hrun).1

end Runs

/-! ## Stale leases -/

section Stale

variable {c : ProtocolCoordinator} {p p' : CoordinatorPool} {label : Label CoordinatorRequest}
  {id : ℕ} {call : Call ProtocolCoordinator CoordinatorResult CoordinatorRequest}
  {lease : PlayerOwnershipLease}

lemma validate_of_not_newest {o : PlayerOwnership} (hsound : o.Sound)
    (hstale : o.claims.head? ≠ some lease) : playerOwnershipValidate lease o = false := by
  by_contra hvalid
  rw [Bool.not_eq_false] at hvalid
  exact hstale (hsound.newest_of_validate hvalid).2

/-- A call that accepted a lease, or handed one out, ends with a lease that was the newest one
at some moment of the call. -/
lemma notSuperseded_of_done (hsat : p.Sat (leaseProtocol false) (leaseSpec false))
    (hcall : p.calls id = some call) (howner : lease.owner ≠ .none)
    (hdone : (call.request.guards = some lease ∧ call.rest = .done (.bool true)) ∨
      call.rest = .done (.guard (some lease))) :
    call.start.ownership.NotSuperseded p.state.ownership lease := by
  rcases hdone with ⟨hguards, hdone⟩ | hdone
  · obtain ⟨-, t, hlocked, hpost⟩ := hsat.post_of_done hcall hdone
    exact (hpost.accepts lease hguards howner rfl).trans hlocked
  · obtain ⟨-, t, hlocked, hpost⟩ := hsat.post_of_done hcall hdone
    exact (hpost.hands lease rfl howner).trans hlocked

/-- A section of a release with a lease that is not the newest one changes nothing at all,
unless there is no lease and no owner. -/
lemma late_release (hsat : p.Sat (leaseProtocol false) (leaseSpec false)) {answer : Bool}
    (hstep : p.step coordinatorProgram (.run id answer) = some p') (hcall : p.calls id = some call)
    (hrel : call.request.releases = some lease)
    (hstale : p.state.ownership.claims.head? ≠ some lease) :
    p'.state = p.state ∨ (lease.owner = .none ∧ p.state.ownership.current.owner = .none) := by
  obtain ⟨-, -, hsame | ⟨id', answer', call', hlabel, hcall', hsec⟩⟩ :=
    hsat.step (coordinatorProgram_correct false) hstep respects_of_anyMove
  · exact .inl hsame
  cases hlabel
  rw [hcall] at hcall'
  cases hcall'
  rcases hsec.late lease hrel with hsame | hhead | hnone
  · exact .inl hsame
  · exact absurd hhead hstale
  · exact .inr hnone

end Stale

/-- **Stale leases have no effect.**  In every run from the first claim on, before the
generations wrap: no lease is granted twice; a lease that is not the newest one does not
validate; a call that accepts a lease, or hands one out, ends with a lease that was the newest
one during the call; and a section of a release or an abort with any other lease leaves the
whole state as it is. -/
theorem staleLease_rejected {c : ProtocolCoordinator} {p p' : CoordinatorPool}
    {label : Label CoordinatorRequest} (hboot : c.ownership = .initial)
    (hrun : Pool.Run coordinatorProgram AnyMove (.initial c) p)
    (hstamps : p.state.ownership.stamps < 2 ^ 32)
    (hstep : p.step coordinatorProgram label = some p') :
    p.state.ownership.claims.Nodup ∧
      (∀ lease, p.state.ownership.claims.head? ≠ some lease →
        playerOwnershipValidate lease p.state.ownership = false) ∧
      (∀ id call lease, p.calls id = some call → lease.owner ≠ .none →
        (call.request.guards = some lease ∧ call.rest = .done (.bool true)) ∨
          call.rest = .done (.guard (some lease)) →
        ∃ recent, p.state.ownership.claims = recent ++ call.start.ownership.claims ∧
          (lease ∈ recent ∨ call.start.ownership.claims.head? = some lease)) ∧
      ∀ id answer call lease, label = .run id answer → p.calls id = some call →
        call.request.releases = some lease → p.state.ownership.claims.head? ≠ some lease →
        p'.state = p.state ∨ (lease.owner = .none ∧ p.state.ownership.current.owner = .none) := by
  have hsat := sat_of_anyMove hboot hrun
  have hsound : p.state.ownership.Sound := hsat.always
  refine ⟨hsound.nodup hstamps, ?_, ?_, ?_⟩
  · exact fun lease => validate_of_not_newest hsound
  · exact fun id call lease hcall howner hdone => notSuperseded_of_done hsat hcall howner hdone
  · rintro id answer call lease rfl hcall hreleases hstale
    exact late_release hsat hstep hcall hreleases hstale

/-- A call of a thread and its first sections. -/
def callMoves (id : ℕ) (request : CoordinatorRequest) (sections : ℕ) :
    List (Label CoordinatorRequest) :=
  .call id request :: List.replicate sections (.run id false)

/-- Two claims, and a release of the first lease that comes too late. -/
def lateReleaseMoves : List (Label CoordinatorRequest) :=
  callMoves 0 (.mediaBegin .dlna 7) 11 ++ callMoves 1 (.mediaBegin .iptv 9) 11 ++
    callMoves 2 (.mediaRelease ⟨.dlna, 7, 1⟩) 1

/-- A coordinator that shares its resources, once it has started. -/
def ProtocolCoordinator.shared : ProtocolCoordinator :=
  .started ⟨fun _ => true, false, .mediaOwnership⟩ true false

lemma lateRelease_run :
    ((Pool.initial shared).steps coordinatorProgram lateReleaseMoves).map (fun p =>
      (p.state.ownership.claims, p.state.ownership.stamps, p.state.activeMedia,
        (p.calls 2).map (·.request.releases), (p.step coordinatorProgram (.run 2 false)).isSome)) =
      some ([⟨.iptv, 9, 2⟩, ⟨.dlna, 7, 1⟩], 2, ⟨.iptv, 9, 2⟩, some (some ⟨.dlna, 7, 1⟩), true) := by
  decide +kernel

theorem staleLease_rejected_late :
    ∃ p p', (Pool.initial shared).steps coordinatorProgram lateReleaseMoves = some p ∧
      p.step coordinatorProgram (.run 2 false) = some p' ∧
      p.state.ownership.claims = [⟨.iptv, 9, 2⟩, ⟨.dlna, 7, 1⟩] ∧
      p.state.activeMedia = ⟨.iptv, 9, 2⟩ ∧ p'.state = p.state := by
  obtain ⟨p, hsteps, hfacts⟩ := Option.map_eq_some_iff.mp lateRelease_run
  simp only [Prod.mk.injEq, Option.map_eq_some_iff] at hfacts
  obtain ⟨hclaims, hstamps, hactive, ⟨call, hcall, hreleases⟩, hsome⟩ := hfacts
  obtain ⟨p', hstep⟩ := Option.isSome_iff_exists.mp hsome
  have hrun : Pool.Run coordinatorProgram AnyMove (.initial shared) p :=
    Pool.Run.of_steps hsteps fun _ _ => trivial
  obtain ⟨-, -, -, hlate⟩ := staleLease_rejected rfl hrun (by rw [hstamps]; decide) hstep
  refine ⟨p, p', hsteps, hstep, hclaims, hactive, ?_⟩
  rcases hlate 2 false call ⟨.dlna, 7, 1⟩ rfl hcall hreleases (by rw [hclaims]; decide) with
    hsame | ⟨hnone, -⟩
  · exact hsame
  · cases hnone

/-! ## The hand-over -/

section Handover

variable {c : ProtocolCoordinator} {p p' : CoordinatorPool} {label : Label CoordinatorRequest}

lemma handover_step (hsat : p.Sat (leaseProtocol true) (leaseSpec true))
    (hstep : p.step coordinatorProgram label = some p') (hlabel : NoStart p label p') :
    (p.state.exclusiveMediaResources → Handover p.state p'.state) ∧
      (p'.state.ownership.claims = p.state.ownership.claims ∨
        ∃ id answer call owner token, label = .run id answer ∧ p.calls id = some call ∧
          call.request = .mediaBegin owner token ∧ p'.state.ownership.current.owner = owner ∧
          p'.state.ownership.claims = p'.state.ownership.current :: p.state.ownership.claims) := by
  obtain ⟨-, -, hsame | ⟨id, answer, call, hrun, hcall, hsec⟩⟩ :=
    hsat.step (coordinatorProgram_correct true) hstep (respects_of_noStart hlabel)
  · rw [hsame]
    exact ⟨fun _ => .inr (.inr rfl), .inl rfl⟩
  refine ⟨hsec.handover rfl, ?_⟩
  rcases hsec.grants with hclaim | ⟨owner, token, hreq, howner, hclaim⟩
  · exact .inl hclaim
  · exact .inr ⟨id, answer, call, owner, token, hrun, hcall, hreq, howner, hclaim⟩

lemma granted_of_claims (hboot : c.ownership = .initial)
    (hrun : Pool.Run coordinatorProgram NoStart (.initial c) p)
    {newer older : List PlayerOwnershipLease} {lease : PlayerOwnershipLease}
    (hclaim : p.state.ownership.claims = newer ++ lease :: older) :
    ∃ q q', Pool.Run coordinatorProgram NoStart (.initial c) q ∧
      Pool.Move coordinatorProgram NoStart q q' ∧ Pool.Run coordinatorProgram NoStart q' p ∧
      q.state.ownership.claims = older ∧ q'.state.ownership.claims = lease :: older ∧
      q'.state.ownership.current = lease ∧
      (q.state.exclusiveMediaResources → Handover q.state q'.state) := by
  induction hrun generalizing newer with
  | refl =>
    have hnone : c.ownership.claims = [] := by rw [hboot]; rfl
    rw [Pool.initial, hnone] at hclaim
    cases newer <;> cases hclaim
  | @tail r r' hrun hmove ih =>
    obtain ⟨label, hstep, hlabel⟩ := hmove
    obtain ⟨hpass, hsame | ⟨-, -, -, -, -, -, -, -, -, hgrant⟩⟩ :=
      handover_step (sat_of_noStart hboot hrun) hstep hlabel
    · rw [hsame] at hclaim
      obtain ⟨q, q', hq, hmove, hq', h⟩ := ih hclaim
      exact ⟨q, q', hq, hmove, hq'.tail ⟨label, hstep, hlabel⟩, h⟩
    rw [hgrant] at hclaim
    cases newer with
    | nil =>
      rw [List.nil_append, List.cons.injEq] at hclaim
      obtain ⟨hlease, holder⟩ := hclaim
      refine ⟨r, r', hrun, ⟨label, hstep, hlabel⟩, Relation.ReflTransGen.refl, holder, ?_, hlease,
        hpass⟩
      rw [hgrant, hlease, holder]
    | cons newest newer =>
      rw [List.cons_append, List.cons.injEq] at hclaim
      obtain ⟨q, q', hq, hmove, hq', h⟩ := ih hclaim.2
      exact ⟨q, q', hq, hmove, hq'.tail ⟨label, hstep, hlabel⟩, h⟩

end Handover

/-- **The hand-over.**  In every run without another start: with exclusive resources no move
gives the player from one family to another; only a section of `media_begin` grants a lease,
to its own owner; and a `media_begin` that has succeeded returns a lease that was granted
during the call, at a moment when the player, if its resources are exclusive, was free or
belonged to the same family. -/
theorem mediaBegin_handover {c : ProtocolCoordinator} {p : CoordinatorPool}
    (hboot : c.ownership = .initial) (hrun : Pool.Run coordinatorProgram NoStart (.initial c) p) :
    (∀ label p', p.step coordinatorProgram label = some p' → NoStart p label p' →
      (p.state.exclusiveMediaResources = true → Handover p.state p'.state) ∧
        (p'.state.ownership.claims = p.state.ownership.claims ∨
          ∃ id answer call owner token, label = .run id answer ∧ p.calls id = some call ∧
            call.request = .mediaBegin owner token ∧ p'.state.ownership.current.owner = owner ∧
            p'.state.ownership.claims = p'.state.ownership.current :: p.state.ownership.claims)) ∧
      ∀ id call transaction, p.calls id = some call →
        call.rest = .done (.transaction (some transaction)) →
        ∃ q q', Pool.Run coordinatorProgram NoStart (.initial c) q ∧
          Pool.Move coordinatorProgram NoStart q q' ∧ Pool.Run coordinatorProgram NoStart q' p ∧
          call.start.ownership.claims <:+ q.state.ownership.claims ∧
          q'.state.ownership.claims = transaction.lease :: q.state.ownership.claims ∧
          q'.state.ownership.current = transaction.lease ∧
          (q.state.exclusiveMediaResources = true →
            q.state.ownership.current.owner = .none ∨
              resourceModeForOwner q.state.ownership.current.owner =
                resourceModeForOwner transaction.lease.owner) := by
  have hsat := sat_of_noStart hboot hrun
  refine ⟨fun label p' hstep hlabel => handover_step hsat hstep hlabel, ?_⟩
  intro id call transaction hcall hdone
  obtain ⟨-, t, hlocked, hpost⟩ := hsat.post_of_done hcall hdone
  obtain ⟨recent, hrecent, hmem⟩ := (hpost.begins transaction rfl).of_extends hlocked
  have howner := (PlayerOwnership.Sound.valid hsat.always transaction.lease
    (hrecent ▸ List.mem_append_left _ hmem)).1
  -- the claims split at the lease, and one move put it there
  obtain ⟨newer, older, rfl⟩ := List.append_of_mem hmem
  rw [List.append_assoc, List.cons_append] at hrecent
  obtain ⟨q, q', hq, hmove, hq', hclaims, hclaims', hcurrent, hhandover⟩ :=
    granted_of_claims hboot hrun hrecent
  refine ⟨q, q', hq, hmove, hq', ?_, hclaims ▸ hclaims', hcurrent, fun hexclusive => ?_⟩
  · exact hclaims ▸ List.suffix_append older _
  rcases hhandover hexclusive with hnone | hnone | hsame
  · exact .inl hnone
  · rw [hcurrent] at hnone
    exact absurd hnone howner
  · exact .inr (hcurrent ▸ hsame)

/-- A coordinator with exclusive resources, once it has started. -/
def ProtocolCoordinator.exclusive : ProtocolCoordinator :=
  .started ⟨fun _ => true, true, .mediaOwnership⟩ true false

/-- A claim, and a begin of another family, which is refused. -/
def refusedMoves : List (Label CoordinatorRequest) :=
  callMoves 0 (.mediaBegin .dlna 7) 12 ++ callMoves 1 (.mediaBegin .iptv 9) 8

lemma refused_run :
    ((Pool.initial exclusive).steps coordinatorProgram refusedMoves).map (fun p =>
      (p.state.ownership.claims, (p.calls 0).map (·.rest.result),
        (p.calls 1).map (·.rest.result))) =
      some ([⟨.dlna, 7, 1⟩],
        some (some (.transaction (some ⟨true, ⟨.dlna, 7, 1⟩, .zero⟩))),
        some (some (.transaction none))) := by
  decide +kernel

theorem mediaBegin_handover_refused :
    ∃ p q q', (Pool.initial exclusive).steps coordinatorProgram refusedMoves = some p ∧
      (p.calls 1).map (·.rest.result) = some (some (.transaction none)) ∧
      Pool.Move coordinatorProgram NoStart q q' ∧ Pool.Run coordinatorProgram NoStart q' p ∧
      q'.state.ownership.current = ⟨.dlna, 7, 1⟩ ∧
      (q.state.exclusiveMediaResources = true →
        q.state.ownership.current.owner = .none ∨
          resourceModeForOwner q.state.ownership.current.owner = .dlnaExclusive) := by
  obtain ⟨p, hsteps, hfacts⟩ := Option.map_eq_some_iff.mp refused_run
  simp only [Prod.mk.injEq, Option.map_eq_some_iff] at hfacts
  obtain ⟨-, ⟨call, hcall, hresult⟩, ⟨refused, hcall', hrefused⟩⟩ := hfacts
  have hrun : Pool.Run coordinatorProgram NoStart (.initial exclusive) p := by
    have hcalls : ∀ label ∈ refusedMoves, ∀ id config a b, label ≠ .call id (.start config a b) := by
      intro label hmem id config a b hlabel
      subst hlabel
      simp [refusedMoves, callMoves] at hmem
    exact Pool.Run.of_steps hsteps hcalls
  obtain ⟨-, hbegin⟩ := mediaBegin_handover rfl hrun
  obtain ⟨q, q', -, hmove, hq', -, -, hcurrent, hfree⟩ :=
    hbegin 0 call _ hcall (Thread.eq_done_of_result hresult)
  exact ⟨p, q, q', hsteps, by rw [hcall', Option.map_some, hrefused], hmove, hq', hcurrent, hfree⟩

end NXCast

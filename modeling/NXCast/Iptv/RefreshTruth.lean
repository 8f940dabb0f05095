import NXCast.Iptv.RefreshWorker

/-!
# The truth of the refresh flag

`g_refreshing` over all runs of the worker, of the threads that ask for a refresh and of the suspension.
The worker decides at `job_finished` from the suspension as it is then, not as it was when it cut the
refresh short; and the request that a suspension puts back may take the place of another.  `Undisturbed`
says of a step that neither happens; `refresh_flag_truth` shows that this is exactly what keeps the flag
true and every accepted refresh queued or under way.
-/

namespace NXCast

open IptvWorker

/-- The refresh job that the worker has and that is not finished. -/
def IptvWorker.pending : IptvWorker → Option RefreshJob
  | waiting => none
  | snapshot job | nextSource job _ | refreshing job _ | finding job _ | checking job _
  | refreshingOne job | rebuilding job | finishing job _ => some job
  | logo job done | caching job done | finished job done => if done then none else some job

namespace IptvRefresh

variable (iptv : IptvRefresh)

/-- A refresh is queued. -/
def Requested : Prop := iptv.refreshAllRequested = true ∨ iptv.refreshSourceRequested ≠ none

/-- The flag is false when the worker waits and nothing is queued. -/
def FlagTrue : Prop := iptv.worker = .waiting → ¬iptv.Requested → iptv.refreshing = false

/-- What was accepted and is not finished is queued or under way. -/
def NothingLost : Prop :=
  ∀ request ∈ iptv.accepted,
    refreshCovers iptv.refreshAllRequested iptv.refreshSourceRequested request = true ∨
      ∃ job, iptv.worker.pending = some job ∧ job.covers request = true

/-- A request for the source would take the place of one that was accepted for another. -/
def Overwrites (id : SourceId) : Prop :=
  iptv.refreshAllRequested = false ∧ ∃ old, iptv.refreshSourceRequested = some old ∧ old ≠ id ∧
    .source old ∈ iptv.accepted

/-- A refresh that was cut short comes to its end while the network is still suspended. -/
def Uncut : RefreshStep → Prop
  | .jobFinished => ∀ job, iptv.worker = .finished job false → iptv.backgroundSuspended = true
  | _ => True

/-- The step cuts no refresh off and puts no request in another's place. -/
def Undisturbed : RefreshStep → Prop
  | .jobFinished => iptv.Uncut .jobFinished ∧ ∀ job done id, iptv.worker = .finished job done →
      iptv.backgroundSuspended = true → job.refreshAll = false → job.refreshSource = some id →
      ¬iptv.Overwrites id
  | .refreshSelectedSourceAsync => iptv.workerStarted = true → iptv.refreshing = false →
      iptv.backgroundSuspended = false → ∀ id, iptv.sources[iptv.sourceSelectedIndex]? = some id →
      ¬iptv.Overwrites id
  | _ => True

lemma Undisturbed.uncut {iptv : IptvRefresh} {step : RefreshStep} (h : iptv.Undisturbed step) :
    iptv.Uncut step := by
  cases step with
  | jobFinished => exact h.1
  | _ => trivial

/-! ## What the steps keep -/

/-- What every run keeps of the flag. -/
structure FlagKept : Prop where
  idle : iptv.workerStarted = false → iptv.worker = .waiting ∧ iptv.refreshing = false ∧
    ¬iptv.Requested ∧ iptv.logoRequested = false
  busy : ∀ job, iptv.worker.pending = some job → iptv.refreshing = true ∧ ¬iptv.Requested
  flag : iptv.refreshing = true → iptv.Requested ∨ iptv.worker.pending ≠ none

variable {iptv} {next : IptvRefresh}

/-- A step that moves no request. -/
structure Same (iptv next : IptvRefresh) : Prop where
  started : next.workerStarted = iptv.workerStarted
  all : next.refreshAllRequested = iptv.refreshAllRequested
  source : next.refreshSourceRequested = iptv.refreshSourceRequested
  refreshing : next.refreshing = iptv.refreshing
  accepted : next.accepted = iptv.accepted
  pending : next.worker.pending = iptv.worker.pending
  idle : iptv.workerStarted = false → iptv.worker = .waiting → iptv.logoRequested = false →
    next.worker = .waiting ∧ next.logoRequested = false

lemma Same.flagKept (h : iptv.Same next) (hkept : iptv.FlagKept) : next.FlagKept := by
  have hasked : next.Requested ↔ iptv.Requested := by
    unfold Requested
    rw [h.all, h.source]
  refine ⟨fun hstart => ?_, fun job hjob => ?_, fun hflag => ?_⟩
  · rw [h.started] at hstart
    obtain ⟨hwork, hrefr, hnone, hlogo⟩ := hkept.idle hstart
    obtain ⟨hwork', hlogo'⟩ := h.idle hstart hwork hlogo
    exact ⟨hwork', h.refreshing.trans hrefr, mt hasked.mp hnone, hlogo'⟩
  · rw [h.pending] at hjob
    obtain ⟨hrefr, hnone⟩ := hkept.busy job hjob
    exact ⟨h.refreshing.trans hrefr, mt hasked.mp hnone⟩
  · rw [h.pending]
    exact (hkept.flag (h.refreshing.symm.trans hflag)).imp hasked.mpr id

lemma Same.nothingLost (h : iptv.Same next) (hkept : iptv.NothingLost) : next.NothingLost := by
  unfold NothingLost
  rw [h.accepted, h.all, h.source, h.pending]
  exact hkept

lemma Same.refl (iptv : IptvRefresh) : iptv.Same iptv :=
  ⟨rfl, rfl, rfl, rfl, rfl, rfl, fun _ hwork hlogo => ⟨hwork, hlogo⟩⟩

lemma same_queueSelectedLogoLocked (logo : Bool) : iptv.Same (iptv.queueSelectedLogoLocked logo) := by
  unfold queueSelectedLogoLocked
  split_ifs with hstart
  · refine ⟨rfl, rfl, rfl, rfl, rfl, rfl, fun hnot => ?_⟩
    rw [hstart.1] at hnot
    cases hnot
  · exact .refl iptv

lemma same_commitCatalog (sources : List SourceId) (selected : ℕ) (logo : Bool) :
    iptv.Same (iptv.commitCatalog sources selected logo) := by
  have hlogo : Same { iptv with sources, sourceSelectedIndex := selected } _ :=
    same_queueSelectedLogoLocked logo
  obtain ⟨hstart, hall, hsrc, hrefr, hacc, hpend, hidle⟩ := hlogo
  exact ⟨hstart, hall, hsrc, hrefr, hacc, hpend, hidle⟩

/-- The steps that move no request: all but the requests, the worker's taking, finishing and ending of a
job, and the start. -/
def Moves : RefreshStep → Bool
  | .start .. | .refreshSelectedSourceAsync | .refreshAllAsync | .take | .finish | .jobFinished => true
  | _ => false

lemma same_of_worker {worker : IptvWorker} {id : Option SourceId} (hbusy : iptv.worker ≠ .waiting)
    (hpend : worker.pending = iptv.worker.pending) :
    iptv.Same { iptv with worker, refreshingSourceId := id } :=
  ⟨rfl, rfl, rfl, rfl, rfl, hpend, fun _ hwait => absurd hwait hbusy⟩

lemma same_step (step : RefreshStep) (h : Moves step = false) : iptv.Same (refreshStep iptv step) := by
  cases step with
  | start | refreshSelectedSourceAsync | refreshAllAsync | take | finish | jobFinished =>
    cases h
  | setBackgroundSuspended suspended =>
    exact ⟨rfl, rfl, rfl, rfl, rfl, rfl, fun _ hwork hlogo => ⟨hwork, hlogo⟩⟩
  | queueSelectedLogo logo => exact same_queueSelectedLogoLocked logo
  | commitCatalog sources selected logo => exact same_commitCatalog sources selected logo
  | refreshAllCheck =>
    unfold refreshStep refreshAllCheck
    dsimp only
    split
    · exact ⟨rfl, rfl, rfl, rfl, rfl, rfl, fun _ hwork hlogo => ⟨hwork, hlogo⟩⟩
    · exact .refl iptv
  | reloaded sources selected ok logo =>
    unfold refreshStep reloaded
    dsimp only
    split
    · exact .refl iptv
    split
    · have hcatalog : iptv.Same (iptv.commitCatalog sources selected logo) :=
        same_commitCatalog sources selected logo
      obtain ⟨hstart, hall, hsrc, hrefr, hacc, hpend, hidle⟩ := hcatalog
      exact ⟨hstart, hall, hsrc, hrefr, hacc, hpend, hidle⟩
    · exact ⟨rfl, rfl, rfl, rfl, rfl, rfl, fun _ hwork hlogo => ⟨hwork, hlogo⟩⟩
  | snapshot memory =>
    unfold refreshStep snapshot
    dsimp only
    split
    · rename_i job hwork
      refine same_of_worker (by rw [hwork]; exact nofun) ?_
      rw [hwork]
      split <;> rfl
    · exact .refl iptv
  | nextSource =>
    unfold refreshStep nextSource
    dsimp only
    split
    · rename_i job hwork
      exact same_of_worker (by rw [hwork]; exact nofun) (by rw [hwork]; rfl)
    · rename_i job id sources hwork
      split
      all_goals exact same_of_worker (by rw [hwork]; exact nofun) (by rw [hwork]; rfl)
    · exact .refl iptv
  | refreshed =>
    unfold refreshStep refreshed
    dsimp only
    split
    · rename_i job sources hwork
      refine same_of_worker (by rw [hwork]; exact nofun) ?_
      rw [hwork]
      split <;> rfl
    · rename_i job hwork
      refine same_of_worker (by rw [hwork]; exact nofun) ?_
      rw [hwork]
      split <;> rfl
    · exact .refl iptv
  | findSourceCopy =>
    unfold refreshStep findSourceCopy
    dsimp only
    split
    · rename_i job id hwork
      refine same_of_worker (by rw [hwork]; exact nofun) ?_
      rw [hwork]
      split <;> rfl
    · exact .refl iptv
  | checkSource =>
    unfold refreshStep checkSource
    dsimp only
    split
    · rename_i job id hwork
      split
      all_goals exact same_of_worker (by rw [hwork]; exact nofun) (by rw [hwork]; rfl)
    · exact .refl iptv
  | rebuilt sources selected ok logo =>
    unfold refreshStep rebuilt
    dsimp only
    split
    · rename_i job hwork
      have hcatalog : iptv.Same (if ok then iptv.commitCatalog sources selected logo else iptv) := by
        split
        · exact same_commitCatalog sources selected logo
        · exact .refl iptv
      obtain ⟨hstart, hall, hsrc, hrefr, hacc, -, -⟩ := hcatalog
      refine ⟨hstart, hall, hsrc, hrefr, hacc, by rw [hwork]; rfl, fun _ hwait => ?_⟩
      rw [hwork] at hwait
      cases hwait
    · exact .refl iptv
  | logo =>
    unfold refreshStep IptvRefresh.logo
    dsimp only
    split
    · rename_i job done hwork
      refine same_of_worker (by rw [hwork]; exact nofun) ?_
      rw [hwork]
      split <;> rfl
    · exact .refl iptv
  | cached =>
    unfold refreshStep cached
    dsimp only
    split
    · rename_i job done hwork
      exact same_of_worker (by rw [hwork]; exact nofun) (by rw [hwork]; rfl)
    · exact .refl iptv

/-! ## The steps that move a request -/

section

variable (h : iptv.FlagKept)

include h

lemma FlagKept.start (preinstalled logo : Bool) : (iptv.start preinstalled logo).FlagKept := by
  unfold IptvRefresh.start
  split
  · exact h
  rename_i hstart
  obtain ⟨hwork, hrefr, hnone, -⟩ := h.idle (Bool.not_eq_true _ ▸ hstart)
  refine (same_queueSelectedLogoLocked logo).flagKept ?_
  split
  · refine ⟨by simp, fun job hjob => ?_, fun _ => .inl (.inl rfl)⟩
    simp [hwork, pending] at hjob
  · refine ⟨by simp, fun job hjob => ?_, fun hflag => ?_⟩
    · simp [hwork, pending] at hjob
    · simp [hrefr] at hflag

lemma FlagKept.pending_eq_none (hrefr : iptv.refreshing = false) : iptv.worker.pending = none := by
  cases hpend : iptv.worker.pending with
  | none => rfl
  | some job =>
    have hbusy := (h.busy job hpend).1
    rw [hrefr] at hbusy
    cases hbusy

lemma FlagKept.refreshSelectedSourceAsync : iptv.refreshSelectedSourceAsync.FlagKept := by
  unfold IptvRefresh.refreshSelectedSourceAsync
  split_ifs with hfree
  · exact h
  rw [not_or, not_or] at hfree
  have hnone := h.pending_eq_none (Bool.not_eq_true _ ▸ hfree.2.1)
  split
  · exact h
  · refine ⟨fun hstart => absurd hstart hfree.1, fun job hjob => ?_, fun _ => .inl (.inr (by simp))⟩
    simp [hnone] at hjob

lemma FlagKept.refreshAllAsync : iptv.refreshAllAsync.FlagKept := by
  unfold IptvRefresh.refreshAllAsync
  split
  · exact h
  split_ifs with hfree
  · have hsame : iptv.Same { iptv with refreshAllCall := .idle } :=
      ⟨rfl, rfl, rfl, rfl, rfl, rfl, fun _ hwork hlogo => ⟨hwork, hlogo⟩⟩
    exact hsame.flagKept h
  · rw [not_or, not_or] at hfree
    have hnone := h.pending_eq_none (Bool.not_eq_true _ ▸ hfree.2.1)
    refine ⟨fun hstart => absurd hstart hfree.1, fun job hjob => ?_, fun _ => .inl (.inl rfl)⟩
    simp [hnone] at hjob

lemma FlagKept.take : iptv.take.FlagKept := by
  unfold IptvRefresh.take
  split
  · rename_i hwork
    split_ifs with hready
    · exact h
    rw [not_or] at hready
    have hflag := h.flag
    refine ⟨fun hstart => ?_, fun job hjob => ⟨?_, by simp [Requested]⟩, fun hrefr => ?_⟩
    · obtain ⟨-, -, hnone, hlogo⟩ := h.idle hstart
      unfold Requested at hnone
      rw [not_or, Bool.not_eq_true, not_not] at hnone
      exact absurd ⟨hnone.1, hnone.2, hlogo⟩ hready.2
    · cases hall : iptv.refreshAllRequested <;>
        cases hsrc : iptv.refreshSourceRequested <;>
        simp_all [pending, RefreshJob.isRefresh]
    · refine .inr ?_
      cases hall : iptv.refreshAllRequested <;>
        cases hsrc : iptv.refreshSourceRequested <;>
        simp_all [pending, RefreshJob.isRefresh, Requested]
  · exact h

lemma FlagKept.finish : iptv.finish.FlagKept := by
  unfold IptvRefresh.finish
  split
  · rename_i job failed hwork
    refine ⟨fun hstart => ?_, fun job hjob => ?_, fun hflag => absurd hflag nofun⟩
    · rw [(h.idle hstart).1] at hwork
      cases hwork
    · cases failed <;> simp [pending] at hjob
  · exact h

lemma FlagKept.jobFinished (huncut : iptv.Uncut .jobFinished) : iptv.jobFinished.FlagKept := by
  unfold IptvRefresh.jobFinished
  split
  · rename_i job done hwork
    have hstart : iptv.workerStarted ≠ false := by
      intro hstart
      rw [(h.idle hstart).1] at hwork
      cases hwork
    split
    · exact ⟨fun hnot => absurd hnot hstart, nofun, nofun⟩
    rename_i hsusp
    have hdone : done := by
      cases done with
      | true => rfl
      | false => exact absurd (huncut job hwork) hsusp
    have hflag := h.flag
    rw [hwork, hdone] at hflag
    exact ⟨fun hnot => absurd hnot hstart, nofun, hflag⟩
  · exact h

/-- **Every step that cuts no refresh off keeps the flag.** -/
lemma FlagKept.step (step : RefreshStep) (huncut : iptv.Uncut step) :
    (refreshStep iptv step).FlagKept := by
  by_cases hmoves : Moves step = false
  · exact (same_step step hmoves).flagKept h
  cases step with
  | start preinstalled logo => exact h.start preinstalled logo
  | refreshSelectedSourceAsync => exact h.refreshSelectedSourceAsync
  | refreshAllAsync => exact h.refreshAllAsync
  | take => exact h.take
  | finish => exact h.finish
  | jobFinished => exact h.jobFinished huncut
  | _ => exact absurd rfl hmoves

lemma FlagKept.flagTrue : iptv.FlagTrue := by
  intro hwork hnone
  cases hflag : iptv.refreshing with
  | false => rfl
  | true =>
    rcases h.flag hflag with hasked | hpend
    · exact absurd hasked hnone
    · rw [hwork] at hpend
      exact absurd rfl hpend

end

/-! ## Accepted refreshes -/

lemma covers_all {refreshSource : Option SourceId} (request : RefreshRequest) :
    refreshCovers true refreshSource request := by
  cases request <;> rfl

section

variable (h : iptv.NothingLost)

include h

lemma NothingLost.of_more (hacc : ∀ request ∈ next.accepted, request ∈ iptv.accepted ∨ refreshCovers next.refreshAllRequested next.refreshSourceRequested request)
    (hq : ∀ request ∈ iptv.accepted, refreshCovers iptv.refreshAllRequested iptv.refreshSourceRequested request → refreshCovers next.refreshAllRequested next.refreshSourceRequested request)
    (hpend : next.worker.pending = iptv.worker.pending) : next.NothingLost := by
  intro request hreq
  rcases hacc request hreq with hold | hnew
  · rw [hpend]
    exact (h request hold).imp_left (hq request hold)
  · exact .inl hnew

lemma NothingLost.start (preinstalled logo : Bool) :
    (iptv.start preinstalled logo).NothingLost := by
  unfold IptvRefresh.start
  split
  · exact h
  refine (same_queueSelectedLogoLocked logo).nothingLost ?_
  split
  · exact h.of_more (fun request _ => .inr (covers_all request))
      (fun request _ _ => covers_all request) rfl
  · exact h

lemma NothingLost.refreshSelectedSourceAsync (hcalm : iptv.Undisturbed .refreshSelectedSourceAsync) :
    iptv.refreshSelectedSourceAsync.NothingLost := by
  unfold IptvRefresh.refreshSelectedSourceAsync
  split_ifs with hfree
  · exact h
  rw [not_or, not_or, Bool.not_eq_false, Bool.not_eq_true, Bool.not_eq_true] at hfree
  split
  · exact h
  rename_i id hid
  have hkept := hcalm hfree.1 hfree.2.1 hfree.2.2 id hid
  refine h.of_more (fun request hreq => ?_) (fun request hreq hcov => ?_) rfl
  · rcases List.mem_cons.mp hreq with rfl | hold
    · exact .inr (by simp [refreshCovers])
    · exact .inl hold
  cases request with
  | all => exact hcov
  | source other =>
    simp only [refreshCovers, Bool.or_eq_true, decide_eq_true_eq] at hcov ⊢
    rcases hcov with hall | hsrc
    · exact .inl hall
    by_cases hsame : other = id
    · exact .inr (congrArg some hsame.symm)
    by_cases hall : iptv.refreshAllRequested = true
    · exact .inl hall
    · exact absurd ⟨Bool.not_eq_true _ ▸ hall, other, hsrc, hsame, hreq⟩ hkept

lemma NothingLost.refreshAllAsync : iptv.refreshAllAsync.NothingLost := by
  unfold IptvRefresh.refreshAllAsync
  split
  · exact h
  split
  · exact h
  · exact h.of_more (fun request _ => .inr (covers_all request))
      (fun request _ _ => covers_all request) rfl

lemma NothingLost.take : iptv.take.NothingLost := by
  unfold IptvRefresh.take
  split
  · rename_i hwork
    split
    · exact h
    intro request hreq
    have hcov := (h request hreq).resolve_right (by
      rw [hwork]
      rintro ⟨job, hjob, -⟩
      exact nomatch hjob)
    refine .inr ⟨⟨iptv.refreshAllRequested, iptv.refreshSourceRequested, iptv.logoRequested⟩, ?_,
      hcov⟩
    cases hall : iptv.refreshAllRequested with
    | true => rfl
    | false =>
      cases hsrc : iptv.refreshSourceRequested with
      | some id => rfl
      | none =>
        rw [hall, hsrc] at hcov
        cases request <;> cases hcov
  · exact h

lemma NothingLost.finish : iptv.finish.NothingLost := by
  unfold IptvRefresh.finish
  split
  · rename_i job failed hwork
    intro request hreq
    obtain ⟨hold, hnot⟩ := List.mem_filter.mp hreq
    refine .inl ((h request hold).resolve_right ?_)
    rw [hwork]
    rintro ⟨found, hfound, hcov⟩
    obtain rfl : job = found := Option.some.inj hfound
    rw [hcov] at hnot
    cases hnot
  · exact h

lemma NothingLost.jobFinished (hcalm : iptv.Undisturbed .jobFinished) :
    iptv.jobFinished.NothingLost := by
  obtain ⟨huncut, hkept⟩ := hcalm
  unfold IptvRefresh.jobFinished
  split
  · rename_i job done hwork
    split
    · rename_i hsusp
      intro request hreq
      refine .inl ?_
      have hq : refreshCovers iptv.refreshAllRequested iptv.refreshSourceRequested request →
          refreshCovers (job.refreshAll || iptv.refreshAllRequested)
            (if job.refreshAll then iptv.refreshSourceRequested
              else job.refreshSource.or iptv.refreshSourceRequested) request := by
        intro hcov
        cases hall : job.refreshAll with
        | true => exact covers_all request
        | false =>
          cases hsrc : job.refreshSource with
          | none => exact hcov
          | some id =>
            have hover := hkept job done id hwork hsusp hall hsrc
            cases request with
            | all => exact hcov
            | source other =>
              simp only [refreshCovers, Bool.or_eq_true, decide_eq_true_eq] at hcov ⊢
              by_cases hevery : iptv.refreshAllRequested = true
              · exact .inl (.inr hevery)
              have hother := hcov.resolve_left hevery
              by_cases hsame : other = id
              · exact .inr (by simp [hsame])
              · exact absurd ⟨Bool.not_eq_true _ ▸ hevery, other, hother, hsame, hreq⟩ hover
      rcases h request hreq with hcov | ⟨found, hfound, hcov⟩
      · exact hq hcov
      obtain rfl : job = found := by
        rw [hwork] at hfound
        cases done with
        | true => cases hfound
        | false => exact Option.some.inj hfound
      cases hall : job.refreshAll with
      | true => exact covers_all request
      | false =>
        unfold RefreshJob.covers at hcov
        rw [hall] at hcov
        cases request with
        | all => cases hcov
        | source other =>
          simp only [refreshCovers, Bool.false_or, decide_eq_true_eq] at hcov
          simp [refreshCovers, hcov]
    · rename_i hsusp
      intro request hreq
      refine .inl ((h request hreq).resolve_right ?_)
      rw [hwork]
      rintro ⟨found, hfound, -⟩
      cases done with
      | true => cases hfound
      | false => exact absurd (huncut job hwork) hsusp
  · exact h

/-- **Every undisturbed step loses no refresh.** -/
lemma NothingLost.step (step : RefreshStep) (hcalm : iptv.Undisturbed step) :
    (refreshStep iptv step).NothingLost := by
  by_cases hmoves : Moves step = false
  · exact (same_step step hmoves).nothingLost h
  cases step with
  | start preinstalled logo => exact h.start preinstalled logo
  | refreshSelectedSourceAsync => exact h.refreshSelectedSourceAsync hcalm
  | refreshAllAsync => exact h.refreshAllAsync
  | take => exact h.take
  | finish => exact h.finish
  | jobFinished => exact h.jobFinished hcalm
  | _ => exact absurd rfl hmoves

end

/-! ## Main results -/

lemma FlagKept.not_flagTrue (h : iptv.FlagKept) {job : RefreshJob}
    (hwork : iptv.worker = .finished job false) (hsusp : iptv.backgroundSuspended = false) :
    ¬iptv.jobFinished.FlagTrue := by
  obtain ⟨hrefr, hnone⟩ := h.busy job (by rw [hwork]; rfl)
  have hnext : iptv.jobFinished = { iptv with workerBusy := false, worker := .waiting } := by
    simp [IptvRefresh.jobFinished, hwork, hsusp]
  rw [hnext]
  intro htrue
  have hflag : iptv.refreshing = false := htrue rfl hnone
  rw [hrefr] at hflag
  cases hflag

lemma lost_of_overwrites {id : SourceId} (h : iptv.Overwrites id)
    (hall : next.refreshAllRequested = false) (hsrc : next.refreshSourceRequested = some id)
    (hacc : ∀ request ∈ iptv.accepted, request ∈ next.accepted)
    (hpend : next.worker.pending = none) : ¬next.NothingLost := by
  obtain ⟨-, old, -, hne, hmem⟩ := h
  intro hkept
  rcases hkept _ (hacc _ hmem) with hcov | ⟨job, hjob, -⟩
  · rw [hall, hsrc] at hcov
    simp only [refreshCovers, Bool.false_or, decide_eq_true_eq] at hcov
    exact hne (Option.some.inj hcov).symm
  · rw [hpend] at hjob
    cases hjob

/-- **A step that is not undisturbed** falsifies the flag or loses a refresh. -/
lemma FlagKept.disturbed (h : iptv.FlagKept) (step : RefreshStep)
    (htrue : (refreshStep iptv step).FlagTrue) (hkept : (refreshStep iptv step).NothingLost) :
    iptv.Undisturbed step := by
  cases step with
  | jobFinished =>
    refine ⟨fun job hwork => ?_, fun job done id hwork hsusp hall hsrc hover => ?_⟩
    · cases hsusp : iptv.backgroundSuspended with
      | true => rfl
      | false => exact absurd htrue (h.not_flagTrue hwork hsusp)
    refine lost_of_overwrites hover ?_ ?_ ?_ ?_ hkept
    · simp [refreshStep, IptvRefresh.jobFinished, hwork, hsusp, hall, hover.1]
    · simp [refreshStep, IptvRefresh.jobFinished, hwork, hsusp, hall, hsrc]
    · simp [refreshStep, IptvRefresh.jobFinished, hwork, hsusp]
    · simp [refreshStep, IptvRefresh.jobFinished, hwork, hsusp, pending]
  | refreshSelectedSourceAsync =>
    intro hstart hrefr hsusp id hid hover
    have hnone := h.pending_eq_none hrefr
    refine lost_of_overwrites hover ?_ ?_ ?_ ?_ hkept
    · simp [refreshStep, IptvRefresh.refreshSelectedSourceAsync, hstart, hrefr, hsusp, hid, hover.1]
    · simp [refreshStep, IptvRefresh.refreshSelectedSourceAsync, hstart, hrefr, hsusp, hid]
    · intro request hreq
      simp [refreshStep, IptvRefresh.refreshSelectedSourceAsync, hstart, hrefr, hsusp, hid, hreq]
    · simp [refreshStep, IptvRefresh.refreshSelectedSourceAsync, hstart, hrefr, hsusp, hid, hnone]
  | _ => trivial

end IptvRefresh

open IptvRefresh

variable {suspended : Bool} {sources : List SourceId} {iptv : IptvRefresh}

lemma flagKept_initial (suspended : Bool) (sources : List SourceId) :
    (IptvRefresh.initial suspended sources).FlagKept :=
  ⟨fun _ => ⟨rfl, rfl, by simp [Requested, IptvRefresh.initial], rfl⟩, nofun, nofun⟩

lemma flagKept_of_reachable (h : Runs.Reachable refreshStep (.initial suspended sources) Uncut iptv) :
    iptv.FlagKept :=
  h.invariant (flagKept_initial suspended sources) fun _ step hkept huncut => hkept.step step huncut

lemma nothingLost_of_reachable
    (h : Runs.Reachable refreshStep (.initial suspended sources) Undisturbed iptv) : iptv.NothingLost :=
  h.invariant (P := NothingLost) (fun _ hmem => absurd hmem List.not_mem_nil)
    fun _ step hkept hcalm => hkept.step step hcalm

/-- **When the refresh flag tells the truth.** In every run in which no refresh that a suspension cut short
comes to its end after the suspension was lifted, the flag is false whenever the worker waits and no refresh
is queued.  If besides no request is put into the place of one that was accepted for another source, every
accepted refresh stays queued or under way until it is finished; and a step at which either happens
falsifies the flag or loses a refresh. -/
theorem refresh_flag_truth (suspended : Bool) (sources : List SourceId) :
    (∀ iptv, Runs.Reachable refreshStep (.initial suspended sources) Uncut iptv → iptv.FlagTrue) ∧
      ∀ iptv, Runs.Reachable refreshStep (.initial suspended sources) Undisturbed iptv →
        (iptv.FlagTrue ∧ iptv.NothingLost) ∧
          ∀ step, ((refreshStep iptv step).FlagTrue ∧ (refreshStep iptv step).NothingLost) ↔
            iptv.Undisturbed step := by
  refine ⟨fun iptv h => (flagKept_of_reachable h).flagTrue, fun iptv h => ?_⟩
  have hflag := flagKept_of_reachable (h.mono fun _ _ => Undisturbed.uncut)
  have hkept := nothingLost_of_reachable h
  refine ⟨⟨hflag.flagTrue, hkept⟩, fun step => ⟨fun hnext => ?_, fun hundisturbed => ?_⟩⟩
  · exact hflag.disturbed step hnext.1 hnext.2
  · exact ⟨(hflag.step step hundisturbed.uncut).flagTrue, hkept.step step hundisturbed⟩

/-- A suspension that is lifted before the worker comes to the end of the refresh it cut short. -/
def liftedSuspension : List RefreshStep :=
  [.start false false, .refreshSelectedSourceAsync, .take, .findSourceCopy,
    .setBackgroundSuspended true, .checkSource, .setBackgroundSuspended false, .jobFinished]

/-- The worker waits, nothing is queued, and the flag stays up. -/
theorem refresh_flag_truth_lifted :
    ¬∀ suspended sources iptv,
      Runs.Reachable refreshStep (.initial suspended sources) (fun _ _ => True) iptv →
        iptv.FlagTrue ∧ iptv.NothingLost := by
  intro h
  have hreached : Runs.Reachable refreshStep (.initial false [⟨7, by decide⟩]) (fun _ _ => True)
      (Runs.run refreshStep (.initial false [⟨7, by decide⟩]) liftedSuspension) :=
    Runs.Reachable.start.run liftedSuspension
  have hflag := (h _ _ _ hreached).1
  have hdown := hflag rfl (by
    rintro (hall | hsource)
    · cases hall
    · exact hsource rfl)
  cases hdown

/-- A suspension that lasts until the worker has put the refresh back into the queue. -/
def keptSuspension : List RefreshStep :=
  [.start false false, .refreshSelectedSourceAsync, .take, .findSourceCopy,
    .setBackgroundSuspended true, .checkSource, .jobFinished, .setBackgroundSuspended false]

/-- The refresh is queued again and the flag is down until the worker takes it. -/
theorem refresh_flag_truth_kept :
    (Runs.run refreshStep (.initial false [⟨7, by decide⟩]) keptSuspension).FlagTrue ∧
      (Runs.run refreshStep (.initial false [⟨7, by decide⟩]) keptSuspension).NothingLost := by
  have hreached : Runs.Reachable refreshStep (.initial false [⟨7, by decide⟩]) Undisturbed
      (Runs.run refreshStep (.initial false [⟨7, by decide⟩]) keptSuspension) := by
    refine Runs.Reachable.start.along ?_
    refine ⟨trivial, ⟨fun _ _ _ id _ hover => ?_, ⟨trivial, ⟨trivial, ⟨trivial, ⟨trivial,
      ⟨⟨fun _ _ => rfl, fun _ _ id _ _ _ _ hover => ?_⟩, ⟨trivial, trivial⟩⟩⟩⟩⟩⟩⟩⟩
    all_goals
      obtain ⟨-, old, hold, -⟩ := hover
      cases hold
  exact ((refresh_flag_truth false [⟨7, by decide⟩]).2 _ hreached).1

end NXCast

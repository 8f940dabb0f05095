import NXCast.Framework.Runs

/-!
# The background worker of the IPTV module

`iptv.c`: the threads that ask for a refresh, the worker that takes the requests, and the suspension of
the background network.  Every section under `g_mutex` is one step, and so is every reading of
`g_background_suspended`, every refresh of a source's files and every rebuild of the catalog between two
sections; what a rebuild finds and what a fetch returns are answers.

An identifier is never zero, so zero is `none` here.  The worker's `done` says whether
`iptv_finish_refresh` was called for the job, and `accepted` are the refreshes that were accepted and not
yet finished: no step reads these.
-/

namespace NXCast

/-- A source's identifier, as `iptv_hash_string` makes it. -/
abbrev SourceId := { id : UInt32 // id ≠ 0 }

/-- A refresh that was asked for. -/
inductive RefreshRequest where
  | all
  | source (id : SourceId)
deriving DecidableEq

/-- What the worker takes at once. -/
structure RefreshJob where
  refreshAll : Bool
  refreshSource : Option SourceId
  cacheLogo : Bool
deriving DecidableEq

/-- The job refreshes something. -/
def RefreshJob.isRefresh (job : RefreshJob) : Bool := job.refreshAll || job.refreshSource.isSome

/-- Requests for all or for one source do what is asked for. -/
def refreshCovers (refreshAll : Bool) (refreshSource : Option SourceId) : RefreshRequest → Bool
  | .all => refreshAll
  | .source id => refreshAll || decide (refreshSource = some id)

/-- The job does what is asked for. -/
def RefreshJob.covers (job : RefreshJob) (request : RefreshRequest) : Bool :=
  refreshCovers job.refreshAll job.refreshSource request

/-- Where `iptv_worker` is: `nextSource` and `refreshing` are the loop over the sources, with those that
are left, `finding`, `checking` and `refreshingOne` the branch for one source, `finishing` is before
`iptv_finish_refresh`, from where a failed snapshot goes on to `job_finished`, and `finished` is before
the section at `job_finished`. -/
inductive IptvWorker where
  | waiting
  | snapshot (job : RefreshJob)
  | nextSource (job : RefreshJob) (sources : List SourceId)
  | refreshing (job : RefreshJob) (sources : List SourceId)
  | finding (job : RefreshJob) (id : SourceId)
  | checking (job : RefreshJob) (id : SourceId)
  | refreshingOne (job : RefreshJob)
  | rebuilding (job : RefreshJob)
  | finishing (job : RefreshJob) (failed : Bool)
  | logo (job : RefreshJob) (done : Bool)
  | caching (job : RefreshJob) (done : Bool)
  | finished (job : RefreshJob) (done : Bool)

/-- Where a call of `iptv_refresh_all_async` is. -/
inductive RefreshAllCall where
  | idle
  | reloading
  | queueing
deriving DecidableEq

/-- The variables of `iptv.c` that a refresh concerns, and the threads. -/
structure IptvRefresh where
  backgroundSuspended : Bool
  workerStarted : Bool
  refreshAllRequested : Bool
  refreshSourceRequested : Option SourceId
  logoRequested : Bool
  workerBusy : Bool
  refreshing : Bool
  refreshingSourceId : Option SourceId
  sources : List SourceId
  sourceSelectedIndex : ℕ
  worker : IptvWorker
  refreshAllCall : RefreshAllCall
  accepted : List RefreshRequest

/-- The module as `iptv_init` has it when the worker's thread is created. -/
def IptvRefresh.initial (suspended : Bool) (sources : List SourceId) : IptvRefresh :=
  { backgroundSuspended := suspended
    workerStarted := false
    refreshAllRequested := false
    refreshSourceRequested := none
    logoRequested := false
    workerBusy := false
    refreshing := false
    refreshingSourceId := none
    sources
    sourceSelectedIndex := 0
    worker := .waiting
    refreshAllCall := .idle
    accepted := [] }

namespace IptvRefresh

variable (iptv : IptvRefresh)

/-- `iptv_queue_selected_logo_locked`; `logo` says whether the selected channel has a logo to cache. -/
def queueSelectedLogoLocked (logo : Bool) : IptvRefresh :=
  if iptv.workerStarted ∧ iptv.backgroundSuspended = false ∧ logo then
    { iptv with logoRequested := true }
  else iptv

/-- `iptv_finish_refresh` -/
def finishRefresh : IptvRefresh := { iptv with refreshing := false, refreshingSourceId := none }

/-- `iptv_commit_catalog` puts another list of sources into place. -/
def commitCatalog (sources : List SourceId) (selected : ℕ) (logo : Bool) : IptvRefresh :=
  { iptv with sources, sourceSelectedIndex := selected }.queueSelectedLogoLocked logo

/-! ## The other threads -/

/-- The end of `iptv_init`; `preinstalled` is `g_preinstalled_refresh_needed`. -/
def start (preinstalled logo : Bool) : IptvRefresh :=
  if iptv.workerStarted then iptv
  else
    let iptv := { iptv with workerStarted := true }
    let iptv :=
      if preinstalled then
        { iptv with
          refreshing := true
          refreshAllRequested := true
          accepted := .all :: iptv.accepted }
      else iptv
    iptv.queueSelectedLogoLocked logo

/-- The exchange of `iptv_set_background_network_suspended`; its wait for the worker changes nothing. -/
def setBackgroundSuspended (suspended : Bool) : IptvRefresh :=
  { iptv with backgroundSuspended := suspended }

/-- `iptv_refresh_selected_source_async` -/
def refreshSelectedSourceAsync : IptvRefresh :=
  if iptv.workerStarted = false ∨ iptv.refreshing ∨ iptv.backgroundSuspended then iptv
  else
    match iptv.sources[iptv.sourceSelectedIndex]? with
    | none => iptv
    | some id =>
      { iptv with
        refreshing := true
        refreshSourceRequested := some id
        accepted := .source id :: iptv.accepted }

/-- The first section of `iptv_refresh_all_async`. -/
def refreshAllCheck : IptvRefresh :=
  if iptv.refreshAllCall = .idle ∧ iptv.workerStarted ∧ iptv.refreshing = false ∧
      iptv.backgroundSuspended = false then
    { iptv with refreshAllCall := .reloading }
  else iptv

/-- `iptv_reload` of `iptv_refresh_all_async`. -/
def reloaded (sources : List SourceId) (selected : ℕ) (ok logo : Bool) : IptvRefresh :=
  if iptv.refreshAllCall ≠ .reloading then iptv
  else if ok then
    { iptv.commitCatalog sources selected logo with refreshAllCall := .queueing }
  else { iptv with refreshAllCall := .idle }

/-- The second section of `iptv_refresh_all_async`. -/
def refreshAllAsync : IptvRefresh :=
  if iptv.refreshAllCall ≠ .queueing then iptv
  else if iptv.workerStarted = false ∨ iptv.refreshing ∨ iptv.sources = [] ∨
      iptv.backgroundSuspended then
    { iptv with refreshAllCall := .idle }
  else
    { iptv with
      refreshing := true
      refreshAllRequested := true
      refreshAllCall := .idle
      accepted := .all :: iptv.accepted }

/-! ## The worker -/

/-- The section at the top of the worker's loop, once it stops waiting. -/
def take : IptvRefresh :=
  match iptv.worker with
  | .waiting =>
    if iptv.backgroundSuspended ∨ (iptv.refreshAllRequested = false ∧
        iptv.refreshSourceRequested = none ∧ iptv.logoRequested = false) then iptv
    else
      let job : RefreshJob :=
        ⟨iptv.refreshAllRequested, iptv.refreshSourceRequested, iptv.logoRequested⟩
      { iptv with
        refreshAllRequested := false
        refreshSourceRequested := none
        logoRequested := false
        workerBusy := job.isRefresh || job.cacheLogo
        refreshing := iptv.refreshing || job.isRefresh
        worker :=
          if job.refreshAll then .snapshot job
          else
            match job.refreshSource with
            | some id => .finding job id
            | none => .logo job true }
  | _ => iptv

/-- The copy of the sources; `memory` says whether there is room for it. -/
def snapshot (memory : Bool) : IptvRefresh :=
  match iptv.worker with
  | .snapshot job =>
    { iptv with
      worker :=
        if iptv.sources = [] ∨ memory then .nextSource job iptv.sources else .finishing job true }
  | _ => iptv

/-- The section before a source is refreshed, or the end of the loop. -/
def nextSource : IptvRefresh :=
  match iptv.worker with
  | .nextSource job [] => { iptv with worker := .rebuilding job }
  | .nextSource job (id :: sources) =>
    if iptv.backgroundSuspended then { iptv with worker := .logo job false }
    else { iptv with refreshingSourceId := some id, worker := .refreshing job sources }
  | _ => iptv

/-- The reading behind `iptv_refresh_source_files`. -/
def refreshed : IptvRefresh :=
  match iptv.worker with
  | .refreshing job sources =>
    { iptv with
      worker := if iptv.backgroundSuspended then .logo job false else .nextSource job sources }
  | .refreshingOne job =>
    { iptv with
      worker := if iptv.backgroundSuspended then .logo job false else .rebuilding job }
  | _ => iptv

/-- `iptv_find_source_copy` -/
def findSourceCopy : IptvRefresh :=
  match iptv.worker with
  | .finding job id =>
    { iptv with
      worker := if id ∈ iptv.sources then .checking job id else .finishing job false }
  | _ => iptv

/-- The section before the one source is refreshed. -/
def checkSource : IptvRefresh :=
  match iptv.worker with
  | .checking job id =>
    if iptv.backgroundSuspended then { iptv with worker := .finished job false }
    else { iptv with refreshingSourceId := some id, worker := .refreshingOne job }
  | _ => iptv

/-- `iptv_rebuild_catalog` of the worker. -/
def rebuilt (sources : List SourceId) (selected : ℕ) (ok logo : Bool) : IptvRefresh :=
  match iptv.worker with
  | .rebuilding job =>
    { (if ok then iptv.commitCatalog sources selected logo else iptv) with
      worker := .finishing job false }
  | _ => iptv

/-- `iptv_finish_refresh` of the worker. -/
def finish : IptvRefresh :=
  match iptv.worker with
  | .finishing job failed =>
    { iptv.finishRefresh with
      worker := if failed then .finished job true else .logo job true
      accepted := iptv.accepted.filter fun request => !job.covers request }
  | _ => iptv

/-- The reading before a logo is cached. -/
def logo : IptvRefresh :=
  match iptv.worker with
  | .logo job done =>
    { iptv with
      worker :=
        if job.cacheLogo ∧ iptv.backgroundSuspended = false then .caching job done
        else .finished job done }
  | _ => iptv

/-- `iptv_cache_logo` -/
def cached : IptvRefresh :=
  match iptv.worker with
  | .caching job done => { iptv with worker := .finished job done }
  | _ => iptv

/-- The section at `job_finished`. -/
def jobFinished : IptvRefresh :=
  match iptv.worker with
  | .finished job _ =>
    let iptv :=
      if iptv.backgroundSuspended then
        { iptv with
          refreshAllRequested := job.refreshAll || iptv.refreshAllRequested
          refreshSourceRequested :=
            if job.refreshAll then iptv.refreshSourceRequested
            else job.refreshSource.or iptv.refreshSourceRequested
          logoRequested := job.cacheLogo || iptv.logoRequested
          refreshing := false
          refreshingSourceId := none }
      else iptv
    { iptv with workerBusy := false, worker := .waiting }
  | _ => iptv

end IptvRefresh

/-- A step of some thread. -/
inductive RefreshStep where
  | start (preinstalled logo : Bool)
  | setBackgroundSuspended (suspended : Bool)
  | queueSelectedLogo (logo : Bool)
  | commitCatalog (sources : List SourceId) (selected : ℕ) (logo : Bool)
  | refreshSelectedSourceAsync
  | refreshAllCheck
  | reloaded (sources : List SourceId) (selected : ℕ) (ok logo : Bool)
  | refreshAllAsync
  | take
  | snapshot (memory : Bool)
  | nextSource
  | refreshed
  | findSourceCopy
  | checkSource
  | rebuilt (sources : List SourceId) (selected : ℕ) (ok logo : Bool)
  | finish
  | logo
  | cached
  | jobFinished

/-- What a step does; one that its thread cannot take does nothing.  `queueSelectedLogo` and
`commitCatalog` are the callers of these outside the worker: a resume, a selection, an edit of the
sources, a reload. -/
def refreshStep (iptv : IptvRefresh) : RefreshStep → IptvRefresh
  | .start preinstalled logo => iptv.start preinstalled logo
  | .setBackgroundSuspended suspended => iptv.setBackgroundSuspended suspended
  | .queueSelectedLogo logo => iptv.queueSelectedLogoLocked logo
  | .commitCatalog sources selected logo => iptv.commitCatalog sources selected logo
  | .refreshSelectedSourceAsync => iptv.refreshSelectedSourceAsync
  | .refreshAllCheck => iptv.refreshAllCheck
  | .reloaded sources selected ok logo => iptv.reloaded sources selected ok logo
  | .refreshAllAsync => iptv.refreshAllAsync
  | .take => iptv.take
  | .snapshot memory => iptv.snapshot memory
  | .nextSource => iptv.nextSource
  | .refreshed => iptv.refreshed
  | .findSourceCopy => iptv.findSourceCopy
  | .checkSource => iptv.checkSource
  | .rebuilt sources selected ok logo => iptv.rebuilt sources selected ok logo
  | .finish => iptv.finish
  | .logo => iptv.logo
  | .cached => iptv.cached
  | .jobFinished => iptv.jobFinished

end NXCast

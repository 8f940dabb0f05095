import NXCast.Iptv.SourceFile

/-!
# Edits of the sources and builds of the catalog

`iptv.c`: the main thread adds a source, sets a guide, removes a source and reloads, while the worker
rebuilds the catalog behind a refresh.  Every section under `g_mutex` is one step, and so is each file that
a build reads or saves.  A build holds `g_catalog_mutex`, which no edit takes: it reads `sources.tsv`,
merges `sources.txt`, saves what the merge changed and puts its list into place at its end.

An edit stands from the section that makes it until a later one of the same source takes its place;
`standing` are these edits, and no step reads them.  A save that fails leaves its file.
-/

namespace NXCast

/-! ## Data -/

/-- An edit that was made. -/
inductive SourceEdit where
  | added (id : SourceId) (url : List UInt8)
  | guide (id : SourceId) (url epgUrl : List UInt8)
  | removed (url : List UInt8)
deriving DecidableEq

/-- The later edit takes the place of the earlier one. -/
def SourceEdit.replaces : SourceEdit → SourceEdit → Bool
  | .added _ url, .removed earlier => sameText url earlier
  | .guide id url _, .guide id' url' _ => decide (id = id' ∧ url = url')
  | .removed url, .added _ earlier | .removed url, .guide _ earlier _ => sameText earlier url
  | _, _ => false

/-- What `iptv_catalog_build` does next. -/
inductive BuildStage where
  | reading
  | merging
  | saving
  | collecting
  | committing
deriving DecidableEq

/-- The build under `g_catalog_mutex`, by the worker or by the main thread. -/
structure CatalogBuild where
  byWorker : Bool
  sources : List Source
  stage : BuildStage

/-- What the main thread does when its `iptv_reload` has returned. -/
inductive AfterReload where
  | done
  | add (id : SourceId)
  | removed
  | refreshAll
deriving DecidableEq

/-- Where the main thread is: `adding`, `guiding` and `prompting` are between the sections of an edit,
`selecting` and `refreshing` behind the reload of `iptv_add_source_url`. -/
inductive SourceCall where
  | idle
  | adding (url : List UInt8)
  | guiding (selected : ℕ)
  | guideChecked (selected : ℕ)
  | prompting (selected : ℕ) (source : Source)
  | reloading (next : AfterReload)
  | selecting (id : SourceId)
  | refreshing
  | queueing
deriving DecidableEq

/-- The guide address that a playlist names, one line at most. -/
abbrev FoundGuide := { text : List UInt8 // LineText text ∧ text.length < iptvUrlMax }

/-- The sources in memory, the two files, the build and the threads.  The `sources` of `refresh` are the
identifiers of those in memory. -/
structure SourceCatalog where
  refresh : IptvRefresh
  sources : List Source
  tsv : Option (List UInt8)
  txt : List SourceEntry
  build : Option CatalogBuild
  call : SourceCall
  result : Option Bool
  standing : List SourceEdit

namespace SourceCatalog

variable (catalog : SourceCatalog)

/-- The sources that `sources.tsv` holds. -/
def rows : List Source := loadRemoteSources catalog.tsv

/-- Other sources in memory. -/
def setSources (sources : List Source) : SourceCatalog :=
  { catalog with sources, refresh := { catalog.refresh with sources := sources.map (·.id) } }

/-- `iptv_save_sources_locked` where it succeeds. -/
def save : SourceCatalog := { catalog with tsv := some (sourcesText catalog.sources) }

/-- The edit stands now. -/
def stand (edit : SourceEdit) : SourceCatalog :=
  { catalog with standing := edit :: catalog.standing.filter fun earlier => !edit.replaces earlier }

/-- A call of the main thread returns. -/
def returned (result : Bool) : SourceCatalog := { catalog with call := .idle, result := some result }

/-- The main thread goes on. -/
def goOn (call : SourceCall) : SourceCatalog := { catalog with call }

/-! ## Builds -/

/-- A build takes `g_catalog_mutex`. -/
def beginBuild (byWorker : Bool) : SourceCatalog :=
  if catalog.build = none then
    match byWorker, catalog.refresh.worker, catalog.call with
    | true, .rebuilding _, _ | false, _, .reloading _ =>
      { catalog with build := some ⟨byWorker, [], .reading⟩ }
    | _, _, _ => catalog
  else catalog

/-- `iptv_rebuild_catalog` fails. -/
def failBuild (byWorker : Bool) : SourceCatalog :=
  let catalog := { catalog with build := none }
  if byWorker then { catalog with refresh := catalog.refresh.rebuilt [] 0 false false }
  else
    match catalog.call with
    | .reloading .refreshAll =>
      { catalog.returned false with refresh := catalog.refresh.reloaded [] 0 false false }
    | .reloading _ => catalog.returned false
    | _ => catalog

/-- A stage of the build: it goes on with other sources, or the build fails. -/
def buildStage (stage : BuildStage) (ok : Bool) (next : List Source → List Source × BuildStage) :
    SourceCatalog :=
  match catalog.build with
  | some build =>
    if build.stage ≠ stage then catalog
    else if ok then
      { catalog with build := some ⟨build.byWorker, (next build.sources).1, (next build.sources).2⟩ }
    else catalog.failBuild build.byWorker
  | none => catalog

/-- The loop of `iptv_load_remote_sources`. -/
def readSources (ok : Bool) : SourceCatalog :=
  catalog.buildStage .reading ok fun _ => (catalog.rows, .merging)

/-- `iptv_merge_preinstalled_sources` of the build. -/
def mergePreinstalled (ok : Bool) : SourceCatalog :=
  catalog.buildStage .merging ok fun sources =>
    let merged := mergePreinstalledSources catalog.txt sources
    (merged.1, if merged.2 then .saving else .collecting)

/-- `iptv_save_remote_sources` of the build. -/
def saveMerged (ok : Bool) : SourceCatalog :=
  match catalog.build with
  | some build =>
    let tsv := if build.stage = .saving ∧ ok then some (sourcesText build.sources) else catalog.tsv
    { catalog.buildStage .saving ok fun sources => (sources, .collecting) with tsv }
  | none => catalog

/-- The guide that the playlist of a source without one names. -/
def fillGuide (found : Source → FoundGuide) (source : Source) : Source :=
  if source.epgUrl = [] then { source with epgUrl := (found source).1 } else source

/-- The source of a playlist on the card. -/
def localSource (source : Source) : Source := { source with isLocal := true }

/-- The rest of `iptv_catalog_build`: the playlists on the card, and what the playlists hold. -/
def collect (locals : List Source) (found : Source → FoundGuide) (ok : Bool) : SourceCatalog :=
  catalog.buildStage .collecting ok fun sources =>
    ((sources ++ locals.map localSource).map (fillGuide found), .committing)

/-- The place of the selected source among other sources. -/
def preferredIndex (sources : List Source) : ℕ :=
  match catalog.sources[catalog.refresh.sourceSelectedIndex]? with
  | some selected => (sources.findIdx? fun source => source.id = selected.id).getD 0
  | none => 0

/-- `iptv_commit_catalog`, and the end of the build. -/
def commit (ok logo : Bool) : SourceCatalog :=
  match catalog.build with
  | some build =>
    if build.stage ≠ .committing then catalog
    else if ok = false then catalog.failBuild build.byWorker
    else
      let ids := build.sources.map (·.id)
      let selected := catalog.preferredIndex build.sources
      let refresh := catalog.refresh
      let catalog := { catalog with build := none, sources := build.sources }
      if build.byWorker then { catalog with refresh := refresh.rebuilt ids selected true logo }
      else
        match catalog.call with
        | .reloading .refreshAll =>
          { catalog.goOn .queueing with refresh := refresh.reloaded ids selected true logo }
        | .reloading (.add id) =>
          { catalog.goOn (.selecting id) with refresh := refresh.commitCatalog ids selected logo }
        | _ => { catalog.returned true with refresh := refresh.commitCatalog ids selected logo }
  | none => catalog

/-! ## Calls of the main thread -/

/-- `iptv_set_source_selected_index` -/
def select (index : ℕ) : SourceCatalog :=
  if catalog.call = .idle then
    { catalog with
      refresh := { catalog.refresh with sourceSelectedIndex := min index (catalog.sources.length - 1) } }
  else catalog

/-- `iptv_reload` -/
def reload : SourceCatalog := if catalog.call = .idle then catalog.goOn (.reloading .done) else catalog

/-- The first section of `iptv_refresh_all_async` in a call. -/
def refreshAll : SourceCatalog :=
  if catalog.call = .idle then
    let refresh := catalog.refresh.refreshAllCheck
    if refresh.refreshAllCall = .reloading then
      { catalog.goOn (.reloading .refreshAll) with refresh }
    else { catalog.returned false with refresh }
  else catalog

/-- The second section of `iptv_refresh_all_async` in a call. -/
def refreshAllQueue : SourceCatalog :=
  if catalog.call = .queueing then
    let refresh := catalog.refresh
    { catalog.returned (decide (refresh.workerStarted = true ∧ refresh.refreshing = false ∧
        refresh.sources ≠ [] ∧ refresh.backgroundSuspended = false)) with
      refresh := refresh.refreshAllAsync }
  else catalog

/-- `iptv_refresh_selected_source_async`, also at the end of an edit. -/
def refreshSelected : SourceCatalog :=
  if catalog.call = .idle ∨ catalog.call = .refreshing then
    let refresh := catalog.refresh
    { catalog.returned (decide (refresh.workerStarted = true ∧ refresh.refreshing = false ∧
        refresh.sources ≠ [] ∧ refresh.backgroundSuspended = false)) with
      refresh := refresh.refreshSelectedSourceAsync }
  else catalog

/-- `iptv_add_source_url` up to its second section. -/
def addCheck (url : List UInt8) : SourceCatalog :=
  if catalog.call = .idle then
    if catalog.refresh.refreshing ∨ iptvUrlIsRemote url = false ∨ url.length ≥ iptvUrlMax then
      catalog.returned false
    else catalog.goOn (.adding url)
  else catalog

/-- The source that is there for the address. -/
def existing (url : List UInt8) : Option ℕ :=
  catalog.sources.findIdx? fun source =>
    decide (source.id = iptvHashString url) || sameText source.url url

/-- The source that `iptv_add_source_url` makes. -/
def addedSource (url : List UInt8) : Source :=
  { id := iptvHashString url
    enabled := true
    name := iptvSourceNameFromUrl url
    url := iptvCopy iptvUrlMax url
    epgUrl := []
    isLocal := false }

/-- The second section of `iptv_add_source_url`; `saved` says whether there was memory and the file was
written. -/
def addEdit (saved : Bool) : SourceCatalog :=
  match catalog.call with
  | .adding url =>
    match catalog.existing url with
    | some index =>
      { catalog.goOn .refreshing with
        refresh := { catalog.refresh with sourceSelectedIndex := index } }
    | none =>
      if saved then
        (((catalog.setSources (catalog.sources ++ [addedSource url])).save).stand
          (.added (iptvHashString url) url)).goOn (.reloading (.add (iptvHashString url)))
      else catalog.returned false
  | _ => catalog

/-- The last section of `iptv_add_source_url`. -/
def addSelect : SourceCatalog :=
  match catalog.call with
  | .selecting id =>
    let found := catalog.sources.findIdx? fun source => source.id = id
    { catalog.goOn .refreshing with
      refresh :=
        { catalog.refresh with
          sourceSelectedIndex := found.getD catalog.refresh.sourceSelectedIndex } }
  | _ => catalog

/-- `iptv_prompt_set_source_epg` reads the selection. -/
def guideSelect : SourceCatalog :=
  if catalog.call = .idle then catalog.goOn (.guiding catalog.refresh.sourceSelectedIndex) else catalog

/-- The first section of `iptv_prompt_set_source_epg`. -/
def guideCheck : SourceCatalog :=
  match catalog.call with
  | .guiding selected =>
    if catalog.refresh.refreshing then catalog.returned false
    else catalog.goOn (.guideChecked selected)
  | _ => catalog

/-- `iptv_get_source` of `iptv_prompt_set_source_epg`. -/
def guideSource : SourceCatalog :=
  match catalog.call with
  | .guideChecked selected =>
    match catalog.sources[selected]? with
    | some source =>
      if source.isLocal then catalog.returned false else catalog.goOn (.prompting selected source)
    | none => catalog.returned false
  | _ => catalog

/-- The keyboard is closed without an address. -/
def guideCancel : SourceCatalog :=
  match catalog.call with
  | .prompting _ _ => catalog.returned false
  | _ => catalog

/-- The sources with another guide for the one at `selected`, where it is the source with the identifier. -/
def withGuide (selected : ℕ) (id : SourceId) (epgUrl : List UInt8) : List Source :=
  match catalog.sources[selected]? with
  | some source =>
    if source.id = id then catalog.sources.set selected { source with epgUrl } else catalog.sources
  | none => catalog.sources

/-- The rest of `iptv_prompt_set_source_epg`: an address was entered. -/
def guideEdit (entered : List UInt8) (saved : Bool) : SourceCatalog :=
  match catalog.call with
  | .prompting selected source =>
    let epgUrl := iptvCopy iptvUrlMax entered
    if iptvUrlIsRemote epgUrl = false then catalog.returned false
    else
      let catalog := catalog.setSources (catalog.withGuide selected source.id epgUrl)
      if saved then
        (catalog.save.stand (.guide source.id source.url epgUrl)).goOn .refreshing
      else catalog.returned false
  | _ => catalog

/-- The section of `iptv_remove_selected_source`; `removedTxt` and `saved` say whether the two files were
written. -/
def remove (removedTxt saved : Bool) : SourceCatalog :=
  if catalog.call ≠ .idle then catalog
  else if catalog.refresh.refreshing then catalog.returned false
  else
    match catalog.sources[catalog.refresh.sourceSelectedIndex]? with
    | none => catalog.returned false
    | some removed =>
      if removed.isLocal ∨ removedTxt = false then catalog.returned false
      else
        let catalog :=
          { catalog.setSources (catalog.sources.eraseIdx catalog.refresh.sourceSelectedIndex) with
            txt := removePreinstalledSource removed.url catalog.txt }
        if saved then
          (catalog.save.stand (.removed removed.url)).goOn (.reloading .removed)
        else catalog.returned false

/-- Nothing but the refresh moves: the worker but its rebuild, the suspension, the end of `iptv_init`. -/
def background (step : RefreshStep) : SourceCatalog :=
  match step with
  | .start .. | .setBackgroundSuspended _ | .queueSelectedLogo _ | .take | .snapshot _ | .nextSource
  | .refreshed | .findSourceCopy | .checkSource | .finish | .logo | .cached | .jobFinished =>
    { catalog with refresh := refreshStep catalog.refresh step }
  | _ => catalog

/-- `iptv_init` as it has built the catalog. -/
def initial (tsv : Option (List UInt8)) (txt : List SourceEntry) (locals : List Source)
    (found : Source → FoundGuide) (suspended : Bool) : SourceCatalog :=
  let merged := mergePreinstalledSources txt (loadRemoteSources tsv)
  let sources := (merged.1 ++ locals.map localSource).map (fillGuide found)
  { refresh := .initial suspended (sources.map (·.id))
    sources
    tsv := if merged.2 then some (sourcesText merged.1) else tsv
    txt
    build := none
    call := .idle
    result := none
    standing := [] }

end SourceCatalog

/-- A step of a build or of the main thread, or one of the refresh alone. -/
inductive SourceStep where
  | background (step : RefreshStep)
  | beginBuild (byWorker : Bool)
  | readSources (ok : Bool)
  | mergePreinstalled (ok : Bool)
  | saveMerged (ok : Bool)
  | collect (locals : List Source) (found : Source → FoundGuide) (ok : Bool)
  | commit (ok logo : Bool)
  | select (index : ℕ)
  | reload
  | refreshAll
  | refreshAllQueue
  | refreshSelected
  | addCheck (url : List UInt8)
  | addEdit (saved : Bool)
  | addSelect
  | guideSelect
  | guideCheck
  | guideSource
  | guideCancel
  | guideEdit (entered : List UInt8) (saved : Bool)
  | remove (removedTxt saved : Bool)

/-- What a step does; one that its thread cannot take does nothing. -/
def sourceStep (catalog : SourceCatalog) : SourceStep → SourceCatalog
  | .background step => catalog.background step
  | .beginBuild byWorker => catalog.beginBuild byWorker
  | .readSources ok => catalog.readSources ok
  | .mergePreinstalled ok => catalog.mergePreinstalled ok
  | .saveMerged ok => catalog.saveMerged ok
  | .collect locals found ok => catalog.collect locals found ok
  | .commit ok logo => catalog.commit ok logo
  | .select index => catalog.select index
  | .reload => catalog.reload
  | .refreshAll => catalog.refreshAll
  | .refreshAllQueue => catalog.refreshAllQueue
  | .refreshSelected => catalog.refreshSelected
  | .addCheck url => catalog.addCheck url
  | .addEdit saved => catalog.addEdit saved
  | .addSelect => catalog.addSelect
  | .guideSelect => catalog.guideSelect
  | .guideCheck => catalog.guideCheck
  | .guideSource => catalog.guideSource
  | .guideCancel => catalog.guideCancel
  | .guideEdit entered saved => catalog.guideEdit entered saved
  | .remove removedTxt saved => catalog.remove removedTxt saved

end NXCast

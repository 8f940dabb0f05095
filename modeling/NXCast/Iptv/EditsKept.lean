import NXCast.Iptv.RefreshTruth
import NXCast.Iptv.SourceEdits

/-!
# Edits under builds

Whether the edits of the sources survive the builds of the catalog.  Every build of the worker runs behind
`g_refreshing`, and `iptv_remove_selected_source` reads that flag in the section of its edit.  The two other
edits read it long before: a refresh that a suspension has put back may begin in between, and its build
then saves and commits a list from before the edit.  `Undisturbed` says of a step that no edit falls
behind a build's reading, and that the row, the two files and the text are as the edit needs them;
`source_edits_kept` shows that every standing edit is then on disk and in memory all along.
-/

namespace NXCast

open IptvRefresh Option SourceCatalog

/-! ## Edits in a list -/

/-- The edit is in the sources. -/
def SourceEdit.In (sources : List Source) : SourceEdit → Prop
  | .added id url => ∃ source ∈ sources, source.id = id ∧ source.url = url
  | .guide id url epgUrl =>
    ∃ source ∈ sources, source.id = id ∧ source.url = url ∧ source.epgUrl = epgUrl
  | .removed url => ∀ source ∈ sources, sameText source.url url = false

/-- No entry is against the edit, and its guide fits a field. -/
def SourceEdit.Allowed (entries : List SourceEntry) : SourceEdit → Prop
  | .added .. => True
  | .guide id url epgUrl =>
    CleanText epgUrl ∧ epgUrl ≠ [] ∧ ∀ entry ∈ entries,
      id = iptvHashString entry.url ∨ sameText url entry.url = true →
        entry.epgUrl = [] ∨ entry.epgUrl = epgUrl
  | .removed url => ∀ entry ∈ entries, sameText entry.url url = false

variable {edit : SourceEdit} {sources : List Source} {entries : List SourceEntry}

lemma sameText_refl (text : List UInt8) : sameText text text := by simp [sameText]

lemma mem_remoteSources {source : Source} :
    source ∈ remoteSources sources ↔ source ∈ sources ∧ source.isLocal = false := by
  simp [remoteSources]

lemma SourceEdit.Allowed.of_subset (h : edit.Allowed entries) {fewer : List SourceEntry}
    (hfewer : ∀ entry ∈ fewer, entry ∈ entries) : edit.Allowed fewer := by
  cases edit with
  | added id url => trivial
  | guide id url epgUrl => exact ⟨h.1, h.2.1, fun entry hentry => h.2.2 entry (hfewer entry hentry)⟩
  | removed url => exact fun entry hentry => h entry (hfewer entry hentry)

/-- A change of each source that leaves its address and its guide keeps the edit. -/
lemma SourceEdit.In.map (h : edit.In sources) (hok : edit.Allowed entries)
    {change : Source → Source}
    (hchg : ∀ source, (change source).id = source.id ∧ (change source).url = source.url ∧ (CleanText source.epgUrl → source.epgUrl ≠ [] → (change source).epgUrl = source.epgUrl)) :
    edit.In (sources.map change) := by
  cases edit with
  | added id url =>
    obtain ⟨source, hsrc, hid, hurl⟩ := h
    obtain ⟨hid', hurl', -⟩ := hchg source
    exact ⟨change source, List.mem_map_of_mem hsrc, hid'.trans hid, hurl'.trans hurl⟩
  | guide id url epgUrl =>
    obtain ⟨source, hsrc, hid, hurl, rfl⟩ := h
    obtain ⟨hid', hurl', hguide⟩ := hchg source
    exact ⟨change source, List.mem_map_of_mem hsrc, hid'.trans hid, hurl'.trans hurl,
      hguide hok.1 hok.2.1⟩
  | removed url =>
    intro changed hchanged
    obtain ⟨source, hsrc, rfl⟩ := List.mem_map.mp hchanged
    rw [(hchg source).2.1]
    exact h source hsrc

lemma SourceEdit.In.mergeEntry (h : edit.In (remoteSources sources)) (hok : edit.Allowed entries)
    {entry : SourceEntry} (hentry : entry ∈ entries) (hclean : entry.Clean) :
    edit.In (remoteSources (mergeEntry entry sources).1) := by
  obtain ⟨hmade, hkept⟩ := mem_mergeEntry entry sources
  cases edit with
  | added id url =>
    obtain ⟨source, hsrc, hid, hurl⟩ := h
    rw [mem_remoteSources] at hsrc
    rcases hkept source hsrc.1 with hmem | ⟨-, hmem⟩
    · exact ⟨source, mem_remoteSources.mpr ⟨hmem, hsrc.2⟩, hid, hurl⟩
    · exact ⟨_, mem_remoteSources.mpr ⟨hmem, hsrc.2⟩, hid, hurl⟩
  | guide id url epgUrl =>
    obtain ⟨source, hsrc, rfl, rfl, rfl⟩ := h
    rw [mem_remoteSources] at hsrc
    rcases hkept source hsrc.1 with hmem | ⟨hmatches, hmem⟩
    · exact ⟨source, mem_remoteSources.mpr ⟨hmem, hsrc.2⟩, rfl, rfl, rfl⟩
    refine ⟨_, mem_remoteSources.mpr ⟨hmem, hsrc.2⟩, rfl, rfl, ?_⟩
    -- The entry names no guide or the one that was set.
    have hnone : ¬(entry.epgUrl ≠ [] ∧ source.epgUrl ≠ entry.epgUrl) := by
      have hentry := hok.2.2 entry hentry (by simpa [SourceEntry.matches] using hmatches)
      rintro ⟨hnamed, hother⟩
      exact hentry.elim hnamed fun heq => hother heq.symm
    simp [SourceEntry.update, hnone]
  | removed url =>
    intro source hsrc
    rw [mem_remoteSources] at hsrc
    rcases hmade source hsrc.1 with hmem | rfl | ⟨old, hold, -, rfl⟩
    · exact h source (mem_remoteSources.mpr ⟨hmem, hsrc.2⟩)
    · have hurl : entry.source.url = entry.url := iptvCopy_of_length hclean.url_length
      rw [hurl]
      exact hok entry hentry
    · exact h old (mem_remoteSources.mpr ⟨hold, hsrc.2⟩)

/-! ## What a list keeps of the edits -/

/-- Every remote source of the list is clean and every edit is in it. -/
structure Holds (edits : List SourceEdit) (sources : List Source) : Prop where
  clean : ∀ source ∈ remoteSources sources, source.Clean
  edits : ∀ edit ∈ edits, edit.In (remoteSources sources)

variable {edits : List SourceEdit}

lemma Holds.mergePreinstalled (h : Holds edits sources) (hents : ∀ entry ∈ entries, entry.Clean)
    (hok : ∀ edit ∈ edits, edit.Allowed entries) :
    Holds edits (mergePreinstalledSources entries sources).1 := by
  refine mergePreinstalledSources_induction h fun entry hentry sources hsources => ?_
  refine ⟨fun source hsrc => ?_, fun edit hedit =>
    (hsources.edits edit hedit).mergeEntry (hok edit hedit) hentry (hents entry hentry)⟩
  rw [mem_remoteSources] at hsrc
  rcases (mem_mergeEntry entry sources).1 source hsrc.1 with hmem | rfl | ⟨old, hold, -, rfl⟩
  · exact hsources.clean source (mem_remoteSources.mpr ⟨hmem, hsrc.2⟩)
  · exact (hents entry hentry).source
  · exact (hents entry hentry).update (hsources.clean old (mem_remoteSources.mpr ⟨hold, hsrc.2⟩))

lemma remoteSources_append (sources more : List Source) :
    remoteSources (sources ++ more) = remoteSources sources ++ remoteSources more :=
  List.filter_append ..

lemma remoteSources_collect (found : Source → FoundGuide) (sources locals : List Source) :
    remoteSources ((sources ++ locals.map localSource).map (fillGuide found)) =
      (remoteSources sources).map (fillGuide found) := by
  have hlocal : ∀ source, (fillGuide found source).isLocal = source.isLocal := by
    intro source
    unfold fillGuide
    split <;> rfl
  have hnone : remoteSources (locals.map localSource) = [] := by
    simp [remoteSources, localSource]
  unfold remoteSources at hnone ⊢
  rw [List.filter_map, Function.comp_def]
  simp only [hlocal]
  rw [List.filter_append, hnone, List.append_nil]

lemma Holds.collect (h : Holds edits sources) (hok : ∀ edit ∈ edits, edit.Allowed entries)
    (locals : List Source) (found : Source → FoundGuide) :
    Holds edits ((sources ++ locals.map localSource).map (fillGuide found)) := by
  refine ⟨fun source hsrc => ?_, fun edit hedit => ?_⟩
  · rw [remoteSources_collect] at hsrc
    obtain ⟨old, hold, rfl⟩ := List.mem_map.mp hsrc
    unfold fillGuide
    split
    · exact (h.clean old hold).guide (found old).2.1 (found old).2.2
    · exact h.clean old hold
  · rw [remoteSources_collect]
    refine (h.edits edit hedit).map (hok edit hedit) fun source => ?_
    unfold fillGuide
    split_ifs with hnil
    · exact ⟨rfl, rfl, fun _ => absurd hnil⟩
    · exact ⟨rfl, rfl, fun _ _ => rfl⟩

lemma Holds.reads (h : Holds edits sources) (hok : ∀ edit ∈ edits, edit.Allowed entries) :
    ∀ edit ∈ edits, edit.In (loadRemoteSources (some (sourcesText sources))) := by
  intro edit hedit
  rw [loadRemoteSources_sourcesText h.clean]
  exact (h.edits edit hedit).map (hok edit hedit) fun source =>
    ⟨rfl, rfl, fun hguide _ => guideField_of_clean hguide⟩

/-! ## The threads -/

/-- A refresh that the worker has runs behind the flag. -/
def IptvRefresh.Busy (iptv : IptvRefresh) : Prop :=
  ∀ job, iptv.worker.pending = some job → iptv.refreshing = true

lemma IptvRefresh.Busy.step {iptv : IptvRefresh} (h : iptv.Busy) (step : RefreshStep) :
    (refreshStep iptv step).Busy := by
  by_cases hmoves : Moves step = false
  · have hsame : iptv.Same (refreshStep iptv step) := same_step step hmoves
    obtain ⟨-, -, -, hrefr, -, hpend, -⟩ := hsame
    intro job hjob
    rw [hpend] at hjob
    rw [hrefr]
    exact h job hjob
  cases step with
  | start preinstalled logo =>
    change (iptv.start preinstalled logo).Busy
    unfold start
    split
    · exact h
    have hsame : IptvRefresh.Same
        (if preinstalled then
          { iptv with
            workerStarted := true
            refreshing := true
            refreshAllRequested := true
            accepted := .all :: iptv.accepted }
        else { iptv with workerStarted := true }) _ := same_queueSelectedLogoLocked logo
    obtain ⟨-, -, -, hrefr, -, hpend, -⟩ := hsame
    intro job hjob
    refine hrefr.trans ?_
    have hjob := hpend.symm.trans hjob
    split_ifs with hplain
    · rfl
    · rw [if_neg hplain] at hjob
      exact h job hjob
  | refreshSelectedSourceAsync =>
    change iptv.refreshSelectedSourceAsync.Busy
    unfold refreshSelectedSourceAsync
    split
    · exact h
    split
    · exact h
    · exact fun _ _ => rfl
  | refreshAllAsync =>
    change iptv.refreshAllAsync.Busy
    unfold refreshAllAsync
    split
    · exact h
    split
    · exact h
    · exact fun _ _ => rfl
  | take =>
    change iptv.take.Busy
    unfold take
    split
    · split
      · exact h
      intro job hjob
      cases hall : iptv.refreshAllRequested <;>
        cases hsrc : iptv.refreshSourceRequested <;>
        simp_all [IptvWorker.pending, RefreshJob.isRefresh]
    · exact h
  | finish =>
    change iptv.finish.Busy
    unfold finish
    split
    · rename_i job failed hwork
      intro job hjob
      cases failed <;> simp [IptvWorker.pending] at hjob
    · exact h
  | jobFinished =>
    change iptv.jobFinished.Busy
    unfold jobFinished
    split
    · rintro _ ⟨⟩
    · exact h
  | _ => exact absurd rfl hmoves

namespace SourceCatalog

variable (catalog : SourceCatalog)

/-- Who builds and who calls. -/
structure Threads : Prop where
  busy : catalog.refresh.Busy
  byWorker : ∀ build, catalog.build = some build → build.byWorker = true →
    ∃ job, catalog.refresh.worker = .rebuilding job
  byMain : ∀ build, catalog.build = some build → build.byWorker = false →
    ∃ next, catalog.call = .reloading next
  adding : ∀ url, catalog.call = .adding url →
    iptvUrlIsRemote url = true ∧ url.length < iptvUrlMax

variable {catalog} {next : SourceCatalog}

lemma Threads.moves (h : catalog.Threads) (hcall : ∀ after, catalog.call ≠ .reloading after)
    (hbuild : next.build = catalog.build) (hwork : next.refresh.worker = catalog.refresh.worker)
    (hbusy : next.refresh.Busy)
    (hadding : ∀ url, next.call = .adding url → iptvUrlIsRemote url ∧ url.length < iptvUrlMax) :
    next.Threads := by
  refine ⟨hbusy, fun build hsome hby => ?_, fun build hsome hby => ?_, hadding⟩
  · rw [hbuild] at hsome
    rw [hwork]
    exact h.byWorker build hsome hby
  · rw [hbuild] at hsome
    obtain ⟨after, hafter⟩ := h.byMain build hsome hby
    exact absurd hafter (hcall after)

lemma Threads.ends (hbuild : next.build = none) (hbusy : next.refresh.Busy)
    (hadding : ∀ url, next.call = .adding url → iptvUrlIsRemote url ∧ url.length < iptvUrlMax) :
    next.Threads := by
  refine ⟨hbusy, fun build hsome => ?_, fun build hsome => ?_, hadding⟩
  all_goals
    rw [hbuild] at hsome
    cases hsome

lemma Threads.failBuild (h : catalog.Threads) (byWorker : Bool) :
    (catalog.failBuild byWorker).Threads := by
  unfold SourceCatalog.failBuild
  dsimp only
  split
  · exact .ends rfl (h.busy.step (.rebuilt [] 0 false false)) h.adding
  split
  · exact .ends rfl (h.busy.step (.reloaded [] 0 false false)) nofun
  · exact .ends rfl h.busy nofun
  · exact .ends rfl h.busy h.adding

lemma Threads.buildStage (h : catalog.Threads) (stage : BuildStage) (ok : Bool)
    (change : List Source → List Source × BuildStage) :
    (catalog.buildStage stage ok change).Threads := by
  unfold SourceCatalog.buildStage
  split
  · rename_i build hbuild
    split
    · exact h
    split
    · refine ⟨h.busy, fun next hnext hby => ?_, fun next hnext hby => ?_, h.adding⟩
      · obtain rfl := some.inj hnext
        exact h.byWorker build hbuild hby
      · obtain rfl := some.inj hnext
        exact h.byMain build hbuild hby
    · exact h.failBuild build.byWorker
  · exact h

lemma worker_logo (iptv : IptvRefresh) (logo : Bool) :
    (iptv.queueSelectedLogoLocked logo).worker = iptv.worker := by
  unfold queueSelectedLogoLocked
  split <;> rfl

/-- The steps of the refresh that a build by the main thread or a call makes leave the worker. -/
lemma worker_main (iptv : IptvRefresh) (ids : List SourceId) (selected : ℕ) (ok logo : Bool) :
    (iptv.commitCatalog ids selected logo).worker = iptv.worker ∧
      (iptv.reloaded ids selected ok logo).worker = iptv.worker ∧
        iptv.refreshAllCheck.worker = iptv.worker ∧ iptv.refreshAllAsync.worker = iptv.worker ∧
          iptv.refreshSelectedSourceAsync.worker = iptv.worker := by
  have hcommit : (iptv.commitCatalog ids selected logo).worker = iptv.worker := worker_logo _ logo
  refine ⟨hcommit, ?_, ?_, ?_, ?_⟩
  · unfold reloaded
    split
    · rfl
    split
    · exact hcommit
    · rfl
  · unfold refreshAllCheck
    split <;> rfl
  · unfold refreshAllAsync
    split
    · rfl
    · split <;> rfl
  · unfold refreshSelectedSourceAsync
    split
    · rfl
    · split <;> rfl

lemma worker_background {job : RefreshJob} (hwork : catalog.refresh.worker = .rebuilding job)
    (step : RefreshStep) : (catalog.background step).refresh.worker = .rebuilding job := by
  cases step with
  | start preinstalled logo =>
    change (catalog.refresh.start preinstalled logo).worker = _
    unfold start
    split
    · exact hwork
    · refine (worker_logo _ logo).trans ?_
      split <;> exact hwork
  | queueSelectedLogo logo => exact (worker_logo _ logo).trans hwork
  | setBackgroundSuspended suspended => exact hwork
  | take | snapshot | nextSource | refreshed | findSourceCopy | checkSource | finish | logo | cached
  | jobFinished =>
    simp [background, refreshStep, take, snapshot, nextSource,
      refreshed, findSourceCopy, checkSource,
      finish, logo, cached, jobFinished, hwork]
  | _ => exact hwork

section

variable (h : catalog.Threads)

include h

lemma Threads.background (step : RefreshStep) : (catalog.background step).Threads := by
  have hsame : (catalog.background step).build = catalog.build ∧
      (catalog.background step).call = catalog.call := by
    unfold SourceCatalog.background
    split <;> exact ⟨rfl, rfl⟩
  have hbusy : (catalog.background step).refresh.Busy := by
    unfold SourceCatalog.background
    split
    all_goals first | exact h.busy | exact h.busy.step _
  refine ⟨hbusy, fun build hbuild hby => ?_, fun build hbuild hby => ?_, fun url hurl => ?_⟩
  · rw [hsame.1] at hbuild
    obtain ⟨job, hjob⟩ := h.byWorker build hbuild hby
    exact ⟨job, worker_background hjob step⟩
  · rw [hsame.1] at hbuild
    rw [hsame.2]
    exact h.byMain build hbuild hby
  · rw [hsame.2] at hurl
    exact h.adding url hurl

lemma Threads.beginBuild (byWorker : Bool) : (catalog.beginBuild byWorker).Threads := by
  unfold SourceCatalog.beginBuild
  split
  · split
    · rename_i job hwork
      exact ⟨h.busy, fun _ _ _ => ⟨job, hwork⟩, by rintro _ ⟨⟩ ⟨⟩, h.adding⟩
    · rename_i after hcall
      exact ⟨h.busy, by rintro _ ⟨⟩ ⟨⟩, fun _ _ _ => ⟨after, hcall⟩, h.adding⟩
    · exact h
  · exact h

lemma Threads.saveMerged (ok : Bool) : (catalog.saveMerged ok).Threads := by
  unfold SourceCatalog.saveMerged
  split
  · obtain ⟨hbusy, hwork, hmain, hadding⟩ :=
      h.buildStage .saving ok fun sources => (sources, .collecting)
    exact ⟨hbusy, hwork, hmain, hadding⟩
  · exact h

lemma Threads.commit (ok logo : Bool) : (catalog.commit ok logo).Threads := by
  unfold SourceCatalog.commit
  split
  · rename_i build hbuild
    split
    · exact h
    split
    · exact h.failBuild build.byWorker
    dsimp only
    split
    · exact .ends rfl (h.busy.step (.rebuilt _ _ true logo)) h.adding
    split
    · exact .ends rfl (h.busy.step (.reloaded _ _ true logo)) nofun
    all_goals exact .ends rfl (h.busy.step (.commitCatalog _ _ logo)) nofun
  · exact h

/-- **The flag covers every build of the worker, in all runs.** -/
lemma Threads.step (step : SourceStep) : (sourceStep catalog step).Threads := by
  cases step with
  | background step => exact h.background step
  | beginBuild byWorker => exact h.beginBuild byWorker
  | readSources | mergePreinstalled | collect =>
    simp only [sourceStep, readSources, mergePreinstalled, collect]
    exact h.buildStage ..
  | saveMerged ok => exact h.saveMerged ok
  | commit ok logo => exact h.commit ok logo
  | select index =>
    change (catalog.select index).Threads
    unfold select
    split_ifs with hcall
    · exact h.moves (by rw [hcall]; exact nofun) rfl rfl h.busy h.adding
    · exact h
  | reload =>
    change catalog.reload.Threads
    unfold reload
    split_ifs with hcall
    · refine ⟨h.busy, h.byWorker, fun _ _ _ => ⟨.done, rfl⟩, nofun⟩
    · exact h
  | refreshAll =>
    change catalog.refreshAll.Threads
    unfold refreshAll
    split_ifs with hcall
    · have hwork := (worker_main catalog.refresh [] 0 true true).2.2.1
      have hmoves : ∀ call result, call = .idle ∨ call = .reloading .refreshAll →
          Threads { catalog with call, result, refresh := catalog.refresh.refreshAllCheck } := by
        intro call result hnext
        refine h.moves (by rw [hcall]; exact nofun) rfl hwork (h.busy.step .refreshAllCheck) ?_
        rcases hnext with rfl | rfl <;> exact nofun
      dsimp only
      split
      · exact hmoves _ _ (.inr rfl)
      · exact hmoves _ _ (.inl rfl)
    · exact h
  | refreshAllQueue =>
    change catalog.refreshAllQueue.Threads
    unfold refreshAllQueue
    split_ifs with hcall
    · exact h.moves (by rw [hcall]; exact nofun) rfl
        (worker_main catalog.refresh [] 0 true true).2.2.2.1 (h.busy.step .refreshAllAsync)
        nofun
    · exact h
  | refreshSelected =>
    change catalog.refreshSelected.Threads
    unfold refreshSelected
    split_ifs with hcall
    · refine h.moves (fun after hafter => ?_) rfl (worker_main catalog.refresh [] 0 true true).2.2.2.2
        (h.busy.step .refreshSelectedSourceAsync) nofun
      rw [hafter] at hcall
      exact hcall.elim nofun nofun
    · exact h
  | addCheck url =>
    change (catalog.addCheck url).Threads
    unfold addCheck
    split
    · rename_i hcall
      split_ifs with hgood
      · exact h.moves (by rw [hcall]; exact nofun) rfl rfl h.busy nofun
      rw [not_or, not_or, Bool.not_eq_false, Nat.not_le] at hgood
      refine h.moves (by rw [hcall]; exact nofun) rfl rfl h.busy ?_
      rintro _ ⟨⟩
      exact hgood.2
    · exact h
  | addEdit saved =>
    change (catalog.addEdit saved).Threads
    unfold addEdit
    split
    · rename_i url hcall
      split
      · exact h.moves (by rw [hcall]; exact nofun) rfl rfl h.busy nofun
      · split
        all_goals exact h.moves (by rw [hcall]; exact nofun) rfl rfl h.busy nofun
    · exact h
  | addSelect | guideSelect | guideCancel =>
    simp only [sourceStep, addSelect, guideSelect, guideCancel]
    split
    · rename_i hcall
      exact h.moves (by rw [hcall]; exact nofun) rfl rfl h.busy nofun
    · exact h
  | guideCheck =>
    change catalog.guideCheck.Threads
    unfold guideCheck
    split
    · rename_i selected hcall
      split <;> exact h.moves (by rw [hcall]; exact nofun) rfl rfl h.busy nofun
    · exact h
  | guideSource =>
    change catalog.guideSource.Threads
    unfold guideSource
    split
    · rename_i selected hcall
      split
      · split <;> exact h.moves (by rw [hcall]; exact nofun) rfl rfl h.busy nofun
      · exact h.moves (by rw [hcall]; exact nofun) rfl rfl h.busy nofun
    · exact h
  | guideEdit entered saved =>
    change (catalog.guideEdit entered saved).Threads
    unfold guideEdit
    split
    · rename_i selected source hcall
      dsimp only
      split
      · exact h.moves (by rw [hcall]; exact nofun) rfl rfl h.busy nofun
      · split <;> exact h.moves (by rw [hcall]; exact nofun) rfl rfl h.busy nofun
    · exact h
  | remove removedTxt saved =>
    change (catalog.remove removedTxt saved).Threads
    unfold remove
    split
    · exact h
    rename_i hcall
    rw [not_not] at hcall
    have hidle : ∀ after, catalog.call ≠ .reloading after := by rw [hcall]; exact nofun
    split
    · exact h.moves hidle rfl rfl h.busy nofun
    split
    · exact h.moves hidle rfl rfl h.busy nofun
    split
    · exact h.moves hidle rfl rfl h.busy nofun
    · split <;> exact h.moves hidle rfl rfl h.busy nofun

end

/-! ## The standing edits -/

variable (catalog)

/-- A build has read the sources and has not ended. -/
def Stale : Prop := ∃ build, catalog.build = some build ∧ build.stage ≠ .reading

/-- No edit is made behind a build's reading, none without its save, and the row, `sources.txt` and the
text are as the edit needs them. -/
def Undisturbed : SourceStep → Prop
  | .addEdit saved => ∀ url, catalog.call = .adding url → catalog.existing url = none → saved = true →
      CleanText url ∧ ¬catalog.Stale
  | .guideEdit entered saved => ∀ selected source, catalog.call = .prompting selected source →
      iptvUrlIsRemote (iptvCopy iptvUrlMax entered) = true →
      saved = true ∧ ¬catalog.Stale ∧
      SourceEdit.Allowed catalog.txt (.guide source.id source.url (iptvCopy iptvUrlMax entered)) ∧
      ∃ row, catalog.sources[selected]? = some row ∧ row.id = source.id ∧ row.url = source.url ∧
        row.isLocal = false
  | .remove removedTxt saved => ∀ removed, catalog.call = .idle → catalog.refresh.refreshing = false →
      catalog.sources[catalog.refresh.sourceSelectedIndex]? = some removed →
      removed.isLocal = false → removedTxt = true →
      saved = true ∧ SourceEdit.In
        (remoteSources (catalog.sources.eraseIdx catalog.refresh.sourceSelectedIndex))
        (.removed removed.url)
  | _ => True

/-- What a run keeps of the edits. -/
structure Kept : Prop where
  txt : ∀ entry ∈ catalog.txt, entry.Clean
  allowed : ∀ edit ∈ catalog.standing, edit.Allowed catalog.txt
  rows : ∀ edit ∈ catalog.standing, edit.In catalog.rows
  memory : Holds catalog.standing catalog.sources
  build : ∀ build, catalog.build = some build → build.stage ≠ .reading →
    Holds catalog.standing build.sources

variable {catalog}

lemma Kept.same (h : catalog.Kept) (hsources : next.sources = catalog.sources)
    (htsv : next.tsv = catalog.tsv) (htxt : next.txt = catalog.txt)
    (hstanding : next.standing = catalog.standing)
    (hbuild : next.build = catalog.build ∨ next.build = none) : next.Kept := by
  have hrows : next.rows = catalog.rows := by rw [SourceCatalog.rows, SourceCatalog.rows, htsv]
  refine ⟨?_, ?_, ?_, ?_, ?_⟩
  · rw [htxt]
    exact h.txt
  · rw [hstanding, htxt]
    exact h.allowed
  · rw [hstanding, hrows]
    exact h.rows
  · rw [hstanding, hsources]
    exact h.memory
  intro build hsome
  rcases hbuild with hbuild | hbuild
  · rw [hstanding]
    exact h.build build (hbuild.symm.trans hsome)
  · rw [hbuild] at hsome
    cases hsome

lemma remoteSources_rows : remoteSources catalog.rows = catalog.rows := by
  refine List.filter_eq_self.mpr fun source hsrc => ?_
  rw [(loadRemoteSources_clean catalog.tsv source hsrc).2]
  rfl

lemma Kept.holds_rows (h : catalog.Kept) : Holds catalog.standing catalog.rows := by
  refine ⟨?_, ?_⟩
  · rw [remoteSources_rows]
    exact fun source hsrc => (loadRemoteSources_clean catalog.tsv source hsrc).1
  · rw [remoteSources_rows]
    exact h.rows

lemma Kept.failBuild (h : catalog.Kept) (byWorker : Bool) : (catalog.failBuild byWorker).Kept := by
  unfold SourceCatalog.failBuild
  dsimp only
  split
  · exact h.same rfl rfl rfl rfl (.inr rfl)
  · split <;> exact h.same rfl rfl rfl rfl (.inr rfl)

lemma failBuild_files (byWorker : Bool) :
    (catalog.failBuild byWorker).standing = catalog.standing ∧
      (catalog.failBuild byWorker).tsv = catalog.tsv := by
  unfold failBuild
  dsimp only
  split
  · exact ⟨rfl, rfl⟩
  · split <;> exact ⟨rfl, rfl⟩

section

variable (h : catalog.Kept)

include h

lemma Kept.buildStage (stage : BuildStage) (ok : Bool)
    (change : List Source → List Source × BuildStage)
    (hchg : ∀ build, catalog.build = some build → build.stage = stage → Holds catalog.standing (change build.sources).1) :
    (catalog.buildStage stage ok change).Kept := by
  unfold SourceCatalog.buildStage
  split
  · rename_i build hbuild
    split
    · exact h
    rename_i hstage
    rw [not_not] at hstage
    split
    · refine ⟨h.txt, h.allowed, h.rows, h.memory, fun next hnext _ => ?_⟩
      obtain rfl := some.inj hnext
      exact hchg build hbuild hstage
    · exact h.failBuild build.byWorker
  · exact h

lemma Kept.saveMerged (ok : Bool) : (catalog.saveMerged ok).Kept := by
  unfold SourceCatalog.saveMerged
  split
  · rename_i build hbuild
    have hstage : (catalog.buildStage .saving ok fun sources => (sources, .collecting)).Kept := by
      refine h.buildStage _ _ _ fun build hbuild hsaving => h.build build hbuild ?_
      rw [hsaving]
      exact nofun
    have hsame : (catalog.buildStage .saving ok fun sources => (sources, .collecting)).standing =
        catalog.standing ∧
        (catalog.buildStage .saving ok fun sources => (sources, .collecting)).tsv = catalog.tsv := by
      unfold SourceCatalog.buildStage
      split
      · split
        · exact ⟨rfl, rfl⟩
        split
        · exact ⟨rfl, rfl⟩
        · exact failBuild_files _
      · exact ⟨rfl, rfl⟩
    refine ⟨hstage.txt, hstage.allowed, ?_, hstage.memory, hstage.build⟩
    split_ifs with hsaved
    · rw [hsame.1]
      refine (h.build build hbuild ?_).reads h.allowed
      rw [hsaved.1]
      exact nofun
    · rw [← hsame.2]
      exact hstage.rows
  · exact h

lemma Kept.commit (ok logo : Bool) : (catalog.commit ok logo).Kept := by
  unfold SourceCatalog.commit
  split
  · rename_i build hbuild
    split
    · exact h
    rename_i hstage
    rw [not_not] at hstage
    split
    · exact h.failBuild build.byWorker
    have hcommitted : Kept { catalog with build := none, sources := build.sources } := by
      refine ⟨h.txt, h.allowed, h.rows, h.build build hbuild ?_, nofun⟩
      rw [hstage]
      exact nofun
    dsimp only
    split
    · exact hcommitted.same rfl rfl rfl rfl (.inl rfl)
    · split <;> exact hcommitted.same rfl rfl rfl rfl (.inl rfl)
  · exact h

lemma Kept.edited (hstale : ¬catalog.Stale) {edit : SourceEdit}
    (hbuild : next.build = catalog.build) (htxt : ∀ entry ∈ next.txt, entry ∈ catalog.txt)
    (htsv : next.tsv = some (sourcesText next.sources))
    (hstanding : next.standing = edit :: catalog.standing.filter fun earlier => !edit.replaces earlier)
    (hok : edit.Allowed next.txt) (hclean : ∀ source ∈ remoteSources next.sources, source.Clean)
    (hedit : edit.In (remoteSources next.sources))
    (hkept : ∀ earlier ∈ catalog.standing, edit.replaces earlier = false → earlier.In (remoteSources next.sources)) :
    next.Kept := by
  have hmem : ∀ other ∈ next.standing, other = edit ∨
      other ∈ catalog.standing ∧ edit.replaces other = false := by
    intro other hother
    rw [hstanding, List.mem_cons, List.mem_filter, Bool.not_eq_true'] at hother
    exact hother
  have hok' : ∀ other ∈ next.standing, other.Allowed next.txt := by
    intro other hother
    rcases hmem other hother with rfl | ⟨hother, -⟩
    · exact hok
    · exact (h.allowed other hother).of_subset htxt
  have hmemory : Holds next.standing next.sources := by
    refine ⟨hclean, fun other hother => ?_⟩
    rcases hmem other hother with rfl | ⟨hother, hreplaces⟩
    · exact hedit
    · exact hkept other hother hreplaces
  refine ⟨fun entry hentry => h.txt entry (htxt entry hentry), hok', ?_, hmemory,
    fun build hsome hstage => ?_⟩
  · rw [SourceCatalog.rows, htsv]
    exact hmemory.reads hok'
  · exact absurd ⟨build, hbuild.symm.trans hsome, hstage⟩ hstale

lemma Kept.addEdit (hthreads : catalog.Threads) (saved : Bool)
    (hcalm : catalog.Undisturbed (.addEdit saved)) : (catalog.addEdit saved).Kept := by
  unfold SourceCatalog.addEdit
  split
  · rename_i url hcall
    split
    · exact h.same rfl rfl rfl rfl (.inl rfl)
    rename_i hnew
    split_ifs with hsaved
    · obtain ⟨hclean, hstale⟩ := hcalm url hcall hnew hsaved
      obtain ⟨hrem, hlen⟩ := hthreads.adding url hcall
      have hurl : (addedSource url).url = url := iptvCopy_of_length hlen
      have hadded : remoteSources (catalog.sources ++ [addedSource url]) =
          remoteSources catalog.sources ++ [addedSource url] := remoteSources_append ..
      refine h.edited hstale rfl (fun _ hentry => hentry) rfl rfl trivial ?_ ?_ ?_
      · intro source hsrc
        change source ∈ remoteSources (catalog.sources ++ [addedSource url]) at hsrc
        rw [hadded, List.mem_append, List.mem_singleton] at hsrc
        rcases hsrc with hsrc | rfl
        · exact h.memory.clean source hsrc
        obtain ⟨hname, hnamed, hnameLength⟩ := iptvSourceNameFromUrl_clean hclean
        exact ⟨hname, hnamed, hnameLength, hclean.sublist (iptvCopy_sublist _ _),
          length_iptvCopy (by decide) _, iptvUrlIsRemote_iptvCopy hrem, nofun,
          Nat.succ_pos _⟩
      · refine ⟨addedSource url, ?_, rfl, hurl⟩
        change addedSource url ∈ remoteSources (catalog.sources ++ [addedSource url])
        rw [hadded]
        exact List.mem_append_right _ List.mem_cons_self
      intro earlier hearlier hreplaces
      have hin := h.memory.edits earlier hearlier
      change earlier.In (remoteSources (catalog.sources ++ [addedSource url]))
      rw [hadded]
      cases earlier with
      | added id other =>
        obtain ⟨source, hsrc, hsame⟩ := hin
        exact ⟨source, List.mem_append_left _ hsrc, hsame⟩
      | guide id other epgUrl =>
        obtain ⟨source, hsrc, hsame⟩ := hin
        exact ⟨source, List.mem_append_left _ hsrc, hsame⟩
      | removed other =>
        intro source hsrc
        rcases List.mem_append.mp hsrc with hsrc | hsrc
        · exact hin source hsrc
        · rw [List.mem_singleton.mp hsrc, hurl]
          exact hreplaces
    · exact h.same rfl rfl rfl rfl (.inl rfl)
  · exact h

end

/-- What is in the list but at one place is there when that place changes. -/
lemma mem_set_of_ne {source row other : Source} {index : ℕ} (hrow : sources[index]? = some row)
    (hmem : source ∈ sources) (hne : source ≠ row) : source ∈ sources.set index other := by
  obtain ⟨place, hplace, rfl⟩ := List.mem_iff_getElem.mp hmem
  have hother : index ≠ place := by
    rintro rfl
    rw [List.getElem?_eq_getElem hplace] at hrow
    exact hne (some.inj hrow)
  refine List.mem_iff_getElem.mpr ⟨place, by rwa [List.length_set], ?_⟩
  rw [List.getElem_set_ne hother]

lemma Kept.guideEdit (h : catalog.Kept) (entered : List UInt8) (saved : Bool)
    (hcalm : catalog.Undisturbed (.guideEdit entered saved)) :
    (catalog.guideEdit entered saved).Kept := by
  unfold SourceCatalog.guideEdit
  split
  · rename_i selected source hcall
    dsimp only
    split
    · exact h.same rfl rfl rfl rfl (.inl rfl)
    rename_i hrem
    rw [Bool.not_eq_false] at hrem
    obtain ⟨rfl, hstale, hok, row, hrow, hid, hurl, hlocal⟩ :=
      hcalm selected source hcall hrem
    set epgUrl := iptvCopy iptvUrlMax entered
    have hguided : catalog.withGuide selected source.id epgUrl =
        catalog.sources.set selected { row with epgUrl } := by
      simp only [withGuide, hrow, hid, if_true]
    have hrowMem : row ∈ remoteSources catalog.sources :=
      mem_remoteSources.mpr ⟨List.mem_of_getElem? hrow, hlocal⟩
    have hnewMem : { row with epgUrl } ∈ remoteSources (catalog.withGuide selected source.id epgUrl) := by
      rw [hguided, mem_remoteSources]
      exact ⟨List.mem_set (List.getElem?_eq_some_iff.mp hrow).1 _, hlocal⟩
    have hother : ∀ other ∈ remoteSources catalog.sources, other ≠ row →
        other ∈ remoteSources (catalog.withGuide selected source.id epgUrl) := by
      intro other hmem hne
      rw [mem_remoteSources] at hmem
      rw [hguided, mem_remoteSources]
      exact ⟨mem_set_of_ne hrow hmem.1 hne, hmem.2⟩
    have hback : ∀ other ∈ remoteSources (catalog.withGuide selected source.id epgUrl),
        other ∈ remoteSources catalog.sources ∨ other = { row with epgUrl } := by
      intro other hmem
      rw [hguided, mem_remoteSources] at hmem
      exact (List.mem_or_eq_of_mem_set hmem.1).imp_left fun hold =>
        mem_remoteSources.mpr ⟨hold, hmem.2⟩
    refine h.edited hstale rfl (fun _ hentry => hentry) rfl rfl hok ?_ ?_ ?_
    · intro other hmem
      rcases hback other hmem with hmem | rfl
      · exact h.memory.clean other hmem
      · exact (h.memory.clean row hrowMem).guide hok.1.lineText (length_iptvCopy (by decide) _)
    · exact ⟨_, hnewMem, hid, hurl, rfl⟩
    intro earlier hearlier hreplaces
    have hin := h.memory.edits earlier hearlier
    cases earlier with
    | added id url =>
      obtain ⟨found, hfound, hsame⟩ := hin
      by_cases heq : found = row
      · subst heq
        exact ⟨_, hnewMem, hsame⟩
      · exact ⟨found, hother found hfound heq, hsame⟩
    | guide id url guide =>
      obtain ⟨found, hfound, rfl, rfl, hguide⟩ := hin
      have heq : found ≠ row := by
        rintro rfl
        rw [SourceEdit.replaces, decide_eq_false_iff_not] at hreplaces
        exact hreplaces ⟨hid.symm, hurl.symm⟩
      exact ⟨found, hother found hfound heq, rfl, rfl, hguide⟩
    | removed url =>
      intro other hmem
      rcases hback other hmem with hmem | rfl
      · exact hin other hmem
      · exact hin row hrowMem
  · exact h

lemma Kept.remove (h : catalog.Kept) (hthreads : catalog.Threads) (removedTxt saved : Bool)
    (hcalm : catalog.Undisturbed (.remove removedTxt saved)) :
    (catalog.remove removedTxt saved).Kept := by
  unfold SourceCatalog.remove
  split
  · exact h
  rename_i hcall
  rw [not_not] at hcall
  split
  · exact h.same rfl rfl rfl rfl (.inl rfl)
  rename_i hrefr
  rw [Bool.not_eq_true] at hrefr
  split
  · exact h.same rfl rfl rfl rfl (.inl rfl)
  rename_i removed hremoved
  split
  · exact h.same rfl rfl rfl rfl (.inl rfl)
  rename_i hgoes
  rw [not_or, Bool.not_eq_true, Bool.not_eq_false] at hgoes
  obtain ⟨rfl, hedit⟩ := hcalm removed hcall hrefr hremoved hgoes.1 hgoes.2
  -- A build of the worker would hold the flag, and the main thread builds nothing.
  have hstale : ¬catalog.Stale := by
    rintro ⟨build, hbuild, -⟩
    cases hby : build.byWorker with
    | true =>
      obtain ⟨job, hjob⟩ := hthreads.byWorker build hbuild hby
      have hflag := hthreads.busy job (by rw [hjob]; rfl)
      rw [hrefr] at hflag
      cases hflag
    | false =>
      obtain ⟨after, hafter⟩ := hthreads.byMain build hbuild hby
      rw [hcall] at hafter
      cases hafter
  have hfewer : ∀ source ∈
      remoteSources (catalog.sources.eraseIdx catalog.refresh.sourceSelectedIndex),
      source ∈ remoteSources catalog.sources := by
    intro source hsrc
    rw [mem_remoteSources] at hsrc
    exact mem_remoteSources.mpr ⟨List.mem_of_mem_eraseIdx hsrc.1, hsrc.2⟩
  have hother : ∀ source ∈ remoteSources catalog.sources, sameText source.url removed.url = false →
      source ∈ remoteSources (catalog.sources.eraseIdx catalog.refresh.sourceSelectedIndex) := by
    intro source hsrc hurl
    rw [mem_remoteSources] at hsrc ⊢
    refine ⟨?_, hsrc.2⟩
    obtain ⟨place, hplace, rfl⟩ := List.mem_iff_getElem.mp hsrc.1
    refine List.mem_eraseIdx_iff_getElem.mpr ⟨place, hplace, ?_, rfl⟩
    rintro rfl
    rw [List.getElem?_eq_getElem hplace] at hremoved
    rw [some.inj hremoved, sameText_refl] at hurl
    cases hurl
  refine h.edited hstale rfl (fun entry hentry => (List.mem_filter.mp hentry).1) rfl rfl ?_
    (fun source hsrc => h.memory.clean source (hfewer source hsrc)) hedit ?_
  · intro entry hentry
    simpa using (List.mem_filter.mp hentry).2
  intro earlier hearlier hreplaces
  have hin := h.memory.edits earlier hearlier
  cases earlier with
  | added id url =>
    obtain ⟨source, hsrc, rfl, rfl⟩ := hin
    exact ⟨source, hother source hsrc hreplaces, rfl, rfl⟩
  | guide id url epgUrl =>
    obtain ⟨source, hsrc, rfl, rfl, rfl⟩ := hin
    exact ⟨source, hother source hsrc hreplaces, rfl, rfl, rfl⟩
  | removed url => exact fun source hsrc => hin source (hfewer source hsrc)

/-- **An undisturbed step keeps every standing edit.** -/
lemma Kept.step (h : catalog.Kept) (hthreads : catalog.Threads) (step : SourceStep)
    (hcalm : catalog.Undisturbed step) : (sourceStep catalog step).Kept := by
  cases step with
  | addEdit saved => exact h.addEdit hthreads saved hcalm
  | guideEdit entered saved => exact h.guideEdit entered saved hcalm
  | remove removedTxt saved => exact h.remove hthreads removedTxt saved hcalm
  | readSources ok =>
    change (catalog.readSources ok).Kept
    exact h.buildStage _ _ _ fun _ _ _ => h.holds_rows
  | mergePreinstalled ok =>
    change (catalog.mergePreinstalled ok).Kept
    refine h.buildStage _ _ _ fun build hbuild hstage => ?_
    refine (h.build build hbuild ?_).mergePreinstalled h.txt h.allowed
    rw [hstage]
    exact nofun
  | saveMerged ok => exact h.saveMerged ok
  | collect locals found ok =>
    change (catalog.collect locals found ok).Kept
    refine h.buildStage _ _ _ fun build hbuild hstage => ?_
    refine (h.build build hbuild ?_).collect h.allowed locals found
    rw [hstage]
    exact nofun
  | commit ok logo => exact h.commit ok logo
  | background step =>
    change (catalog.background step).Kept
    unfold background
    split
    all_goals first | exact h | exact h.same rfl rfl rfl rfl (.inl rfl)
  | beginBuild byWorker =>
    change (catalog.beginBuild byWorker).Kept
    unfold beginBuild
    split
    · split
      · exact ⟨h.txt, h.allowed, h.rows, h.memory, by rintro _ ⟨⟩ hstage; exact absurd rfl hstage⟩
      · exact ⟨h.txt, h.allowed, h.rows, h.memory, by rintro _ ⟨⟩ hstage; exact absurd rfl hstage⟩
      · exact h
    · exact h
  | select | reload | refreshAllQueue | refreshSelected | addSelect | guideSelect | guideCancel =>
    simp only [sourceStep, select, reload, refreshAllQueue, refreshSelected, addSelect, guideSelect,
      guideCancel]
    split
    · exact h.same rfl rfl rfl rfl (.inl rfl)
    · exact h
  | refreshAll | addCheck | guideCheck =>
    simp only [sourceStep, refreshAll, addCheck, guideCheck]
    split
    · split <;> exact h.same rfl rfl rfl rfl (.inl rfl)
    · exact h
  | guideSource =>
    change catalog.guideSource.Kept
    unfold guideSource
    split
    · split
      · split <;> exact h.same rfl rfl rfl rfl (.inl rfl)
      · exact h.same rfl rfl rfl rfl (.inl rfl)
    · exact h

end SourceCatalog

/-! ## Runs -/

/-- `iptv_init` has built the catalog of the two files and the card, and every step since is undisturbed. -/
def CatalogReachable (tsv : Option (List UInt8)) (txt : List SourceEntry) (locals : List Source)
    (found : Source → FoundGuide) (suspended : Bool) : SourceCatalog → Prop :=
  Runs.Reachable sourceStep (.initial tsv txt locals found suspended) SourceCatalog.Undisturbed

/-- **No standing edit is lost.** In every run of undisturbed steps over a clean `sources.txt` every standing
edit is in `sources.tsv` and in memory, in each state. -/
theorem source_edits_kept {tsv : Option (List UInt8)} {txt : List SourceEntry} {locals : List Source}
    {found : Source → FoundGuide} {suspended : Bool} {catalog : SourceCatalog}
    (htxt : ∀ entry ∈ txt, entry.Clean)
    (h : CatalogReachable tsv txt locals found suspended catalog) :
    ∀ edit ∈ catalog.standing, edit.In catalog.rows ∧ edit.In (remoteSources catalog.sources) := by
  have hstart : (SourceCatalog.initial tsv txt locals found suspended).Threads ∧
      (SourceCatalog.initial tsv txt locals found suspended).Kept := by
    refine ⟨⟨nofun, nofun, nofun, nofun⟩, ⟨htxt, nofun, nofun, ?_, nofun⟩⟩
    have hread : Holds [] (loadRemoteSources tsv) := by
      refine ⟨fun source hsource => ?_, nofun⟩
      exact (loadRemoteSources_clean tsv source (mem_remoteSources.mp hsource).1).1
    have hallowed : ∀ edit ∈ ([] : List SourceEdit), edit.Allowed txt := nofun
    exact (hread.mergePreinstalled htxt hallowed).collect hallowed locals found
  have hkept : catalog.Threads ∧ catalog.Kept :=
    Runs.Reachable.invariant (P := fun catalog => catalog.Threads ∧ catalog.Kept) hstart
      (fun _ step hkept hundisturbed =>
        ⟨hkept.1.step step, hkept.2.step hkept.1 step hundisturbed⟩) h
  exact fun edit hedit => ⟨hkept.2.rows edit hedit, hkept.2.memory.edits edit hedit⟩

/-- A source is added while nothing is refreshed. -/
def addingRun : List SourceStep :=
  [.background (.start false false), .addCheck (asciiBytes "http://b/y"), .addEdit true,
    .beginBuild false, .readSources true, .mergePreinstalled true,
    .collect [] (fun _ => ⟨[], nofun, by decide⟩) true, .commit true false, .addSelect, .refreshSelected]

/-- An added source is kept. -/
theorem source_edits_kept_added :
    ∃ catalog, CatalogReachable none [] [] (fun _ => ⟨[], nofun, by decide⟩) false catalog ∧
      catalog.standing = [.added (iptvHashString (asciiBytes "http://b/y")) (asciiBytes "http://b/y")] ∧
      ∀ edit ∈ catalog.standing, edit.In catalog.rows ∧ edit.In (remoteSources catalog.sources) := by
  have hrun : CatalogReachable none [] [] (fun _ => ⟨[], nofun, by decide⟩) false
      (Runs.run sourceStep (.initial none [] [] (fun _ => ⟨[], nofun, by decide⟩) false) addingRun) := by
    refine Runs.Reachable.along .start
      ⟨trivial, trivial, ?_, trivial, trivial, trivial, trivial, trivial, trivial, trivial, trivial⟩
    intro url hcall _ _
    obtain rfl : asciiBytes "http://b/y" = url := by
      have hadding : SourceCall.adding (asciiBytes "http://b/y") = .adding url := hcall
      exact SourceCall.adding.inj hadding
    refine ⟨by unfold CleanText; decide +kernel, ?_⟩
    rintro ⟨build, hbuild, -⟩
    cases hbuild
  exact ⟨_, hrun, by decide +kernel, source_edits_kept (by exact nofun) hrun⟩

/-- Two entries that name one source differently. -/
def twoNames : List SourceEntry :=
  [⟨asciiBytes "A", asciiBytes "http://a/x", []⟩, ⟨asciiBytes "B", asciiBytes "http://a/x", []⟩]

/-- The worker rebuilds the catalog; `edit` are steps behind its reading. -/
def rebuildSteps (byWorker : Bool) (edit : List SourceStep) : List SourceStep :=
  [.beginBuild byWorker, .readSources true] ++ edit ++
    [.mergePreinstalled true, .saveMerged true, .collect [] (fun _ => ⟨[], nofun, by decide⟩) true,
      .commit true false]

/-- The worker refreshes the source it was asked for. -/
def refreshSteps (edit : List SourceStep) : List SourceStep :=
  [.background .take, .background .findSourceCopy, .background .checkSource, .background .refreshed] ++
    rebuildSteps true edit ++ [.background .finish, .background .logo, .background .jobFinished]

/-- A suspension puts a refresh back, which begins again between the check and the edit. -/
def lostEdit : List SourceStep :=
  [.background (.start false false), .refreshSelected, .background .take, .background .findSourceCopy,
    .background (.setBackgroundSuspended true), .background .checkSource, .background .jobFinished,
    .addCheck (asciiBytes "http://b/y"), .background (.setBackgroundSuspended false)] ++
    refreshSteps [.addEdit true] ++ rebuildSteps false [] ++ [.addSelect, .refreshSelected] ++
    refreshSteps []

/-- A source whose addition has reported success is in neither place when all is done. -/
theorem source_edits_kept_lost :
    ∃ catalog, Runs.Reachable sourceStep
        (.initial none twoNames [] (fun _ => ⟨[], nofun, by decide⟩) false) (fun _ _ => True) catalog ∧
      (∀ entry ∈ twoNames, entry.Clean) ∧
      catalog.call = .idle ∧ catalog.build = none ∧ catalog.refresh.worker = .waiting ∧
      catalog.refresh.refreshing = false ∧ catalog.result = some true ∧
      .added (iptvHashString (asciiBytes "http://b/y")) (asciiBytes "http://b/y") ∈ catalog.standing ∧
      ∀ source ∈ catalog.rows ++ catalog.sources, source.url ≠ asciiBytes "http://b/y" := by
  refine ⟨_, Runs.Reachable.run .start lostEdit, ?_, by decide +kernel, by decide +kernel, rfl,
    by decide +kernel, by decide +kernel, by decide +kernel, by decide +kernel⟩
  intro entry hentry
  rw [twoNames, List.mem_cons, List.mem_singleton] at hentry
  rcases hentry with rfl | rfl
  all_goals exact ⟨by unfold CleanText; decide +kernel, by unfold CleanText; decide +kernel, by decide, by decide, nofun⟩

end NXCast

import Mathlib.Data.FinEnum
import NXCast.Iptv.SourceEdits

/-!
# Saved sources

Whether `iptv_load_remote_sources` gives back what `iptv_save_remote_sources` has written.  `Held` are the
lists of sources that loads, merges, edits and builds make, and `readEntry` is a line of `sources.txt` as
the merge takes it apart.  Nothing on these ways keeps a tab or a line end out of a name or an address, and
a list is read back just when it has none: `savedSources_readBack_iff`.
-/

namespace NXCast

open List

/-! ## A line of `sources.txt` -/

/-- `iptv_trim` -/
def iptvTrim (text : List UInt8) : List UInt8 := (text.dropWhile isSpace).rdropWhile isSpace

/-- The fields between the bars of a line, each trimmed: name, address and guide. -/
def entryFields (entry : List UInt8) : List UInt8 × List UInt8 × List UInt8 :=
  match TextSearch.cut 0x7C entry with
  | none => ([], entry, [])
  | some (name, text) =>
    match TextSearch.cut 0x7C (iptvTrim text) with
    | none => (iptvTrim name, iptvTrim text, [])
    | some (url, epgUrl) => (iptvTrim name, iptvTrim url, iptvTrim epgUrl)

/-- A line of `iptv_merge_preinstalled_sources`; `first` says whether it may begin with a byte order
mark. -/
def readEntry (first : Bool) (line : List UInt8) : Option SourceEntry :=
  let text := iptvTrim (CString.ofBuffer line).bytes
  let entry := if first = true ∧ text.take 3 = [0xEF, 0xBB, 0xBF] then iptvTrim (text.drop 3) else text
  let fields := entryFields entry
  if entry = [] ∨ entry.head? = some 0x23 ∨ iptvUrlIsRemote fields.2.1 = false then none
  else some ⟨fields.1, fields.2.1, if iptvUrlIsRemote fields.2.2 then fields.2.2 else []⟩

/-- The entries of `sources.txt`. -/
def sourceEntries (file : List UInt8) : List SourceEntry :=
  (fgetsFrom (iptvUrlMax * 2 + iptvSourceMax + 32) [] file).zipIdx.filterMap fun (line, index) =>
    readEntry (index = 0) line

/-- No text of the entry has a NUL. -/
structure SourceEntry.NulFree (entry : SourceEntry) : Prop where
  name : ∀ byte ∈ entry.name, byte ≠ 0
  url : ∀ byte ∈ entry.url, byte ≠ 0
  epgUrl : ∀ byte ∈ entry.epgUrl, byte ≠ 0

lemma iptvTrim_sublist (text : List UInt8) : (iptvTrim text).Sublist text :=
  (( rdropWhile_prefix _ _).sublist).trans (dropWhile_sublist _)

lemma entryFields_sublist (entry : List UInt8) :
    (entryFields entry).1.Sublist entry ∧ (entryFields entry).2.1.Sublist entry ∧
      (entryFields entry).2.2.Sublist entry := by
  have hcut : ∀ {text front back : List UInt8}, TextSearch.cut 0x7C text = some (front, back) →
      front.Sublist text ∧ back.Sublist text := by
    intro text front back h
    unfold TextSearch.cut at h
    split at h
    · obtain ⟨rfl, rfl⟩ := Prod.mk.inj (Option.some.inj h)
      exact ⟨takeWhile_sublist _, (tail_sublist _).trans (dropWhile_sublist _)⟩
    · cases h
  unfold entryFields
  split
  · exact ⟨nil_sublist _, List.Sublist.refl _, nil_sublist _⟩
  rename_i name text hname
  obtain ⟨hname, htext⟩ := hcut hname
  have htext := (iptvTrim_sublist text).trans htext
  split
  · exact ⟨(iptvTrim_sublist _).trans hname, htext, nil_sublist _⟩
  rename_i url epgUrl hurl
  obtain ⟨hurl, hguide⟩ := hcut hurl
  exact ⟨(iptvTrim_sublist _).trans hname, ((iptvTrim_sublist _).trans hurl).trans htext,
    ((iptvTrim_sublist _).trans hguide).trans htext⟩

variable {entry : SourceEntry}

lemma readEntry_nulFree {first : Bool} {line : List UInt8}
    (h : readEntry first line = some entry) : entry.NulFree ∧ iptvUrlIsRemote entry.url := by
  have hline : ∀ byte ∈ iptvTrim (CString.ofBuffer line).bytes, byte ≠ 0 := fun byte hbyte hnul =>
    (CString.ofBuffer line).nul_free (hnul ▸ (iptvTrim_sublist _).subset hbyte)
  unfold readEntry at h
  dsimp only at h
  generalize iptvTrim (CString.ofBuffer line).bytes = text at h hline
  have htext : ∀ byte ∈ (if first ∧ text.take 3 = [0xEF, 0xBB, 0xBF] then iptvTrim (text.drop 3)
      else text), byte ≠ 0 := by
    split
    · exact fun byte hbyte =>
        hline byte ((drop_sublist _ _).subset ((iptvTrim_sublist _).subset hbyte))
    · exact hline
  generalize (if first ∧ text.take 3 = [0xEF, 0xBB, 0xBF] then iptvTrim (text.drop 3)
    else text) = kept at h htext
  obtain ⟨hname, hurl, hguide⟩ := entryFields_sublist kept
  split at h
  · cases h
  rename_i hgood
  rw [not_or, not_or, Bool.not_eq_false] at hgood
  obtain rfl := Option.some.inj h
  refine ⟨⟨fun byte hbyte => htext byte (hname.subset hbyte),
    fun byte hbyte => htext byte (hurl.subset hbyte), ?_⟩, hgood.2.2⟩
  split
  · exact fun byte hbyte => htext byte (hguide.subset hbyte)
  · exact nofun

/-! ## The lists that are held -/

/-- The lists of sources that the module can hold: what was read, merged and edited, and what a build has
found on the card and in the playlists. -/
inductive Held : List Source → Prop
  | loaded (file : Option (List UInt8)) : Held (loadRemoteSources file)
  | merged (file : List UInt8) {sources : List Source} (h : Held sources) :
      Held (mergePreinstalledSources (sourceEntries file) sources).1
  | added (url : CString) {sources : List Source} (h : Held sources)
      (hremote : iptvUrlIsRemote url.bytes = true) (hlength : url.bytes.length < iptvUrlMax) :
      Held (sources ++ [SourceCatalog.addedSource url.bytes])
  | guided (index : ℕ) (entered : CString) {sources : List Source} {source : Source} (h : Held sources)
      (hsource : sources[index]? = some source) :
      Held (sources.set index { source with epgUrl := iptvCopy iptvUrlMax entered.bytes })
  | removed (index : ℕ) {sources : List Source} (h : Held sources) : Held (sources.eraseIdx index)
  | collected (locals : List Source) (found : Source → FoundGuide) {sources : List Source}
      (h : Held sources) :
      Held ((sources ++ locals.map SourceCatalog.localSource).map (SourceCatalog.fillGuide found))

/-- What every remote source of a held list is. -/
structure Source.Fits (source : Source) : Prop where
  texts : SourceEntry.NulFree ⟨source.name, source.url, source.epgUrl⟩
  named : source.name ≠ [] ∧ source.name.length < iptvSourceMax
  url_length : source.url.length < iptvUrlMax
  url_remote : iptvUrlIsRemote source.url = true
  epgUrl_length : source.epgUrl.length < iptvUrlMax

lemma Source.Clean.fits {source : Source} (h : source.Clean) : source.Fits :=
  ⟨⟨fun byte hbyte => (h.name byte hbyte).2, fun byte hbyte => (h.url byte hbyte).2,
    fun byte hbyte => (h.epgUrl byte hbyte).2⟩, ⟨h.named, h.name_length⟩, h.url_length, h.url_remote,
    h.epgUrl_length⟩

lemma forall_iptvCopy {p : UInt8 → Prop} {text : List UInt8} (h : ∀ byte ∈ text, p byte) (size : ℕ) :
    ∀ byte ∈ iptvCopy size text, p byte :=
  fun byte hbyte => h byte ((iptvCopy_sublist _ _).subset hbyte)

lemma forall_bytes (text : CString) : ∀ byte ∈ text.bytes, byte ≠ 0 :=
  fun _ hbyte hnul => text.nul_free (hnul ▸ hbyte)

lemma Source.Fits.guide {source : Source} (h : source.Fits) {epgUrl : List UInt8}
    (hnul : ∀ byte ∈ epgUrl, byte ≠ 0) (hlen : epgUrl.length < iptvUrlMax) :
    Source.Fits { source with epgUrl } :=
  ⟨⟨h.texts.name, h.texts.url, hnul⟩, h.named, h.url_length, h.url_remote, hlen⟩

lemma SourceEntry.NulFree.source (h : entry.NulFree)
    (hrem : iptvUrlIsRemote entry.url) : entry.source.Fits :=
  ⟨⟨entry.forall_source_name h.name h.url (by decide +kernel), forall_iptvCopy h.url _,
    forall_iptvCopy h.epgUrl _⟩, entry.source_named, length_iptvCopy (by decide) _,
    iptvUrlIsRemote_iptvCopy hrem, length_iptvCopy (by decide) _⟩

lemma SourceEntry.NulFree.update (h : entry.NulFree) {source : Source}
    (hsrc : source.Fits) : (entry.update source).1.Fits := by
  have hname : (∀ byte ∈ (entry.update source).1.name, byte ≠ 0) ∧
      (entry.update source).1.name ≠ [] ∧ (entry.update source).1.name.length < iptvSourceMax := by
    rcases entry.update_name source with hsame | ⟨hnamed, hsame⟩
    · rw [hsame]
      exact ⟨hsrc.texts.name, hsrc.named⟩
    · rw [hsame]
      exact ⟨forall_iptvCopy h.name _, iptvCopy_ne_nil (by decide) hnamed, length_iptvCopy (by decide) _⟩
  have hguide : (∀ byte ∈ (entry.update source).1.epgUrl, byte ≠ 0) ∧
      (entry.update source).1.epgUrl.length < iptvUrlMax := by
    rcases entry.update_epgUrl source with hsame | hsame
    · rw [hsame]
      exact ⟨hsrc.texts.epgUrl, hsrc.epgUrl_length⟩
    · rw [hsame]
      exact ⟨forall_iptvCopy h.epgUrl _, length_iptvCopy (by decide) _⟩
  exact ⟨⟨hname.1, hsrc.texts.url, hguide.1⟩, hname.2, hsrc.url_length, hsrc.url_remote, hguide.2⟩

lemma Held.fits {sources : List Source} (h : Held sources) :
    ∀ source ∈ sources, source.isLocal = false → source.Fits := by
  induction h with
  | loaded file => exact fun source hsrc _ => (loadRemoteSources_clean file source hsrc).1.fits
  | merged file _ ih =>
    refine mergePreinstalledSources_induction
      (P := fun sources => ∀ source ∈ sources, source.isLocal = false → source.Fits) ih
      fun entry hentry sources hsources source hsrc hlocal => ?_
    obtain ⟨⟨line, index⟩, -, hline⟩ := mem_filterMap.mp hentry
    obtain ⟨hnul, hrem⟩ := readEntry_nulFree hline
    rcases (mem_mergeEntry entry sources).1 source hsrc with hmem | rfl | ⟨old, hold, -, rfl⟩
    · exact hsources source hmem hlocal
    · exact hnul.source hrem
    · exact hnul.update (hsources old hold hlocal)
  | added url _ hrem hlen ih =>
    intro source hsrc hlocal
    rcases mem_append.mp hsrc with hsrc | hsrc
    · exact ih source hsrc hlocal
    obtain rfl := mem_singleton.mp hsrc
    exact ⟨⟨forall_iptvSourceNameFromUrl (forall_bytes url) (by decide +kernel), forall_iptvCopy (forall_bytes url) _,
      nofun⟩, iptvSourceNameFromUrl_named _, length_iptvCopy (by decide) _,
      iptvUrlIsRemote_iptvCopy hrem, Nat.succ_pos _⟩
  | guided index entered _ hat ih =>
    intro source hsrc hlocal
    rcases mem_or_eq_of_mem_set hsrc with hsrc | rfl
    · exact ih source hsrc hlocal
    · exact (ih _ (mem_of_getElem? hat) hlocal).guide (forall_iptvCopy (forall_bytes entered) _)
        (length_iptvCopy (by decide) _)
  | removed index _ ih =>
    exact fun source hsrc => ih source (mem_of_mem_eraseIdx hsrc)
  | collected locals found _ ih =>
    intro source hsrc hlocal
    obtain ⟨old, hold, rfl⟩ := mem_map.mp hsrc
    have hfits : old.isLocal = false → old.Fits := by
      intro hrem
      rcases mem_append.mp hold with hold | hold
      · exact ih old hold hrem
      · obtain ⟨file, -, rfl⟩ := mem_map.mp hold
        cases hrem
    unfold SourceCatalog.fillGuide at hlocal ⊢
    split_ifs with hnone
    · rw [if_pos hnone] at hlocal
      exact (hfits hlocal).guide (fun byte hbyte => ((found old).2.1 byte hbyte).2) (found old).2.2
    · rw [if_neg hnone] at hlocal
      exact hfits hlocal

/-! ## Reading back -/

/-- No text of the source has a tab or a line end. -/
def Source.Plain (source : Source) : Prop :=
  ∀ byte ∈ source.name ++ source.url ++ source.epgUrl, isFieldEnd byte = false

instance (source : Source) : Decidable source.Plain := by
  unfold Source.Plain
  infer_instance

lemma readSource_plain {line : List UInt8} {source : Source} (h : readSource line = some source) :
    source.Plain := by
  have hclean := (readSource_clean h).1
  have hguide : CleanText source.epgUrl := by
    unfold readSource at h
    split at h
    · rename_i idText enabledText name url fields hfields
      split at h
      · cases h
      split at h
      · obtain rfl := Option.some.inj h
        have hfield := sourceFields_clean line
        rw [hfields] at hfield
        cases fields with
        | nil => exact nofun
        | cons field fields => exact forall_iptvCopy (hfield field (by simp)).1 _
      · cases h
    · cases h
  intro byte hbyte
  rcases mem_append.mp hbyte with hbyte | hbyte
  · rcases mem_append.mp hbyte with hbyte | hbyte
    · exact (hclean.name byte hbyte).1
    · exact (hclean.url byte hbyte).1
  · exact (hguide byte hbyte).1

/-- **When a saved list is read back.** A list that the module holds is read as it was saved just when no
name and no address of a remote source has a tab or a line end in it. -/
theorem savedSources_readBack_iff {sources : List Source} (h : Held sources) :
    loadRemoteSources (some (sourcesText sources)) = remoteSources sources ↔
      ∀ source ∈ remoteSources sources, source.Plain := by
  constructor
  · intro hread source hsource
    rw [← hread] at hsource
    obtain ⟨line, -, hline⟩ := List.mem_filterMap.mp hsource
    exact readSource_plain hline
  intro hplain
  have hclean : ∀ source ∈ remoteSources sources, source.Clean ∧ CleanText source.epgUrl := by
    intro source hsource
    have hfits := h.fits source (List.mem_filter.mp hsource).1
      (by simpa using (List.mem_filter.mp hsource).2)
    have hends := hplain source hsource
    have hguide : CleanText source.epgUrl := fun byte hbyte =>
      ⟨hends byte (by simp [hbyte]), hfits.texts.epgUrl byte hbyte⟩
    exact ⟨⟨fun byte hbyte => ⟨hends byte (by simp [hbyte]), hfits.texts.name byte hbyte⟩,
      hfits.named.1, hfits.named.2,
      fun byte hbyte => ⟨hends byte (by simp [hbyte]), hfits.texts.url byte hbyte⟩,
      hfits.url_length, hfits.url_remote, hguide.lineText, hfits.epgUrl_length⟩, hguide⟩
  rw [loadRemoteSources_sourcesText fun source hsource => (hclean source hsource).1]
  refine (List.map_congr_left fun source hsource => ?_).trans (List.map_id _)
  rw [Source.reread, guideField_of_clean (hclean source hsource).2, id]

/-- A preinstalled source whose name is in two words. -/
def wordedFile : List UInt8 := asciiBytes "News World|http://a/x.m3u\n"

theorem savedSources_readBack_iff_worded :
    loadRemoteSources (some (sourcesText (mergePreinstalledSources (sourceEntries wordedFile) []).1)) =
      remoteSources (mergePreinstalledSources (sourceEntries wordedFile) []).1 :=
  (savedSources_readBack_iff (.merged wordedFile (.loaded none))).mpr (by decide +kernel)

/-- The two words stand behind a tab. -/
def tabbedFile : List UInt8 := asciiBytes "News\tWorld|http://a/x.m3u\n"

/-- Behind the tab the word is taken for the address, and the source is gone. -/
theorem savedSources_readBack_tabbed :
    Held (mergePreinstalledSources (sourceEntries tabbedFile) []).1 ∧
      loadRemoteSources
          (some (sourcesText (mergePreinstalledSources (sourceEntries tabbedFile) []).1)) ≠
        remoteSources (mergePreinstalledSources (sourceEntries tabbedFile) []).1 :=
  ⟨.merged tabbedFile (.loaded none), by decide⟩

end NXCast

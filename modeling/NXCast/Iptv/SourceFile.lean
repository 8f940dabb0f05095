import NXCast.Dlna.EventServer
import NXCast.Iptv.IdFile
import NXCast.Iptv.RefreshWorker
import NXCast.Media.HlsText

/-!
# The file of the remote sources

`sources.tsv`: `iptv_save_remote_sources` writes a line of five fields for each remote source, and
`iptv_load_remote_sources` takes the lines apart with `strtok_r`, which knows no empty field.  The merge
of the preinstalled sources follows the reading; `sources.txt` is given by the entries that its lines
hold.  Neither changes anything of a source but its name and its guide, and what is written of clean
sources reads back: `loadRemoteSources_sourcesText`.

The cache file of a source, its status and its counts are left out, and so are failures of memory.
-/

namespace NXCast

open List

/-! ## Sources -/

/-- `IPTV_SOURCE_MAX` -/
def iptvSourceMax : ℕ := 128
/-- `IPTV_URL_MAX` -/
def iptvUrlMax : ℕ := 1024

/-- `IptvSource` -/
structure Source where
  id : SourceId
  enabled : Bool
  name : List UInt8
  url : List UInt8
  epgUrl : List UInt8
  isLocal : Bool
deriving DecidableEq

/-- What a line of `sources.txt` holds: a guide that is missing or not remote is empty. -/
structure SourceEntry where
  name : List UInt8
  url : List UInt8
  epgUrl : List UInt8
deriving DecidableEq

open SourceEntry

/-- `iptv_copy` into an array of `size` characters. -/
def iptvCopy (size : ℕ) (value : List UInt8) : List UInt8 := value.take (size - 1)

/-- `iptv_hash_bytes` -/
def iptvHashBytes (hash : UInt32) (text : List UInt8) : UInt32 :=
  text.foldl (fun hash byte => (hash ^^^ byte.toUInt32) * 16777619) hash

/-- `iptv_hash_string` -/
def iptvHashString (text : List UInt8) : SourceId :=
  if h : iptvHashBytes 2166136261 text = 0 then ⟨1, by decide⟩
  else ⟨iptvHashBytes 2166136261 text, h⟩

/-- `iptv_url_is_remote` -/
def iptvUrlIsRemote (url : List UInt8) : Bool :=
  startsWithCase url "http://" || startsWithCase url "https://"

/-- What stands behind the first `"://"`. -/
def behindScheme : List UInt8 → Option (List UInt8)
  | 0x3A :: 0x2F :: 0x2F :: text => some text
  | _ :: text => behindScheme text
  | [] => none

/-- `iptv_source_name_from_url` -/
def iptvSourceNameFromUrl (url : List UInt8) : List UInt8 :=
  let name := ((behindScheme url).getD url).takeWhile (· ≠ 0x2F)
  if name = [] then asciiBytes "Remote IPTV" else iptvCopy iptvSourceMax name

/-! ## The writer -/

/-- The line of a source. -/
def sourceLine (source : Source) : List UInt8 :=
  hexId source.id ++ 0x09 :: (if source.enabled then 0x31 else 0x30) :: 0x09 :: source.name ++
    0x09 :: source.url ++ 0x09 :: source.epgUrl ++ [0x0A]

/-- The first line. -/
def sourcesHeader : List UInt8 := asciiBytes "# id\tenabled\tname\tplaylist-url\txmltv-url\n"

/-- The sources that are not of the user's own files. -/
def remoteSources (sources : List Source) : List Source := sources.filter fun source => !source.isLocal

/-- What `iptv_save_remote_sources` writes. -/
def sourcesText (sources : List Source) : List UInt8 :=
  sourcesHeader ++ (remoteSources sources).flatMap sourceLine

/-! ## The reader -/

/-- What `strtok_r` takes for an end of a field. -/
def isFieldEnd (byte : UInt8) : Bool := decide (byte = 0x09 ∨ byte = 0x0D ∨ byte = 0x0A)

/-- The fields that `strtok_r` finds. -/
def sourceFields (line : List UInt8) : List (List UInt8) :=
  ((CString.ofBuffer line).bytes.splitOnP isFieldEnd).filter (· ≠ [])

/-- A line of `iptv_load_remote_sources`. -/
def readSource (line : List UInt8) : Option Source :=
  match sourceFields line with
  | idText :: enabledText :: name :: url :: fields =>
    match scanHex idText with
    | none => none
    | some id =>
      if iptvUrlIsRemote url then
        some
          { id := if h : id = 0 then iptvHashString url else ⟨id, h⟩
            enabled := decide ((strtol enabledText).1 % 2 ^ 32 ≠ 0)
            name := iptvCopy iptvSourceMax name
            url := iptvCopy iptvUrlMax url
            epgUrl := iptvCopy iptvUrlMax (fields.headD [])
            isLocal := false }
      else none
  | _ => none

/-- The loop of `iptv_load_remote_sources`; a file that is not there holds none. -/
def loadRemoteSources (file : Option (List UInt8)) : List Source :=
  (fgetsFrom (iptvUrlMax * 2 + iptvSourceMax + 96) [] (file.getD [])).filterMap readSource

/-! ## Preinstalled sources -/

variable (entry : SourceEntry)

/-- The entry is of the source. -/
def SourceEntry.matches (source : Source) : Bool :=
  decide (source.id = iptvHashString entry.url) || sameText source.url entry.url

/-- The source that `iptv_merge_preinstalled_sources` makes of an entry. -/
def SourceEntry.source : Source :=
  { id := iptvHashString entry.url
    enabled := true
    name :=
      if entry.name ≠ [] then iptvCopy iptvSourceMax entry.name
      else iptvSourceNameFromUrl entry.url
    url := iptvCopy iptvUrlMax entry.url
    epgUrl := iptvCopy iptvUrlMax entry.epgUrl
    isLocal := false }

/-- What the entry changes of a source that is there, and whether it does. -/
def SourceEntry.update (source : Source) : Source × Bool :=
  let named := decide (entry.name ≠ [] ∧ source.name ≠ entry.name)
  let guided := decide (entry.epgUrl ≠ [] ∧ source.epgUrl ≠ entry.epgUrl)
  ({ source with
      name := if named then iptvCopy iptvSourceMax entry.name else source.name
      epgUrl := if guided then iptvCopy iptvUrlMax entry.epgUrl else source.epgUrl },
    named || guided)

/-- A line of `iptv_merge_preinstalled_sources`: the sources, and whether any is changed. -/
def mergeEntry (entry : SourceEntry) : List Source → List Source × Bool
  | [] => ([entry.source], true)
  | source :: sources =>
    if entry.matches source then ((entry.update source).1 :: sources, (entry.update source).2)
    else (source :: (mergeEntry entry sources).1, (mergeEntry entry sources).2)

/-- `iptv_merge_preinstalled_sources` -/
def mergePreinstalledSources (entries : List SourceEntry) (sources : List Source) :
    List Source × Bool :=
  entries.foldl
    (fun merged entry =>
      ((mergeEntry entry merged.1).1, merged.2 || (mergeEntry entry merged.1).2))
    (sources, false)

/-- `iptv_remove_preinstalled_source` -/
def removePreinstalledSource (url : List UInt8) (entries : List SourceEntry) : List SourceEntry :=
  entries.filter fun entry => !sameText entry.url url

/-! ## Clean sources -/

/-- A text that a field of a line can hold. -/
def CleanText (text : List UInt8) : Prop := ∀ byte ∈ text, isFieldEnd byte = false ∧ byte ≠ 0

/-- A text that stands on one line. -/
def LineText (text : List UInt8) : Prop := ∀ byte ∈ text, byte ≠ 0x0A ∧ byte ≠ 0

/-- A source that is read back when its line is; its guide may be cut. -/
structure Source.Clean (source : Source) : Prop where
  name : CleanText source.name
  named : source.name ≠ []
  name_length : source.name.length < iptvSourceMax
  url : CleanText source.url
  url_length : source.url.length < iptvUrlMax
  url_remote : iptvUrlIsRemote source.url = true
  epgUrl : LineText source.epgUrl
  epgUrl_length : source.epgUrl.length < iptvUrlMax

/-- An entry of which a clean source is made. -/
structure SourceEntry.Clean (entry : SourceEntry) : Prop where
  name : CleanText entry.name
  url : CleanText entry.url
  url_length : entry.url.length < iptvUrlMax
  url_remote : iptvUrlIsRemote entry.url = true
  epgUrl : LineText entry.epgUrl

/-- The first field that a guide's text holds. -/
def guideField (epgUrl : List UInt8) : List UInt8 :=
  ((epgUrl.splitOnP isFieldEnd).filter (· ≠ [])).headD []

/-- The source as its line reads back. -/
def Source.reread (source : Source) : Source := { source with epgUrl := guideField source.epgUrl }

variable {text field : List UInt8}

lemma CleanText.sublist (h : CleanText text) (hfield : field.Sublist text) :
    CleanText field :=
  fun byte hbyte => h byte (hfield.subset hbyte)

lemma CleanText.lineText (h : CleanText text) : LineText text := by
  intro byte hbyte
  refine ⟨fun hfeed => ?_, (h byte hbyte).2⟩
  exact absurd (h byte hbyte).1 (by rw [hfeed]; decide)

lemma LineText.sublist (h : LineText text) (hfield : field.Sublist text) :
    LineText field :=
  fun byte hbyte => h byte (hfield.subset hbyte)

lemma LineText.notMem (h : LineText text) :
    (0x0A : UInt8) ∉ text ∧ (0 : UInt8) ∉ text :=
  ⟨fun hmem => (h 0x0A hmem).1 rfl, fun hmem => (h 0 hmem).2 rfl⟩

lemma iptvCopy_sublist (size : ℕ) (text : List UInt8) : (iptvCopy size text).Sublist text :=
  take_sublist _ _

lemma length_iptvCopy {size : ℕ} (hsize : 0 < size) (text : List UInt8) :
    (iptvCopy size text).length < size := by
  rw [iptvCopy, length_take]
  omega

lemma iptvCopy_of_length {size : ℕ} (h : text.length < size) :
    iptvCopy size text = text := take_of_length_le (by omega)

lemma iptvCopy_ne_nil {size : ℕ} (hsize : 1 < size) (h : text ≠ []) :
    iptvCopy size text ≠ [] := by
  rw [iptvCopy, Ne, take_eq_nil_iff]
  rintro (hzero | hnil)
  · omega
  · exact h hnil

variable {url : List UInt8}

lemma iptvUrlIsRemote_iptvCopy (h : iptvUrlIsRemote url) :
    iptvUrlIsRemote (iptvCopy iptvUrlMax url) := by
  have htake : ∀ count ≤ 8, (iptvCopy iptvUrlMax url).take count = url.take count := by
    intro count hcount
    rw [iptvCopy, take_take, Nat.min_eq_left (by unfold iptvUrlMax; omega)]
  unfold iptvUrlIsRemote startsWithCase at h ⊢
  rw [htake _ (by decide), htake _ (by decide)]
  exact h

lemma ne_nil_of_remote (h : iptvUrlIsRemote url) : url ≠ [] := by
  intro hnil
  rw [hnil] at h
  exact absurd h (by decide)

lemma splitOnP_pieces {α : Type*} {ends : α → Bool} (text : List α) :
    ∀ piece ∈ text.splitOnP ends, piece.Sublist text ∧ ∀ value ∈ piece, ends value = false := by
  induction text with
  | nil =>
    intro piece hpiece
    rw [splitOnP_nil, mem_singleton] at hpiece
    subst hpiece
    exact ⟨List.Sublist.refl _, nofun⟩
  | cons first text ih =>
    obtain ⟨head, tail, htext⟩ := exists_cons_of_ne_nil (splitOnP_ne_nil ends text)
    rw [htext] at ih
    intro piece hpiece
    rw [splitOnP_cons_eq_if_modifyHead, htext] at hpiece
    split_ifs at hpiece with hfirst
    · rcases mem_cons.mp hpiece with rfl | hpiece
      · exact ⟨nil_sublist _, nofun⟩
      · exact ⟨(ih piece hpiece).1.cons first, (ih piece hpiece).2⟩
    rcases mem_cons.mp hpiece with rfl | hpiece
    · obtain ⟨hsublist, hnone⟩ := ih head mem_cons_self
      refine ⟨hsublist.cons_cons first, fun value hvalue => ?_⟩
      rcases mem_cons.mp hvalue with rfl | hvalue
      · simpa using hfirst
      · exact hnone value hvalue
    · obtain ⟨hsublist, hnone⟩ := ih piece (.tail _ hpiece)
      exact ⟨hsublist.cons first, hnone⟩

lemma guideField_sublist (epgUrl : List UInt8) : (guideField epgUrl).Sublist epgUrl := by
  unfold guideField
  cases hfields : (epgUrl.splitOnP isFieldEnd).filter (· ≠ []) with
  | nil => exact nil_sublist _
  | cons field fields =>
    have hmem : field ∈ (epgUrl.splitOnP isFieldEnd).filter (· ≠ []) := by
      rw [hfields]
      exact .head _
    exact (splitOnP_pieces epgUrl field (mem_filter.mp hmem).1).1

lemma guideField_of_clean {epgUrl : List UInt8} (h : CleanText epgUrl) : guideField epgUrl = epgUrl := by
  unfold guideField
  rw [splitOnP_eq_singleton fun byte hbyte => (h byte hbyte).1]
  by_cases hnil : epgUrl = []
  all_goals simp [hnil]

lemma Source.Clean.guide {source : Source} (h : source.Clean) {epgUrl : List UInt8}
    (hline : LineText epgUrl) (hlen : epgUrl.length < iptvUrlMax) :
    Source.Clean { source with epgUrl } :=
  ⟨h.name, h.named, h.name_length, h.url, h.url_length, h.url_remote, hline, hlen⟩

lemma Source.Clean.reread {source : Source} (h : source.Clean) : source.reread.Clean :=
  h.guide (h.epgUrl.sublist (guideField_sublist _))
    (Nat.lt_of_le_of_lt (guideField_sublist _).length_le h.epgUrl_length)

/-! ## Round trip -/

lemma cleanText_hexId (id : UInt32) : CleanText (hexId id) := by
  intro byte hbyte
  obtain ⟨place, hplace, rfl⟩ := exists_hexDigit hbyte
  have hdigs : ∀ place < 16, isFieldEnd (hexDigit place) = false ∧ hexDigit place ≠ 0 := by decide
  exact hdigs place hplace

lemma hexId_ne_nil (id : UInt32) : hexId id ≠ [] := by simp [hexId, hexPlaces]

lemma cleanText_enabled (enabled : Bool) : CleanText [if enabled then 0x31 else 0x30] := by
  intro byte hbyte
  rw [mem_singleton] at hbyte
  subst hbyte
  cases enabled <;> decide

lemma splitOnP_field (h : CleanText field) (text : List UInt8) :
    (field ++ 0x09 :: text).splitOnP isFieldEnd = field :: text.splitOnP isFieldEnd :=
  splitOnP_append_cons_of_forall_mem (fun byte hbyte => (h byte hbyte).1) 0x09 rfl text

lemma lineText_sourceLine {source : Source} (h : source.Clean) :
    ∃ line, sourceLine source = line ++ [0x0A] ∧ LineText line := by
  refine ⟨_, rfl, ?_⟩
  intro byte hbyte
  have hid := (cleanText_hexId source.id).lineText byte
  have hfields : byte ∈ [if source.enabled then (0x31 : UInt8) else 0x30] → byte ≠ 0x0A ∧ byte ≠ 0 :=
    (cleanText_enabled source.enabled).lineText byte
  have hname := h.name.lineText byte
  have hurl := h.url.lineText byte
  have hguide := h.epgUrl byte
  have htab : byte = 0x09 → byte ≠ 0x0A ∧ byte ≠ 0 := by
    rintro rfl
    decide
  simp only [mem_append, mem_cons, not_mem_nil, or_false] at hbyte hfields
  tauto

lemma sourceFields_sourceLine {source : Source} (h : source.Clean) :
    sourceFields (sourceLine source) =
      hexId source.id :: [if source.enabled then 0x31 else 0x30] :: source.name :: source.url ::
        (source.epgUrl.splitOnP isFieldEnd).filter (· ≠ []) := by
  have hurl : source.url ≠ [] := ne_nil_of_remote h.url_remote
  obtain ⟨line, htext, hline⟩ := lineText_sourceLine h
  have hnul : (0 : UInt8) ∉ sourceLine source := by
    rw [htext, mem_append, mem_singleton]
    rintro (hmem | hmem)
    · exact hline.notMem.2 hmem
    · exact absurd hmem (by decide)
  have hfields : sourceLine source =
      hexId source.id ++ 0x09 :: ([if source.enabled then 0x31 else 0x30] ++
        0x09 :: (source.name ++ 0x09 :: (source.url ++ 0x09 :: (source.epgUrl ++ 0x0A :: [])))) := by
    simp [sourceLine]
  rw [sourceFields, CString.bytes_ofBuffer hnul, hfields, splitOnP_field (cleanText_hexId _),
    splitOnP_field (cleanText_enabled _), splitOnP_field h.name, splitOnP_field h.url,
    splitOnP_append_cons _ _ (by decide), splitOnP_nil]
  simp [h.named, hurl, hexId_ne_nil]

lemma readSource_sourceLine {source : Source} (h : source.Clean) (hrem : source.isLocal = false) :
    readSource (sourceLine source) = some source.reread := by
  have hid : scanHex (hexId source.id) = some source.id.1 := by
    have hread : scanHex (hexId source.id ++ []) = _ := scanHex_hexId source.id rfl (by decide)
    rwa [append_nil] at hread
  have henabled : decide ((strtol [if source.enabled then 0x31 else 0x30]).1 % 2 ^ 32 ≠ 0) =
      source.enabled := by
    cases source.enabled <;> decide
  have hguide : iptvCopy iptvUrlMax (((source.epgUrl.splitOnP isFieldEnd).filter (· ≠ [])).headD []) =
      guideField source.epgUrl :=
    iptvCopy_of_length h.reread.epgUrl_length
  unfold readSource
  rw [sourceFields_sourceLine h]
  simp only [hid, h.url_remote, if_true, dif_neg source.id.2, henabled, hguide,
    iptvCopy_of_length h.name_length, iptvCopy_of_length h.url_length, Option.some.injEq]
  rw [Source.reread, ← hrem]

lemma length_sourceLine {source : Source} (h : source.Clean) :
    (sourceLine source).length < iptvUrlMax * 2 + iptvSourceMax + 96 := by
  have hname := h.name_length
  have hurl := h.url_length
  have hguide := h.epgUrl_length
  simp only [sourceLine, hexId, hexPlaces, length_append, length_cons, length_map, length_nil]
  omega

/-- A line that was written is the next that `fgets` reads. -/
lemma fgetsFrom_sourceLine {source : Source} (h : source.Clean) (text : List UInt8) :
    fgetsFrom (iptvUrlMax * 2 + iptvSourceMax + 96) [] (sourceLine source ++ text) =
      sourceLine source :: fgetsFrom (iptvUrlMax * 2 + iptvSourceMax + 96) [] text := by
  obtain ⟨line, htext, hline⟩ := lineText_sourceLine h
  have hlen := length_sourceLine h
  rw [htext] at hlen ⊢
  rw [length_append, length_singleton] at hlen
  rw [append_assoc, singleton_append,
    fgetsFrom_line text [] hline.notMem.1 (by rw [length_nil]; omega), nil_append]

/-- **Round trip.** The sources that were written are the ones that are read, with their guides as a field
holds them. -/
lemma loadRemoteSources_sourcesText {sources : List Source}
    (h : ∀ source ∈ remoteSources sources, source.Clean) :
    loadRemoteSources (some (sourcesText sources)) = (remoteSources sources).map Source.reread := by
  have hhead : ∃ line, sourcesHeader = line ++ [0x0A] ∧ (0x0A : UInt8) ∉ line ∧
      line.length + 2 ≤ iptvUrlMax * 2 + iptvSourceMax + 96 ∧ readSource (line ++ [0x0A]) = none :=
    ⟨sourcesHeader.dropLast, by decide, by decide, by decide, by decide⟩
  obtain ⟨header, htext, hfeed, hlen, hnone⟩ := hhead
  have hrem : ∀ source ∈ remoteSources sources, source.isLocal = false := by
    intro source hsrc
    simpa using (mem_filter.mp hsrc).2
  unfold loadRemoteSources
  rw [sourcesText, htext, Option.getD_some, append_assoc, singleton_append,
    fgetsFrom_line _ [] hfeed (by rw [length_nil]; omega), nil_append,
    filterMap_cons_none hnone]
  generalize remoteSources sources = rows at h hrem
  induction rows with
  | nil => rfl
  | cons row rows ih =>
    have hrow := h row mem_cons_self
    rw [flatMap_cons, fgetsFrom_sourceLine hrow, filterMap_cons,
      readSource_sourceLine hrow (hrem row mem_cons_self),
      ih (fun other hother => h other (.tail _ hother))
        fun other hother => hrem other (.tail _ hother)]
    rfl

/-! ## What is read is clean -/

lemma sourceFields_clean (line : List UInt8) : ∀ field ∈ sourceFields line, CleanText field ∧ field ≠ [] := by
  intro field hfield
  obtain ⟨hpiece, hne⟩ := mem_filter.mp hfield
  obtain ⟨hsublist, hends⟩ := splitOnP_pieces _ field hpiece
  refine ⟨fun byte hbyte => ⟨hends byte hbyte, fun hnul => ?_⟩, by simpa using hne⟩
  exact (CString.ofBuffer line).nul_free (hnul ▸ hsublist.subset hbyte)

lemma readSource_clean {line : List UInt8} {source : Source} (h : readSource line = some source) :
    source.Clean ∧ source.isLocal = false := by
  unfold readSource at h
  split at h
  · rename_i idText enabledText name url fields hfields
    split at h
    · cases h
    split at h
    · rename_i hrem
      obtain rfl := Option.some.inj h
      have hclean := sourceFields_clean line
      rw [hfields] at hclean
      obtain ⟨hname, hnamed⟩ := hclean name (by simp)
      obtain ⟨hurl, -⟩ := hclean url (by simp)
      have hguide : CleanText (fields.headD []) := by
        cases fields with
        | nil => exact nofun
        | cons field fields => exact (hclean field (by simp)).1
      refine ⟨⟨hname.sublist (iptvCopy_sublist _ _), iptvCopy_ne_nil (by decide) hnamed,
        length_iptvCopy (by decide) _, hurl.sublist (iptvCopy_sublist _ _),
        length_iptvCopy (by decide) _, iptvUrlIsRemote_iptvCopy hrem,
        (hguide.sublist (iptvCopy_sublist _ _)).lineText, length_iptvCopy (by decide) _⟩, rfl⟩
    · cases h
  · cases h

lemma loadRemoteSources_clean (file : Option (List UInt8)) :
    ∀ source ∈ loadRemoteSources file, source.Clean ∧ source.isLocal = false := by
  intro source hsrc
  obtain ⟨line, -, hline⟩ := mem_filterMap.mp hsrc
  exact readSource_clean hline

lemma behindScheme_sublist (h : behindScheme url = some text) :
    text.Sublist url := by
  fun_induction behindScheme url with
  | case1 rest =>
    obtain rfl := Option.some.inj h
    exact ((List.Sublist.refl _).cons _ |>.cons _ |>.cons _)
  | case2 first rest hno ih => exact (ih h).cons _
  | case3 => cases h

lemma iptvSourceNameFromUrl_named (url : List UInt8) :
    iptvSourceNameFromUrl url ≠ [] ∧ (iptvSourceNameFromUrl url).length < iptvSourceMax := by
  unfold iptvSourceNameFromUrl
  dsimp only
  split_ifs with hname
  · decide
  · exact ⟨iptvCopy_ne_nil (by decide) hname, length_iptvCopy (by decide) _⟩

/-- What holds of the bytes of an address and of the name that stands in holds of the name. -/
lemma forall_iptvSourceNameFromUrl {p : UInt8 → Prop}
    (hurl : ∀ byte ∈ url, p byte) (hrem : ∀ byte ∈ asciiBytes "Remote IPTV", p byte) :
    ∀ byte ∈ iptvSourceNameFromUrl url, p byte := by
  have hbehind : ∀ byte ∈ (behindScheme url).getD url, p byte := by
    cases hsch : behindScheme url with
    | none => exact hurl
    | some text => exact fun byte hbyte => hurl byte ((behindScheme_sublist hsch).subset hbyte)
  unfold iptvSourceNameFromUrl
  dsimp only
  split
  · exact hrem
  · exact fun byte hbyte => hbehind byte
      ((takeWhile_sublist _).subset ((iptvCopy_sublist _ _).subset hbyte))

lemma iptvSourceNameFromUrl_clean (h : CleanText url) :
    CleanText (iptvSourceNameFromUrl url) ∧ iptvSourceNameFromUrl url ≠ [] ∧
      (iptvSourceNameFromUrl url).length < iptvSourceMax :=
  ⟨forall_iptvSourceNameFromUrl h (by decide +kernel), iptvSourceNameFromUrl_named url⟩

lemma SourceEntry.source_named :
    entry.source.name ≠ [] ∧ entry.source.name.length < iptvSourceMax := by
  unfold source
  split_ifs with hname
  · exact ⟨iptvCopy_ne_nil (by decide) hname, length_iptvCopy (by decide) _⟩
  · exact iptvSourceNameFromUrl_named _

lemma SourceEntry.forall_source_name {entry : SourceEntry} {p : UInt8 → Prop}
    (hname : ∀ byte ∈ entry.name, p byte) (hurl : ∀ byte ∈ entry.url, p byte)
    (hrem : ∀ byte ∈ asciiBytes "Remote IPTV", p byte) : ∀ byte ∈ entry.source.name, p byte := by
  unfold source
  split
  · exact fun byte hbyte => hname byte ((iptvCopy_sublist _ _).subset hbyte)
  · exact forall_iptvSourceNameFromUrl hurl hrem

lemma SourceEntry.update_name (source : Source) :
    (entry.update source).1.name = source.name ∨
      entry.name ≠ [] ∧ (entry.update source).1.name = iptvCopy iptvSourceMax entry.name := by
  unfold update
  dsimp only
  split_ifs with hnamed
  · exact .inr ⟨(of_decide_eq_true hnamed).1, rfl⟩
  · exact .inl rfl

lemma SourceEntry.update_epgUrl (source : Source) :
    (entry.update source).1.epgUrl = source.epgUrl ∨
      (entry.update source).1.epgUrl = iptvCopy iptvUrlMax entry.epgUrl := by
  unfold update
  dsimp only
  split
  · exact .inr rfl
  · exact .inl rfl

lemma SourceEntry.Clean.source {entry : SourceEntry} (h : entry.Clean) : entry.source.Clean :=
  ⟨entry.forall_source_name h.name h.url (by decide +kernel), entry.source_named.1, entry.source_named.2,
    h.url.sublist (iptvCopy_sublist _ _), length_iptvCopy (by decide) _,
    iptvUrlIsRemote_iptvCopy h.url_remote, h.epgUrl.sublist (iptvCopy_sublist _ _),
    length_iptvCopy (by decide) _⟩

lemma SourceEntry.Clean.update {entry : SourceEntry} (h : entry.Clean) {source : Source}
    (hsrc : source.Clean) : (entry.update source).1.Clean := by
  have hname : CleanText (entry.update source).1.name ∧ (entry.update source).1.name ≠ [] ∧
      (entry.update source).1.name.length < iptvSourceMax := by
    rcases entry.update_name source with hsame | ⟨hnamed, hsame⟩
    · rw [hsame]
      exact ⟨hsrc.name, hsrc.named, hsrc.name_length⟩
    · rw [hsame]
      exact ⟨h.name.sublist (iptvCopy_sublist _ _), iptvCopy_ne_nil (by decide) hnamed,
        length_iptvCopy (by decide) _⟩
  have hguide : LineText (entry.update source).1.epgUrl ∧
      (entry.update source).1.epgUrl.length < iptvUrlMax := by
    rcases entry.update_epgUrl source with hsame | hsame
    · rw [hsame]
      exact ⟨hsrc.epgUrl, hsrc.epgUrl_length⟩
    · rw [hsame]
      exact ⟨h.epgUrl.sublist (iptvCopy_sublist _ _), length_iptvCopy (by decide) _⟩
  exact ⟨hname.1, hname.2.1, hname.2.2, hsrc.url, hsrc.url_length, hsrc.url_remote,
    hguide.1, hguide.2⟩

/-- What a merge may make of the sources: each stays or is changed as the entry says, and the entry's own
source may follow. -/
lemma mem_mergeEntry (sources : List Source) :
    (∀ source ∈ (mergeEntry entry sources).1, source ∈ sources ∨ source = entry.source ∨
      ∃ old ∈ sources, entry.matches old ∧ source = (entry.update old).1) ∧
    ∀ old ∈ sources, old ∈ (mergeEntry entry sources).1 ∨
      (entry.matches old ∧ (entry.update old).1 ∈ (mergeEntry entry sources).1) := by
  induction sources with
  | nil => exact ⟨fun source hsrc => .inr (.inl (mem_singleton.mp hsrc)), nofun⟩
  | cons first sources ih =>
    unfold mergeEntry
    split
    · rename_i hmatches
      refine ⟨fun source hsrc => ?_, fun old hold => ?_⟩
      · rcases mem_cons.mp hsrc with rfl | hsrc
        · exact .inr (.inr ⟨first, .head _, hmatches, rfl⟩)
        · exact .inl (.tail _ hsrc)
      · rcases mem_cons.mp hold with rfl | hold
        · exact .inr ⟨hmatches, mem_cons_self⟩
        · exact .inl (.tail _ hold)
    · refine ⟨fun source hsrc => ?_, fun old hold => ?_⟩
      · rcases mem_cons.mp hsrc with rfl | hsrc
        · exact .inl mem_cons_self
        rcases ih.1 source hsrc with hmem | hsrc | ⟨old, hold, hmatches, hsrc⟩
        · exact .inl (.tail _ hmem)
        · exact .inr (.inl hsrc)
        · exact .inr (.inr ⟨old, .tail _ hold, hmatches, hsrc⟩)
      · rcases mem_cons.mp hold with rfl | hold
        · exact .inl mem_cons_self
        · exact (ih.2 old hold).imp (mem_cons_of_mem _)
            fun ⟨hmatches, hmem⟩ => ⟨hmatches, .tail _ hmem⟩

/-- A property of the sources that each entry keeps holds of them after the merge. -/
lemma mergePreinstalledSources_induction {entries : List SourceEntry} {P : List Source → Prop}
    {sources : List Source} (hsources : P sources)
    (hentry : ∀ entry ∈ entries, ∀ sources, P sources → P (mergeEntry entry sources).1) :
    P (mergePreinstalledSources entries sources).1 := by
  unfold mergePreinstalledSources
  generalize false = changed
  induction entries generalizing sources changed with
  | nil => exact hsources
  | cons entry entries ih =>
    exact ih (hentry entry mem_cons_self sources hsources)
      (fun other hother => hentry other (.tail _ hother)) _

end NXCast

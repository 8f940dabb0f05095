import NXCast.Framework.Program
import NXCast.Media.HlsText

/-!
# Rewriting a master playlist

`hls_rewrite_master_locked` goes through the lines of a master playlist: it drops the variants
the player cannot decode, registers every media playlist it meets under its resolved URL, and
puts a local URI in the place of each.  A line without a playlist URI is copied.

`HlsServedLine` says where a line of the served playlist comes from, and
`hlsRewriteMaster_spec` that the rewriting writes only such lines.
-/

namespace NXCast

open TextSearch List

/-- `AirPlayRemoteHlsMedia` -/
structure AirPlayRemoteHlsMedia where
  sourceUrl : List UInt8
  playlist : Option (List UInt8)
deriving DecidableEq

/-- What the rewriting changes as it goes: the media of the store, the flag of the variant it is
in and the text written so far. -/
structure HlsMasterScan where
  media : List AirPlayRemoteHlsMedia
  keepNextVariantUri : Bool
  output : List UInt8

/-- A part of the rewriting; it stops where the source gives up. -/
abbrev HlsMasterM := EStateM Unit HlsMasterScan

/-- `hls_buffer_append` -/
def hlsBufferAppend (bytes : List UInt8) : HlsMasterM Unit := do
  let scan ← get
  if bytes.length > airplayRtspMaxResponseBodyBytes - scan.output.length then throw ()
  else set { scan with output := scan.output ++ bytes }

/-- `hls_register_media_locked`; the copy of the resolved URL fits, since both arrays have the
same size. -/
def hlsRegisterMedia (base reference : List UInt8) : HlsMasterM ℕ := do
  match hlsResolveUri base reference with
  | none => throw ()
  | some resolved =>
    let scan ← get
    match scan.media.findIdx? fun media : AirPlayRemoteHlsMedia => media.sourceUrl = resolved with
    | some index => return index
    | none =>
      if scan.media.length ≥ airplayRemoteHlsMaxMediaPlaylists then throw ()
      else
        set { scan with media := scan.media ++ [AirPlayRemoteHlsMedia.mk resolved none] }
        return scan.media.length

/-- The URI of the playlist that is stored under an index. -/
def hlsLocalMediaUri (index : ℕ) : List UInt8 :=
  asciiBytes "media/" ++ Decimal.digits index ++ asciiBytes ".m3u8"

/-- `hls_append_local_media_uri` -/
def hlsAppendLocalMediaUri (index : ℕ) : HlsMasterM Unit := hlsBufferAppend (hlsLocalMediaUri index)

/-- A line is written as it is. -/
def hlsCopyLine (line : List UInt8) : HlsMasterM Unit := do
  hlsBufferAppend line
  hlsBufferAppend [hlsNewline]

/-- A line is written with its playlist URI replaced. -/
def hlsReplaceUri (masterSource front uri back : List UInt8) : HlsMasterM Unit := do
  if uri.length > airplayRemoteHlsUrlMax then throw ()
  else
    let index ← hlsRegisterMedia masterSource uri
    hlsBufferAppend front
    hlsAppendLocalMediaUri index
    hlsBufferAppend back
    hlsBufferAppend [hlsNewline]

/-- The playlist URI of a line with what stands in front of it and behind it: in a tag the value
of its URI attribute, elsewhere the whole line. -/
def hlsPlaylistUri (line : List UInt8) : Option (List UInt8 × List UInt8 × List UInt8) :=
  if line.head? = some 0x23 then
    (hlsFindUriAttribute line).filter fun parts => hlsUriSpanIsPlaylist parts.2.1
  else if line ≠ [] ∧ hlsUriSpanIsPlaylist line then some ([], line, [])
  else none

/-- A line that is kept. -/
def hlsKeepLine (masterSource line : List UInt8) : HlsMasterM Unit :=
  match hlsPlaylistUri line with
  | some (front, uri, back) => hlsReplaceUri masterSource front uri back
  | none => hlsCopyLine line

/-- One turn of the loop of `hls_rewrite_master_locked`. -/
def hlsRewriteMasterLine (preferH264 : Bool) (masterSource line : List UInt8) :
    HlsMasterM Unit := do
  if hlsLineStartsWith line "#EXT-X-STREAM-INF:" then
    let keep := !preferH264 || hlsStreamVideoCodec line ≠ .other
    modify fun scan => { scan with keepNextVariantUri := keep }
    if keep then hlsKeepLine masterSource line
    else return ()
  else
    let scan ← get
    if line.head? ≠ some 0x23 ∧ (hlsPlaylistUri line).isSome ∧
        scan.keepNextVariantUri = false then
      -- the URI of a variant that is filtered out
      set { scan with keepNextVariantUri := true }
    else hlsKeepLine masterSource line

/-- `hls_rewrite_master_locked` on a store without media. -/
def hlsRewriteMaster (masterSource bytes : List UInt8) :
    EStateM.Result Unit HlsMasterScan Unit :=
  ((hlsLines bytes).forM (hlsRewriteMasterLine (hlsMasterHasH264Variant bytes) masterSource)).run
    ⟨[], true, []⟩

/-! ## What the rewriting writes -/

/-- The media of a store: distinct URLs that fit, as many as there is room for. -/
structure HlsRegistered (media : List AirPlayRemoteHlsMedia) : Prop where
  distinct : (media.map (·.sourceUrl)).Nodup
  within : media.length ≤ airplayRemoteHlsMaxMediaPlaylists
  fits : ∀ entry ∈ media, entry.sourceUrl.length ≤ airplayRemoteHlsUrlMax

/-- Where a line of the served master playlist comes from: it is a received line whose playlist
URI has been replaced by the local URI of what it resolves to, or a received line without a
playlist URI.  `urls` are the URLs of the registered media. -/
inductive HlsServedLine (urls : List (List UInt8)) (masterSource received : List UInt8) :
    List UInt8 → Prop where
  | replaced {line front uri back url : List UInt8} {index : ℕ}
      (hline : line ∈ hlsLines received) (huri : hlsPlaylistUri line = some (front, uri, back))
      (hindex : urls[index]? = some url) (hresolved : hlsResolveUri masterSource uri = some url) :
      HlsServedLine urls masterSource received (front ++ hlsLocalMediaUri index ++ back)
  | copied {line : List UInt8} (hline : line ∈ hlsLines received)
      (huri : hlsPlaylistUri line = none) : HlsServedLine urls masterSource received line

lemma HlsRegistered.nil : HlsRegistered [] :=
  ⟨nodup_nil, Nat.zero_le _, nofun⟩

lemma map_sourceUrl_set {media : List AirPlayRemoteHlsMedia} {index : ℕ}
    {entry : AirPlayRemoteHlsMedia} (h : media[index]? = some entry)
    (playlist : Option (List UInt8)) :
    (media.set index { entry with playlist }).map (·.sourceUrl) = media.map (·.sourceUrl) := by
  obtain ⟨hindex, rfl⟩ := List.getElem?_eq_some_iff.mp h
  rw [map_set]
  exact (congrArg _ (getElem_map _).symm).trans (set_getElem_self (by simpa using hindex))

lemma HlsRegistered.congr {media media' : List AirPlayRemoteHlsMedia}
    (h : HlsRegistered media) (hurls : media'.map (·.sourceUrl) = media.map (·.sourceUrl)) :
    HlsRegistered media' where
  distinct := by
    rw [hurls]
    exact h.distinct
  within := by
    have hlen := congrArg length hurls
    rw [length_map, length_map] at hlen
    rw [hlen]
    exact h.within
  fits := by
    intro entry hentry
    have hmem := mem_map_of_mem (f := (·.sourceUrl)) hentry
    rw [hurls] at hmem
    obtain ⟨other, hother, hurl⟩ := mem_map.mp hmem
    rw [← hurl]
    exact h.fits other hother

lemma length_hlsResolveUri {base reference resolved : List UInt8}
    (h : hlsResolveUri base reference = some resolved) :
    resolved.length ≤ airplayRemoteHlsUrlMax := by
  have hprint : ∀ {text : List UInt8}, hlsPrint airplayRemoteHlsUrlMax text = some resolved →
      resolved.length ≤ airplayRemoteHlsUrlMax := by
    intro text htext
    unfold hlsPrint at htext
    split at htext
    · rename_i hfits
      rw [← Option.some.inj htext]
      exact hfits.2
    · cases htext
  unfold hlsResolveUri at h
  dsimp only at h
  split at h
  · cases h
  split at h
  · unfold hlsCopy at h
    split at h
    · cases h
    rename_i hfits
    rw [← Option.some.inj h]
    exact Nat.lt_succ_iff.mp (Nat.lt_of_not_le hfits)
  split at h
  · split at h
    · cases h
    · exact hprint h
  cases hroot : (if hlsLineStartsWith reference "/" = true then
      first (asciiBytes "://") base else none) with
  | some schemeEnd =>
    rw [hroot] at h
    exact hprint h
  | none =>
    rw [hroot] at h
    dsimp only at h
    split at h
    · cases h
    · exact hprint h

variable {line : List UInt8}

lemma hlsPlaylistUri_eq {front uri back : List UInt8}
    (h : hlsPlaylistUri line = some (front, uri, back)) : front ++ uri ++ back = line := by
  unfold hlsPlaylistUri at h
  split at h
  · obtain ⟨hattr, -⟩ := Option.filter_eq_some_iff.mp h
    unfold hlsFindUriAttribute at hattr
    split at hattr
    · cases hattr
    rename_i index _
    simp only [] at hattr
    split at hattr
    · cases hattr
    simp only [Option.some.injEq, Prod.mk.injEq] at hattr
    obtain ⟨rfl, rfl, rfl⟩ := hattr
    rw [append_assoc, takeWhile_append_dropWhile, take_append_drop]
  · split at h
    · simp only [Option.some.injEq, Prod.mk.injEq] at h
      obtain ⟨rfl, rfl, rfl⟩ := h
      simp
    · cases h

lemma newline_not_mem_hlsContent (h : hlsNewline ∉ line) : hlsNewline ∉ hlsContent line := by
  unfold hlsContent
  split
  · exact fun hmem => h (dropLast_subset line hmem)
  · exact h

lemma newline_not_mem_of_mem_hlsLines {bytes : List UInt8} (h : line ∈ hlsLines bytes) :
    hlsNewline ∉ line := by
  obtain ⟨whole, hwhole, rfl⟩ := mem_map.mp h
  exact newline_not_mem_hlsContent (not_mem_of_mem_lines hwhole)

lemma newline_not_mem_hlsLocalMediaUri (index : ℕ) : hlsNewline ∉ hlsLocalMediaUri index := by
  unfold hlsLocalMediaUri
  rw [mem_append, mem_append, not_or, not_or]
  refine ⟨⟨by decide, fun hdigit => ?_⟩, by decide⟩
  have hrange := (Decimal.isDigit_of_mem_digits index _ hdigit).1
  exact absurd hrange (by decide)

variable {urls : List (List UInt8)} {masterSource received : List UInt8}

lemma HlsServedLine.newline_not_mem (h : HlsServedLine urls masterSource received line) :
    hlsNewline ∉ line := by
  cases h with
  | @replaced original front uri back url index hline huri hindex hres =>
    have horiginal := newline_not_mem_of_mem_hlsLines hline
    rw [← hlsPlaylistUri_eq huri, mem_append, mem_append, not_or, not_or] at horiginal
    rw [mem_append, mem_append, not_or, not_or]
    exact ⟨⟨horiginal.1.1, newline_not_mem_hlsLocalMediaUri index⟩, horiginal.2⟩
  | copied hline huri => exact newline_not_mem_of_mem_hlsLines hline

lemma HlsServedLine.append (h : HlsServedLine urls masterSource received line)
    (more : List (List UInt8)) : HlsServedLine (urls ++ more) masterSource received line := by
  cases h with
  | @replaced original front uri back url index hline huri hindex hres =>
    have hlt := (List.getElem?_eq_some_iff.mp hindex).1
    refine .replaced hline huri ?_ hres
    rw [getElem?_append_left hlt]
    exact hindex
  | copied hline huri => exact .copied hline huri

namespace HlsMasterScan

/-- What has been written: whole lines that are served lines, and the part `part` of the next
one. -/
structure Writing (masterSource received part : List UInt8) (scan : HlsMasterScan) : Prop where
  registered : HlsRegistered scan.media
  fits : scan.output.length ≤ airplayRtspMaxResponseBodyBytes
  written : ∃ contents : List (List UInt8),
    scan.output = (contents.flatMap fun line => line ++ [hlsNewline]) ++ part ∧
    ∀ line ∈ contents, HlsServedLine (scan.media.map (·.sourceUrl)) masterSource received line

variable {part : List UInt8}

lemma Writing.nil (masterSource received : List UInt8) :
    Writing masterSource received [] ⟨[], true, []⟩ where
  registered := .nil
  fits := Nat.zero_le _
  written := ⟨[], rfl, nofun⟩

lemma Writing.finish {line : List UInt8} {scan : HlsMasterScan}
    (h : Writing masterSource received (line ++ [hlsNewline]) scan)
    (hline : HlsServedLine (scan.media.map (·.sourceUrl)) masterSource received line) :
    Writing masterSource received [] scan := by
  obtain ⟨contents, hout, hcontents⟩ := h.written
  refine ⟨h.registered, h.fits, contents ++ [line], ?_, ?_⟩
  · rw [hout, flatMap_append, append_nil]
    simp
  intro other hother
  rcases mem_append.mp hother with hother | hother
  · exact hcontents other hother
  · rw [mem_singleton.mp hother]
    exact hline

end HlsMasterScan

open Program HlsMasterScan

/-- What a rewriting that gives up leaves. -/
abbrev HlsGivenUp : Unit → HlsMasterScan → Prop := fun _ scan => HlsRegistered scan.media

lemma hlsBufferAppend_triple (part bytes : List UInt8) (P : List AirPlayRemoteHlsMedia → Prop) :
    Triple (fun scan => Writing masterSource received part scan ∧ P scan.media)
      (hlsBufferAppend bytes)
      (fun _ scan => Writing masterSource received (part ++ bytes) scan ∧ P scan.media)
      HlsGivenUp := by
  refine .bind .get fun current => .ite (fun _ => ?_) fun hroom => ?_
  · exact .throw fun scan hscan => hscan.2.1.registered
  rintro scan ⟨rfl, hwrites, hmedia⟩
  obtain ⟨contents, hout, hcontents⟩ := hwrites.written
  refine ⟨⟨hwrites.registered, ?_, contents, ?_, hcontents⟩, hmedia⟩
  · have hfits := hwrites.fits
    simp only [length_append]
    omega
  · simp only [hout, append_assoc]

lemma hlsRegisterMedia_triple (reference part : List UInt8) :
    Triple (Writing masterSource received part) (hlsRegisterMedia masterSource reference)
      (fun index scan => Writing masterSource received part scan ∧
        ∃ url, (scan.media.map (·.sourceUrl))[index]? = some url ∧
          hlsResolveUri masterSource reference = some url)
      HlsGivenUp := by
  unfold hlsRegisterMedia
  cases hres : hlsResolveUri masterSource reference with
  | none => exact .throw fun scan hscan => hscan.registered
  | some resolved =>
    refine .bind .get fun current => ?_
    cases hfind : current.media.findIdx? fun entry => entry.sourceUrl = resolved with
    | some index =>
      refine .pure ?_
      rintro scan ⟨rfl, hwrites⟩
      obtain ⟨hindex, hurl, -⟩ := findIdx?_eq_some_iff_getElem.mp hfind
      refine ⟨hwrites, resolved, ?_, rfl⟩
      rw [getElem?_map, getElem?_eq_getElem hindex]
      exact congrArg some (of_decide_eq_true hurl)
    | none =>
      refine .ite (fun _ => .throw fun scan hscan => hscan.2.registered) fun hroom => ?_
      rintro scan ⟨rfl, hwrites⟩
      have hfresh : ∀ entry ∈ current.media, entry.sourceUrl ≠ resolved := by
        intro entry hentry heq
        have hnone := findIdx?_eq_none_iff.mp hfind entry hentry
        exact absurd heq (of_decide_eq_false hnone)
      obtain ⟨hreg, hfits, contents, hout, hcontents⟩ := hwrites
      refine ⟨⟨⟨?_, ?_, ?_⟩, hfits, contents, hout, ?_⟩, resolved, ?_, rfl⟩
      · rw [map_append, nodup_append]
        refine ⟨hreg.distinct, pairwise_singleton _ _, ?_⟩
        rintro url hold new hnew rfl
        obtain ⟨entry, hentry, hurl⟩ := mem_map.mp hold
        exact hfresh entry hentry (hurl.trans (mem_singleton.mp hnew))
      · simp only [length_append, length_singleton]
        omega
      · intro entry hentry
        rcases mem_append.mp hentry with hentry | hentry
        · exact hreg.fits entry hentry
        · rw [mem_singleton.mp hentry]
          exact length_hlsResolveUri hres
      · intro line hline
        rw [map_append]
        exact (hcontents line hline).append _
      · rw [getElem?_map]
        exact congrArg (Option.map _) getElem?_concat_length

section

variable (hline : line ∈ hlsLines received)

include hline

lemma hlsReplaceUri_triple {front uri back : List UInt8} (huri : hlsPlaylistUri line = some (front, uri, back)) :
    Triple (Writing masterSource received []) (hlsReplaceUri masterSource front uri back)
      (fun _ => Writing masterSource received []) HlsGivenUp := by
  refine .ite (fun _ => .throw fun scan hscan => hscan.registered) fun _ => ?_
  refine .bind (hlsRegisterMedia_triple uri []) fun index => ?_
  let registered : List AirPlayRemoteHlsMedia → Prop := fun media =>
    ∃ url, (media.map (·.sourceUrl))[index]? = some url ∧ hlsResolveUri masterSource uri = some url
  refine .bind (hlsBufferAppend_triple [] front registered) fun _ => ?_
  refine .bind (hlsBufferAppend_triple _ (hlsLocalMediaUri index) registered) fun _ => ?_
  refine .bind (hlsBufferAppend_triple _ back registered) fun _ => ?_
  refine (hlsBufferAppend_triple _ [hlsNewline] registered).conseq (fun _ => id) ?_ fun _ _ h => h
  rintro _ scan ⟨hwrites, url, hindex, hres⟩
  exact hwrites.finish (.replaced hline huri hindex hres)

lemma hlsCopyLine_triple (huri : hlsPlaylistUri line = none) :
    Triple (Writing masterSource received []) (hlsCopyLine line)
      (fun _ => Writing masterSource received []) HlsGivenUp := by
  refine .bind ((hlsBufferAppend_triple [] line fun _ => True).conseq
    (fun _ h => ⟨h, trivial⟩) (fun _ _ h => h) fun _ _ h => h) fun _ => ?_
  refine (hlsBufferAppend_triple _ [hlsNewline] fun _ => True).conseq (fun _ => id) ?_
    fun _ _ h => h
  rintro _ scan ⟨hwrites, -⟩
  exact hwrites.finish (.copied hline huri)

lemma hlsKeepLine_triple :
    Triple (Writing masterSource received []) (hlsKeepLine masterSource line)
      (fun _ => Writing masterSource received []) HlsGivenUp := by
  unfold hlsKeepLine
  cases huri : hlsPlaylistUri line with
  | none => exact hlsCopyLine_triple hline huri
  | some parts => exact hlsReplaceUri_triple hline huri

/-- **One turn of the loop** writes a served line or nothing. -/
lemma hlsRewriteMasterLine_triple {preferH264 : Bool} :
    Triple (Writing masterSource received []) (hlsRewriteMasterLine preferH264 masterSource line)
      (fun _ => Writing masterSource received []) HlsGivenUp := by
  have hflag : ∀ {scan : HlsMasterScan} {keep : Bool}, Writing masterSource received [] scan →
      Writing masterSource received [] { scan with keepNextVariantUri := keep } :=
    fun h => ⟨h.registered, h.fits, h.written⟩
  refine .ite (fun _ => ?_) fun _ => ?_
  · refine .bind (Q := fun _ => Writing masterSource received []) (.modify fun _ => hflag)
      fun _ => .ite (fun _ => hlsKeepLine_triple hline) fun _ => .pure fun _ => id
  refine .bind .get fun current => .ite (fun _ => ?_) fun _ => ?_
  · rintro scan ⟨rfl, hscan⟩
    exact hflag hscan
  · exact (hlsKeepLine_triple hline).conseq (fun _ h => h.2) (fun _ _ h => h) fun _ _ h => h

end

lemma hlsRewriteMasterLines_triple (preferH264 : Bool) {lines : List (List UInt8)}
    (hlines : ∀ line ∈ lines, line ∈ hlsLines received) :
    Triple (Writing masterSource received [])
      (lines.forM (hlsRewriteMasterLine preferH264 masterSource))
      (fun _ => Writing masterSource received []) HlsGivenUp := by
  induction lines with
  | nil => exact .pure fun _ => id
  | cons line lines ih =>
    refine .bind (hlsRewriteMasterLine_triple (hlines line mem_cons_self)) fun _ => ?_
    exact ih fun other hother => hlines other (.tail _ hother)

/-- **The rewritten master.** It consists of served lines, and the media it leaves are
distinct. -/
lemma hlsRewriteMaster_spec (masterSource received : List UInt8) :
    match hlsRewriteMaster masterSource received with
    | .ok _ scan => HlsRegistered scan.media ∧
        scan.output.length ≤ airplayRtspMaxResponseBodyBytes ∧
        ∀ line ∈ lines hlsNewline scan.output,
          HlsServedLine (scan.media.map (·.sourceUrl)) masterSource received line
    | .error _ scan => HlsRegistered scan.media := by
  have hrun := hlsRewriteMasterLines_triple (hlsMasterHasH264Variant received)
    (fun line (hline : line ∈ hlsLines received) => hline) _ (Writing.nil masterSource received)
  show match hlsRewriteMaster masterSource received with
    | .ok _ scan => _
    | .error _ scan => _
  unfold hlsRewriteMaster EStateM.run
  cases hres : (hlsLines received).forM
      (hlsRewriteMasterLine (hlsMasterHasH264Variant received) masterSource) ⟨[], true, []⟩ with
  | error e scan =>
    rw [hres] at hrun
    exact hrun
  | ok a scan =>
    rw [hres] at hrun
    obtain ⟨hreg, hfits, contents, hout, hcontents⟩ := hrun
    refine ⟨hreg, hfits, ?_⟩
    rw [hout, append_nil, lines_flatMap fun line hline => (hcontents line hline).newline_not_mem]
    exact hcontents

end NXCast

import NXCast.Framework.Sections
import NXCast.Media.HlsMaster

/-!
# Filtering the variants of a master playlist

The variants of a master playlist are its sections: an `EXT-X-STREAM-INF` line opens one, and the
first line behind it that is neither empty nor a tag or a comment is its URI.  The loop of
`hls_rewrite_master_locked` carries a flag for the variant it is in, and takes the flag back only
at a URI that looks like that of a playlist.  So a filtered variant goes with its URI exactly where
its URI looks like one (`hlsRewriteMaster_filters_iff`).
-/

namespace NXCast

open Sections TextSearch List

/-- The line that opens a variant. -/
def hlsIsStreamInf (line : List UInt8) : Bool := hlsLineStartsWith line "#EXT-X-STREAM-INF:"

/-- A variant the player cannot decode. -/
def hlsIsFiltered (line : List UInt8) : Bool := decide (hlsStreamVideoCodec line = .other)

/-- A line that is neither empty nor a tag or a comment. -/
def hlsIsUriLine (line : List UInt8) : Bool := decide (line ≠ [] ∧ line.head? ≠ some 0x23)

/-- A URI line at which the loop takes its flag back. -/
def hlsIsPlaylistLine (line : List UInt8) : Bool := hlsIsUriLine line && hlsUriSpanIsPlaylist line

/-- The lines without the filtered variants: neither their tags nor their URIs. -/
def hlsWithoutFiltered (lines : List (List UInt8)) : List (List UInt8) :=
  Sections.without hlsIsStreamInf hlsIsFiltered hlsIsUriLine lines

/-- Every URI line is that of a variant, and the only one of it. -/
abbrev HlsPaired (lines : List (List UInt8)) : Prop :=
  Sections.Paired hlsIsStreamInf hlsIsUriLine lines

/-- How a line is served: its playlist URI replaced by the local URI of what it resolves to, or as
it is. -/
inductive HlsRewritten (urls : List (List UInt8)) (masterSource : List UInt8) :
    List UInt8 → List UInt8 → Prop where
  | replaced {line front uri back url : List UInt8} {index : ℕ}
      (huri : hlsPlaylistUri line = some (front, uri, back)) (hindex : urls[index]? = some url)
      (hresolved : hlsResolveUri masterSource uri = some url) :
      HlsRewritten urls masterSource line (front ++ hlsLocalMediaUri index ++ back)
  | copied {line : List UInt8} (huri : hlsPlaylistUri line = none) :
      HlsRewritten urls masterSource line line

/-- What the rewriting is to serve: the lines without the filtered variants, each one rewritten, in
their order; and no URI without its variant where it had one. -/
structure HlsFiltered (masterSource received : List UInt8) (scan : HlsMasterScan) : Prop where
  kept : List.Forall₂ (HlsRewritten (scan.media.map (·.sourceUrl)) masterSource)
    (hlsWithoutFiltered (hlsLines received)) (TextSearch.lines hlsNewline scan.output)
  owned : HlsPaired (hlsLines received) → HlsPaired (TextSearch.lines hlsNewline scan.output)

/-! ## One line -/

section Line

open Program

variable {masterSource line front uri back : List UInt8} {urls : List (List UInt8)}
  {scan scan' : HlsMasterScan}

lemma HlsRewritten.append {served : List UInt8} (h : HlsRewritten urls masterSource line served)
    (more : List (List UInt8)) : HlsRewritten (urls ++ more) masterSource line served := by
  cases h with
  | replaced huri hindex hres =>
    refine .replaced huri ?_ hres
    rw [List.getElem?_append_left (List.getElem?_eq_some_iff.mp hindex).1]
    exact hindex
  | copied huri => exact .copied huri

lemma hlsBufferAppend_ok {bytes : List UInt8} {u : Unit}
    (h : hlsBufferAppend bytes scan = .ok u scan') :
    scan' = { scan with output := scan.output ++ bytes } := by
  have htriple : Triple (fun s => s = scan) (hlsBufferAppend bytes)
      (fun _ s => s = { scan with output := scan.output ++ bytes }) fun _ _ => True := by
    refine .bind .get fun current => .ite (fun _ => .throw fun _ _ => trivial) fun _ => ?_
    rintro s ⟨rfl, rfl⟩
    rfl
  exact htriple.of_ok rfl h

lemma hlsRegisterMedia_ok {reference : List UInt8} {index : ℕ}
    (h : hlsRegisterMedia masterSource reference scan = .ok index scan') :
    ∃ more url, scan' = { scan with media := scan.media ++ more } ∧
      (scan'.media.map (·.sourceUrl))[index]? = some url ∧
        hlsResolveUri masterSource reference = some url := by
  unfold hlsRegisterMedia at h
  cases hres : hlsResolveUri masterSource reference with
  | none =>
    rw [hres] at h
    cases h
  | some resolved =>
    rw [hres] at h
    have htriple : Triple (fun s => s = scan) (hlsRegisterMedia masterSource reference)
        (fun index s => ∃ more, s = { scan with media := scan.media ++ more } ∧
          (s.media.map (·.sourceUrl))[index]? = some resolved) fun _ _ => True := by
      unfold hlsRegisterMedia
      rw [hres]
      refine .bind .get fun current => ?_
      cases hfind : current.media.findIdx? fun entry => entry.sourceUrl = resolved with
      | some place =>
        refine .pure ?_
        rintro s ⟨rfl, rfl⟩
        obtain ⟨hplace, hurl, -⟩ := findIdx?_eq_some_iff_getElem.mp hfind
        refine ⟨[], by rw [append_nil], ?_⟩
        rw [getElem?_map, getElem?_eq_getElem hplace]
        exact congrArg some (of_decide_eq_true hurl)
      | none =>
        refine .ite (fun _ => .throw fun _ _ => trivial) fun _ => ?_
        rintro s ⟨rfl, rfl⟩
        refine ⟨[AirPlayRemoteHlsMedia.mk resolved none], rfl, ?_⟩
        rw [getElem?_map]
        exact congrArg (Option.map _) getElem?_concat_length
    have hrun : hlsRegisterMedia masterSource reference scan = .ok index scan' := by
      unfold hlsRegisterMedia
      rw [hres]
      exact h
    obtain ⟨more, hscan, hindex⟩ := htriple.of_ok rfl hrun
    exact ⟨more, resolved, hscan, hindex, rfl⟩

/-- Writing a line: its text with a line feed, and perhaps a new medium. -/
structure HlsWritten (masterSource line served : List UInt8) (scan scan' : HlsMasterScan) : Prop where
  output : scan'.output = scan.output ++ (served ++ [hlsNewline])
  flag : scan'.keepNextVariantUri = scan.keepNextVariantUri
  media : ∃ more, scan'.media = scan.media ++ more
  rewritten : HlsRewritten (scan'.media.map (·.sourceUrl)) masterSource line served

lemma hlsKeepLine_ok {u : Unit} (h : hlsKeepLine masterSource line scan = .ok u scan') :
    ∃ served, HlsWritten masterSource line served scan scan' := by
  unfold hlsKeepLine at h
  cases huri : hlsPlaylistUri line with
  | none =>
    rw [huri] at h
    obtain ⟨_, middle, hline, hend⟩ := run_bind_eq_ok h
    obtain rfl := hlsBufferAppend_ok hline
    obtain rfl := hlsBufferAppend_ok hend
    exact ⟨line, append_assoc _ _ _, rfl, ⟨[], (append_nil _).symm⟩, .copied huri⟩
  | some parts =>
    obtain ⟨front, uri, back⟩ := parts
    rw [huri] at h
    dsimp only at h
    unfold hlsReplaceUri at h
    split at h
    · cases h
    obtain ⟨index, registered, hregister, h⟩ := run_bind_eq_ok h
    obtain ⟨_, fronted, hfront, h⟩ := run_bind_eq_ok h
    obtain ⟨_, placed, hplace, h⟩ := run_bind_eq_ok h
    obtain ⟨_, backed, hback, hend⟩ := run_bind_eq_ok h
    obtain ⟨more, url, rfl, hindex, hres⟩ := hlsRegisterMedia_ok hregister
    obtain rfl := hlsBufferAppend_ok hfront
    obtain rfl := hlsBufferAppend_ok hplace
    obtain rfl := hlsBufferAppend_ok hback
    obtain rfl := hlsBufferAppend_ok hend
    refine ⟨front ++ hlsLocalMediaUri index ++ back, ?_, rfl, ⟨more, rfl⟩,
      .replaced huri hindex hres⟩
    simp only [append_assoc]

lemma hlsIsPlaylistLine_iff :
    hlsIsPlaylistLine line ↔ line.head? ≠ some 0x23 ∧ (hlsPlaylistUri line).isSome := by
  unfold hlsIsPlaylistLine hlsIsUriLine hlsPlaylistUri
  by_cases hhead : line.head? = some 0x23
  · simp [hhead]
  rw [if_neg hhead]
  by_cases hplaylist : line ≠ [] ∧ hlsUriSpanIsPlaylist line = true
  · rw [if_pos hplaylist]
    simp [hhead, hplaylist]
  · rw [if_neg hplaylist, Bool.and_eq_true, decide_eq_true_iff]
    simp only [Option.isSome_none, Bool.false_eq_true, and_false, iff_false]
    exact fun h => hplaylist ⟨h.1.1, h.2⟩

/-- What one turn of the loop does where there is an H.264 variant. -/
inductive HlsTurn (masterSource line : List UInt8) (scan scan' : HlsMasterScan) : Prop where
  | filtered (hhead : hlsIsStreamInf line = true) (hfiltered : hlsIsFiltered line = true)
      (hscan : scan' = { scan with keepNextVariantUri := false })
  | variant {served : List UInt8} (hhead : hlsIsStreamInf line = true)
      (hkept : hlsIsFiltered line = false)
      (hwritten : HlsWritten masterSource line served { scan with keepNextVariantUri := true } scan')
  | skipped (hhead : hlsIsStreamInf line = false)
      (hskip : (!scan.keepNextVariantUri && hlsIsPlaylistLine line) = true)
      (hscan : scan' = { scan with keepNextVariantUri := true })
  | other {served : List UInt8} (hhead : hlsIsStreamInf line = false)
      (hskip : (!scan.keepNextVariantUri && hlsIsPlaylistLine line) = false)
      (hwritten : HlsWritten masterSource line served scan scan')

lemma hlsRewriteMasterLine_ok {u : Unit}
    (h : hlsRewriteMasterLine true masterSource line scan = .ok u scan') :
    HlsTurn masterSource line scan scan' := by
  unfold hlsRewriteMasterLine at h
  by_cases hhead : hlsLineStartsWith line "#EXT-X-STREAM-INF:" = true
  · rw [if_pos hhead] at h
    obtain ⟨_, flagged, hflag, h⟩ := run_bind_eq_ok h
    by_cases hcodec : hlsStreamVideoCodec line = .other
    · have hkeep : (!true || decide (hlsStreamVideoCodec line ≠ .other)) = false := by
        simp [hcodec]
      rw [hkeep] at hflag h
      cases hflag
      cases h
      exact .filtered hhead (decide_eq_true hcodec) rfl
    · have hkeep : (!true || decide (hlsStreamVideoCodec line ≠ .other)) := by
        simp [hcodec]
      rw [hkeep] at hflag h
      cases hflag
      obtain ⟨served, hwrote⟩ := hlsKeepLine_ok h
      exact .variant hhead (decide_eq_false hcodec) hwrote
  · rw [if_neg hhead] at h
    obtain ⟨current, same, hget, h⟩ := run_bind_eq_ok h
    cases hget
    have hno : hlsIsStreamInf line = false := Bool.eq_false_iff.mpr hhead
    split at h
    · next hskip =>
      cases h
      refine .skipped hno ?_ rfl
      rw [hskip.2.2, hlsIsPlaylistLine_iff.mpr ⟨hskip.1, hskip.2.1⟩]
      rfl
    · next hskip =>
      obtain ⟨served, hwrote⟩ := hlsKeepLine_ok h
      refine .other hno ?_ hwrote
      refine Bool.eq_false_iff.mpr fun hboth => hskip ?_
      rw [Bool.and_eq_true, Bool.not_eq_true'] at hboth
      obtain ⟨hhash, huri⟩ := hlsIsPlaylistLine_iff.mp hboth.2
      exact ⟨hhash, huri, hboth.1⟩

end Line

/-! ## The loop -/

section Loop

open Program

variable {masterSource : List UInt8}

/-- **The loop** serves what a flag leaves of the lines, each one rewritten. -/
lemma hlsRewriteMasterLines_ok (lines : List (List UInt8)) {scan scan' : HlsMasterScan} {u : Unit}
    (h : lines.forM (hlsRewriteMasterLine true masterSource) scan = .ok u scan') :
    ∃ served : List (List UInt8),
      scan'.output = scan.output ++ (served.flatMap fun line => line ++ [hlsNewline]) ∧
      (∃ more, scan'.media = scan.media ++ more) ∧
      List.Forall₂ (HlsRewritten (scan'.media.map (·.sourceUrl)) masterSource)
        (skipping hlsIsStreamInf hlsIsFiltered hlsIsPlaylistLine
          (!scan.keepNextVariantUri) lines) served := by
  induction lines generalizing scan with
  | nil =>
    cases h
    exact ⟨[], (append_nil _).symm, ⟨[], (append_nil _).symm⟩, .nil⟩
  | cons line lines ih =>
    obtain ⟨_, middle, hline, hrest⟩ := run_bind_eq_ok h
    obtain ⟨served, houtput, ⟨more, hmedia⟩, hserve⟩ := ih hrest
    -- a line that is written, with what the rest of the loop does
    have hwrite : ∀ {text : List UInt8} {start : HlsMasterScan},
        HlsWritten masterSource line text start middle → start.output = scan.output →
        start.media = scan.media →
        scan'.output = scan.output ++ ((text :: served).flatMap fun line => line ++ [hlsNewline]) ∧
          (∃ more, scan'.media = scan.media ++ more) ∧
          HlsRewritten (scan'.media.map (·.sourceUrl)) masterSource line text := by
      intro text start hwrote hsame hlist
      obtain ⟨new, hnew⟩ := hwrote.media
      refine ⟨?_, ⟨new ++ more, ?_⟩, ?_⟩
      · rw [houtput, hwrote.output, hsame, flatMap_cons, append_assoc]
      · rw [hmedia, hnew, hlist, append_assoc]
      · rw [hmedia, map_append]
        exact hwrote.rewritten.append _
    rw [skipping]
    cases hlsRewriteMasterLine_ok hline with
    | filtered hhead hfiltered hscan =>
      subst hscan
      rw [if_pos hhead, if_pos hfiltered]
      exact ⟨served, houtput, ⟨more, hmedia⟩, hserve⟩
    | @variant text hhead hkept hwrote =>
      obtain ⟨hout, hmore, hrew⟩ := hwrite hwrote rfl rfl
      rw [hwrote.flag] at hserve
      rw [if_pos hhead, hkept, if_neg Bool.false_ne_true]
      exact ⟨text :: served, hout, hmore, .cons hrew hserve⟩
    | skipped hhead hskip hscan =>
      subst hscan
      rw [hhead, if_neg Bool.false_ne_true, if_pos hskip]
      exact ⟨served, houtput, ⟨more, hmedia⟩, hserve⟩
    | @other text hhead hskip hwrote =>
      obtain ⟨hout, hmore, hrew⟩ := hwrite hwrote rfl rfl
      rw [hwrote.flag] at hserve
      rw [hhead, if_neg Bool.false_ne_true, hskip, if_neg Bool.false_ne_true]
      exact ⟨text :: served, hout, hmore, .cons hrew hserve⟩

end Loop

/-! ## What rewriting leaves of a line -/

section Kinds

variable {urls : List (List UInt8)} {masterSource line served : List UInt8}

lemma isPrefixOf_append_cons {text front back : List UInt8} {byte : UInt8} (h : byte ∉ text) :
    text.isPrefixOf (front ++ byte :: back) = text.isPrefixOf front := by
  induction text generalizing front with
  | nil => cases front <;> rfl
  | cons b text ih =>
    rw [mem_cons, not_or] at h
    cases front with
    | nil =>
      rw [nil_append, isPrefixOf_cons_cons, beq_eq_false_iff_ne.mpr (Ne.symm h.1)]
      rfl
    | cons c front =>
      rw [cons_append, isPrefixOf_cons_cons, isPrefixOf_cons_cons, ih h.2]

lemma hlsPlaylistUri_tag {front uri back : List UInt8} (hhead : line.head? = some 0x23)
    (h : hlsPlaylistUri line = some (front, uri, back)) :
    ∃ before, front = 0x23 :: (before ++ asciiBytes "URI=\"") := by
  unfold hlsPlaylistUri at h
  rw [if_pos hhead] at h
  obtain ⟨hattr, -⟩ := Option.filter_eq_some_iff.mp h
  unfold hlsFindUriAttribute at hattr
  cases hfirst : first (asciiBytes "URI=\"") line with
  | none =>
    rw [hfirst] at hattr
    cases hattr
  | some index =>
    rw [hfirst] at hattr
    dsimp only at hattr
    split at hattr
    · cases hattr
    obtain ⟨rfl, -⟩ := Prod.mk.inj (Option.some.inj hattr)
    have hne : asciiBytes "URI=\"" ≠ [] := by decide
    have hlen : (asciiBytes "URI=\"").length = 5 := by decide
    have hfound : asciiBytes "URI=\"" <+: line.drop index :=
      ((first_eq_some_iff hne).mp hfirst).1
    have hneedle : (line.drop index).take 5 = asciiBytes "URI=\"" := by
      exact (prefix_iff_eq_take.mp hfound).symm
    rw [take_add, hneedle]
    cases line with
    | nil => cases hhead
    | cons byte rest =>
      obtain rfl : byte = 0x23 := Option.some.inj hhead
      cases index with
      | zero =>
        have hfirstByte : (0x23 : UInt8) = 0x55 := Option.some.inj (congrArg head? hneedle)
        exact absurd hfirstByte (by decide)
      | succ index => exact ⟨rest.take index, rfl⟩

lemma hlsPlaylistUri_untagged {front uri back : List UInt8} (hhead : line.head? ≠ some 0x23)
    (h : hlsPlaylistUri line = some (front, uri, back)) :
    front = [] ∧ uri = line ∧ back = [] ∧ line ≠ [] ∧ hlsUriSpanIsPlaylist line := by
  unfold hlsPlaylistUri at h
  rw [if_neg hhead] at h
  split at h
  · next hline =>
    obtain ⟨rfl, hrest⟩ := Prod.mk.inj (Option.some.inj h)
    obtain ⟨rfl, rfl⟩ := Prod.mk.inj hrest
    exact ⟨rfl, rfl, rfl, hline⟩
  · cases h

lemma hlsUriSpanIsPlaylist_local (index : ℕ) : hlsUriSpanIsPlaylist (hlsLocalMediaUri index) := by
  unfold hlsUriSpanIsPlaylist
  rw [any_eq_true]
  refine ⟨asciiBytes ".m3u8", (mem_tails _ _).mpr (suffix_append _ _), ?_⟩
  decide

/-- What a line is to the filter. -/
def hlsKind (line : List UInt8) : Bool × Bool × Bool :=
  (hlsIsStreamInf line, hlsIsUriLine line, hlsIsPlaylistLine line)

/-- **Kinds.**  A line is served as one of its kind. -/
lemma HlsRewritten.kind (h : HlsRewritten urls masterSource line served) :
    hlsKind line = hlsKind served := by
  cases h with
  | copied huri => rfl
  | @replaced front uri back url index huri hindex hres =>
    have hline := hlsPlaylistUri_eq huri
    by_cases hhead : line.head? = some 0x23
    · obtain ⟨before, rfl⟩ := hlsPlaylistUri_tag hhead huri
      have hstream : ∀ rest : List UInt8,
          hlsIsStreamInf ((0x23 :: (before ++ asciiBytes "URI=\"")) ++ rest) =
            (asciiBytes "#EXT-X-STREAM-INF:").isPrefixOf (0x23 :: before) := by
        intro rest
        have happend : (0x23 :: (before ++ asciiBytes "URI=\"")) ++ rest =
            (0x23 :: before) ++ 0x55 :: ([0x52, 0x49, 0x3d, 0x22] ++ rest) := by
          have hneedle : asciiBytes "URI=\"" = [0x55, 0x52, 0x49, 0x3d, 0x22] := by decide
          rw [hneedle]
          simp
        unfold hlsIsStreamInf hlsLineStartsWith
        rw [happend, isPrefixOf_append_cons (by decide)]
      have huriLine : ∀ rest : List UInt8,
          hlsIsUriLine ((0x23 :: (before ++ asciiBytes "URI=\"")) ++ rest) = false :=
        fun rest => decide_eq_false fun hboth => hboth.2 rfl
      rw [← hline]
      unfold hlsKind hlsIsPlaylistLine
      rw [append_assoc, append_assoc, hstream, hstream, huriLine, huriLine]
      rfl
    · obtain ⟨rfl, rfl, rfl, hne, hplaylist⟩ := hlsPlaylistUri_untagged hhead huri
      have hno : hlsIsStreamInf uri = false := by
        refine Bool.eq_false_iff.mpr fun hstream => hhead ?_
        obtain ⟨rest, hrest⟩ := isPrefixOf_iff_prefix.mp hstream
        rw [← hrest]
        rfl
      have huriLine : hlsIsUriLine uri := decide_eq_true ⟨hne, hhead⟩
      have hlocal : hlsIsStreamInf (hlsLocalMediaUri index) = false ∧
          hlsIsUriLine (hlsLocalMediaUri index) := by
        have hbegin : ∃ rest, hlsLocalMediaUri index = 0x6d :: rest := ⟨_, rfl⟩
        obtain ⟨rest, hrest⟩ := hbegin
        refine ⟨rfl, decide_eq_true ⟨cons_ne_nil _ _, fun hhash => ?_⟩⟩
        exact absurd (Option.some.inj hhash) (by decide)
      unfold hlsKind hlsIsPlaylistLine
      rw [nil_append, append_nil, hno, huriLine, hlocal.1, hlocal.2, hplaylist,
        hlsUriSpanIsPlaylist_local]

end Kinds

/-! ## The filter -/

/-- The URI of each filtered variant, where it has one, looks like that of a playlist. -/
def HlsFilteredAreSeen (received : List UInt8) : Prop :=
  ∀ variant ∈ (Sections.cut hlsIsStreamInf (hlsLines received)).2,
    hlsIsFiltered variant.1 = true → ∀ uri, variant.2.find? hlsIsUriLine = some uri →
      hlsUriSpanIsPlaylist uri = true

section Filter

variable {masterSource received : List UInt8} {scan : HlsMasterScan}

lemma hlsFilteredAreSeen_iff : HlsFilteredAreSeen received ↔
    Sections.Recognised hlsIsStreamInf hlsIsFiltered hlsIsUriLine hlsIsPlaylistLine
      (hlsLines received) := by
  refine forall₄_congr fun variant hvariant hfiltered uri => forall_congr' fun hfind => ?_
  have huri : hlsIsUriLine uri := find?_some hfind
  rw [hlsIsPlaylistLine, huri, Bool.true_and]

/-- What is served where there is an H.264 variant: the lines without the filtered tags, and
without the first URI behind each of them that the loop recognises. -/
lemma hlsRewriteMaster_served (h : hlsRewriteMaster masterSource received = .ok () scan)
    (hprefer : hlsMasterHasH264Variant received) :
    List.Forall₂ (HlsRewritten (scan.media.map (·.sourceUrl)) masterSource)
      (without hlsIsStreamInf hlsIsFiltered hlsIsPlaylistLine (hlsLines received))
      (lines hlsNewline scan.output) := by
  unfold hlsRewriteMaster EStateM.run at h
  rw [hprefer] at h
  obtain ⟨served, hout, -, hserve⟩ := hlsRewriteMasterLines_ok _ h
  rw [Bool.not_true, skipping_false] at hserve
  have hfree : ∀ line ∈ served, hlsNewline ∉ line := by
    refine forall_of_forall₂ (p := fun line => line ∈ hlsLines received) ?_ hserve ?_
    · intro line text hrew hline
      have hline : HlsServedLine (scan.media.map (·.sourceUrl)) masterSource received text := by
        cases hrew with
        | replaced huri hindex hres => exact .replaced hline huri hindex hres
        | copied huri => exact .copied hline huri
      exact hline.newline_not_mem
    · intro line hline
      rw [← skipping_false] at hline
      exact (skipping_sublist false _).mem hline
  rw [hout, nil_append, lines_flatMap hfree]
  exact hserve

lemma HlsRewritten.counted {urls : List (List UInt8)} {line served : List UInt8}
    (h : HlsRewritten urls masterSource line served) :
    unseen hlsIsUriLine hlsIsPlaylistLine line = unseen hlsIsUriLine hlsIsPlaylistLine served := by
  have hkind := h.kind
  simp only [hlsKind, Prod.mk.injEq] at hkind
  unfold unseen
  rw [hkind.2.1, hkind.2.2]

/-- The text that is served. -/
def hlsServedText : EStateM.Result Unit HlsMasterScan Unit → Option (List UInt8)
  | .ok _ scan => some scan.output
  | .error _ _ => none

lemma hlsServedText_eq_some {result : EStateM.Result Unit HlsMasterScan Unit} {text : List UInt8}
    (h : hlsServedText result = some text) : ∃ scan, result = .ok () scan ∧ scan.output = text := by
  cases result with
  | ok _ scan => exact ⟨scan, rfl, Option.some.inj h⟩
  | error _ _ => cases h

/-- A variant is filtered whose URI has no suffix: the URI stays, below that of the variant in front
of it. -/
theorem hlsRewriteMaster_leaves_uri :
    let text := "#EXTM3U\n#EXT-X-STREAM-INF:CODECS=\"avc1\"\na.m3u8\n" ++
      "#EXT-X-STREAM-INF:CODECS=\"hvc1\"\nhevc\n"
    let received := asciiBytes text
    let base := asciiBytes "mlhls://host/master.m3u8"
    ∃ scan, hlsRewriteMaster base received = .ok () scan ∧
      hlsMasterHasH264Variant received = true ∧
      scan.output = asciiBytes
        "#EXTM3U\n#EXT-X-STREAM-INF:CODECS=\"avc1\"\nmedia/0.m3u8\nhevc\n" ∧
      HlsPaired (hlsLines received) ∧ ¬ HlsPaired (TextSearch.lines hlsNewline scan.output) ∧
      ¬ HlsFiltered base received scan := by
  intro text received base
  obtain ⟨scan, hrun, houtput⟩ : ∃ scan, hlsRewriteMaster base received = .ok () scan ∧
      scan.output = asciiBytes
        "#EXTM3U\n#EXT-X-STREAM-INF:CODECS=\"avc1\"\nmedia/0.m3u8\nhevc\n" :=
    hlsServedText_eq_some (by decide +kernel)
  have hpaired : HlsPaired (hlsLines received) := ⟨by decide +kernel, by decide +kernel⟩
  have hunpaired : ¬ HlsPaired (TextSearch.lines hlsNewline scan.output) := by
    rw [houtput]
    exact fun h => absurd h.sole (by decide +kernel)
  exact ⟨scan, hrun, by decide +kernel, houtput, hpaired, hunpaired,
    fun h => hunpaired (h.owned hpaired)⟩

/-- **The filter.**  Where there is an H.264 variant, a master playlist is served without its
filtered variants, and otherwise as it came, exactly if each filtered variant has a URI that looks
like that of a playlist, or none. -/
theorem hlsRewriteMaster_filters_iff (h : hlsRewriteMaster masterSource received = .ok () scan)
    (hprefer : hlsMasterHasH264Variant received = true) :
    HlsFiltered masterSource received scan ↔ HlsFilteredAreSeen received := by
  have hserved := hlsRewriteMaster_served h hprefer
  have hkinds : ∀ line text, HlsRewritten (scan.media.map (·.sourceUrl)) masterSource line text →
      hlsIsStreamInf line = hlsIsStreamInf text ∧ hlsIsUriLine line = hlsIsUriLine text := by
    intro line text hrewritten
    have hkind := hrewritten.kind
    simp only [hlsKind, Prod.mk.injEq] at hkind
    exact ⟨hkind.1, hkind.2.1⟩
  rw [hlsFilteredAreSeen_iff]
  constructor
  · intro hfiltered
    have hcount := Sections.countP_of_forall₂ (fun _ _ hline => hline.counted) hfiltered.kept
    rw [← Sections.countP_of_forall₂ (fun _ _ hline => hline.counted) hserved] at hcount
    exact Sections.countP_without_iff.mp hcount
  intro hseen
  have hmark : ∀ line, hlsIsPlaylistLine line = true → hlsIsUriLine line = true :=
    fun line hline => (Bool.and_eq_true_iff.mp hline).1
  have hkept : List.Forall₂ (HlsRewritten (scan.media.map (·.sourceUrl)) masterSource)
      (hlsWithoutFiltered (hlsLines received)) (TextSearch.lines hlsNewline scan.output) := by
    unfold hlsWithoutFiltered
    rw [Sections.without_eq_of_recognised hmark hseen]
    exact hserved
  refine ⟨hkept, fun hpaired => ?_⟩
  exact (Sections.Paired.without hpaired).of_forall₂ (fun line text hline => (hkinds line text hline).1)
    (fun line text hline => (hkinds line text hline).2) hkept

/-- A filtered variant with a playlist, which goes with it. -/
theorem hlsRewriteMaster_filters_playlist :
    let received := asciiBytes ("#EXTM3U\n#EXT-X-STREAM-INF:CODECS=\"hvc1\"\nb.m3u8\n" ++
      "#EXT-X-STREAM-INF:CODECS=\"avc1\"\na.m3u8\n")
    let base := asciiBytes "mlhls://host/master.m3u8"
    ∃ scan, hlsRewriteMaster base received = .ok () scan ∧
      scan.output = asciiBytes "#EXTM3U\n#EXT-X-STREAM-INF:CODECS=\"avc1\"\nmedia/0.m3u8\n" ∧
      HlsFiltered base received scan := by
  intro received base
  obtain ⟨scan, hrun, houtput⟩ : ∃ scan, hlsRewriteMaster base received = .ok () scan ∧
      scan.output = asciiBytes "#EXTM3U\n#EXT-X-STREAM-INF:CODECS=\"avc1\"\nmedia/0.m3u8\n" :=
    hlsServedText_eq_some (by decide +kernel)
  have hseen : ∀ variant ∈ (Sections.cut hlsIsStreamInf (hlsLines received)).2,
      (variant.2.find? hlsIsUriLine).all hlsUriSpanIsPlaylist = true := by
    decide +kernel
  refine ⟨scan, hrun, houtput, (hlsRewriteMaster_filters_iff hrun (by decide +kernel)).mpr ?_⟩
  intro variant hvariant _ uri huri
  have hone := hseen variant hvariant
  rwa [huri] at hone

end Filter

end NXCast

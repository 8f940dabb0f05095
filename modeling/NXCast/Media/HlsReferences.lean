import NXCast.Media.HlsText

/-!
# The two resolvers of references

A reference in a playlist is resolved against the URL of the playlist in two places: where media
playlists are registered (`hls_resolve_uri`) and where a media playlist is rewritten
(`hls_append_resolved_media_uri`).  `hlsResolvers_agree` says on which references they give one URL, and
`hls_reference_merge` at which bases a path-relative reference is merged as RFC 3986 has it: behind the
last slash of the base's path, without its query and its fragment.

Both search the last slash in the whole base.  One of its query is taken for one of its path, and at a
base without a path `hls_resolve_uri` finds the second slash of `://`.
-/

namespace NXCast

open List TextSearch

variable {base reference : List UInt8}

/-! ## Base URLs -/

/-- Where the `://` of a URL begins. -/
def hlsSchemeEnd (base : List UInt8) : Option ℕ := TextSearch.first (asciiBytes "://") base

variable {schemeEnd : ℕ}

section

variable (h : hlsSchemeEnd base = some schemeEnd)

include h

/-- A base at its `://`. -/
lemma hlsSchemeEnd_split :
    base = base.take schemeEnd ++ asciiBytes "://" ++ base.drop (schemeEnd + 3) ∧
      schemeEnd + 3 ≤ base.length := by
  obtain ⟨⟨rest, hrest⟩, -⟩ := (first_eq_some_iff (by decide)).mp h
  have hlen : (asciiBytes "://").length = 3 := by decide
  have hdrop : base.drop (schemeEnd + 3) = rest := by
    rw [← drop_drop, ← hrest, drop_append_of_le_length (le_of_eq hlen.symm), ← hlen,
      drop_length, nil_append]
  refine ⟨?_, ?_⟩
  · rw [hdrop, append_assoc, hrest, take_append_drop]
  have hsum := congrArg length hrest
  rw [length_append, length_drop, hlen] at hsum
  omega

lemma last_slash_behind (hslash : 0x2f ∈ base.drop (schemeEnd + 3)) :
    ∃ front back, base.drop (schemeEnd + 3) = front ++ 0x2f :: back ∧ 0x2f ∉ back ∧
      last 0x2f base = some (schemeEnd + 3 + front.length) := by
  obtain ⟨hsplit, hle⟩ := hlsSchemeEnd_split h
  obtain ⟨front, back, hrest, hback⟩ := exists_last hslash
  refine ⟨front, back, hrest, hback, ?_⟩
  have hbase : base = base.take (schemeEnd + 3) ++ front ++ 0x2f :: back := by
    rw [append_assoc, ← hrest, take_append_drop]
  have hlast : last 0x2f (base.take (schemeEnd + 3) ++ front ++ 0x2f :: back) = _ :=
    last_append hback
  rw [← hbase, length_append, length_take, min_eq_left hle] at hlast
  exact hlast

/-- The last slash of a base that has none behind its authority is one of `://`. -/
lemma last_slash_scheme (hslash : 0x2f ∉ base.drop (schemeEnd + 3)) :
    last 0x2f base = some (schemeEnd + 2) := by
  obtain ⟨hsplit, hle⟩ := hlsSchemeEnd_split h
  have hbase : base = base.take schemeEnd ++ asciiBytes ":/" ++ 0x2f :: base.drop (schemeEnd + 3) := by
    conv_lhs => rw [hsplit]
    simp [asciiBytes]
  have hlast : last 0x2f
      (base.take schemeEnd ++ asciiBytes ":/" ++ 0x2f :: base.drop (schemeEnd + 3)) = _ :=
    last_append hslash
  rw [← hbase, length_append, length_take, min_eq_left (by omega)] at hlast
  exact hlast

end

/-! ## What each resolver does -/

/-- The ways in which `hls_resolve_uri` resolves a reference. -/
inductive HlsResolved (base reference : List UInt8) : List UInt8 → Prop where
  | absolute (hscheme : hlsHasScheme reference = true) : HlsResolved base reference reference
  | schemeRelative (hscheme : hlsHasScheme reference = false)
      (hform : hlsLineStartsWith reference "//" = true) (schemeEnd : ℕ)
      (hbase : hlsSchemeEnd base = some schemeEnd) :
      HlsResolved base reference (base.take schemeEnd ++ asciiBytes ":" ++ reference)
  | rootRelative (hscheme : hlsHasScheme reference = false)
      (hform : hlsLineStartsWith reference "//" = false ∧ hlsLineStartsWith reference "/" = true)
      (schemeEnd : ℕ) (hbase : hlsSchemeEnd base = some schemeEnd) :
      HlsResolved base reference
        (base.take (match (base.drop (schemeEnd + 3)).idxOf? 0x2f with
          | some offset => schemeEnd + 3 + offset
          | none => (base.takeWhile fun byte => byte ≠ 0x3f && byte ≠ 0x23).length) ++ reference)
  | pathRelative (hscheme : hlsHasScheme reference = false)
      (hform : hlsLineStartsWith reference "//" = false ∧
        (hlsLineStartsWith reference "/" = true → hlsSchemeEnd base = none))
      (directoryEnd : ℕ) (hbase : TextSearch.last 0x2f base = some directoryEnd) :
      HlsResolved base reference (base.take directoryEnd ++ asciiBytes "/" ++ reference)

variable {resolved : List UInt8}

/-- **`hls_resolve_uri`**, when it succeeds. -/
lemma hlsResolved_of_some (h : hlsResolveUri base reference = some resolved) :
    HlsResolved base reference resolved ∧ hlsTextSafe reference airplayRemoteHlsUrlMax := by
  have hprint : ∀ {maximum : ℕ} {text : List UInt8}, hlsPrint maximum text = some resolved →
      resolved = text := by
    intro maximum text hsome
    unfold hlsPrint at hsome
    split at hsome
    · exact (Option.some.inj hsome).symm
    · cases hsome
  unfold hlsResolveUri at h
  split at h
  · cases h
  rename_i hsafe
  rw [not_or, Bool.not_eq_false, Bool.not_eq_false] at hsafe
  refine ⟨?_, hsafe.2⟩
  split at h
  · rename_i hsch
    unfold hlsCopy at h
    split at h
    · cases h
    · obtain rfl := Option.some.inj h
      exact .absolute hsch
  rename_i hsch
  rw [Bool.not_eq_true] at hsch
  dsimp only at h
  split at h
  · rename_i hform
    split at h
    · cases h
    rename_i schemeEnd hbase
    obtain rfl := hprint h
    exact .schemeRelative hsch hform schemeEnd hbase
  rename_i hform
  rw [Bool.not_eq_true] at hform
  split at h
  · rename_i schemeEnd hbase
    split at hbase
    · rename_i hroot
      obtain rfl := hprint h
      exact .rootRelative hsch ⟨hform, hroot⟩ schemeEnd hbase
    · cases hbase
  · rename_i hbase
    split at h
    · cases h
    rename_i directoryEnd hlast
    obtain rfl := hprint h
    refine .pathRelative hsch ⟨hform, fun hroot => ?_⟩ directoryEnd hlast
    rwa [if_pos hroot] at hbase

lemma hlsHasScheme_of_letters {letters text : List UInt8} (hne : letters ≠ [])
    (hletters : ∀ letter ∈ letters, 0x61 ≤ letter.toNat ∧ letter.toNat ≤ 0x7a)
    (h : letters ++ [0x3a] <+: text.map tolower) : hlsHasScheme text := by
  have hletter : ∀ value : UInt8, tolower value ∈ letters → isalpha value ∧
      isalnum value ∧ value ≠ 0x3a := by
    intro value hmem
    have hrange := hletters _ hmem
    unfold tolower at hrange
    unfold isalpha isalnum isdigit
    have hcolon : (0x3a : UInt8).toNat = 0x3a := rfl
    have hne : value.toNat ≠ 0x3a → value ≠ 0x3a := fun hnat heq => hnat (heq ▸ hcolon)
    split at hrange
    all_goals
      simp only [Bool.and_eq_true, Bool.or_eq_true, decide_eq_true_eq, Bool.not_eq_true',
        decide_eq_false_iff_not]
      exact ⟨by omega, by omega, hne (by omega)⟩
  have hcolon : ∀ value : UInt8, tolower value = 0x3a → value = 0x3a := by
    intro value heq
    unfold tolower at heq
    split_ifs at heq with hrange
    · have hsum := congrArg UInt8.toNat heq
      rw [UInt8.toNat_add] at hsum
      have hleft : (0x20 : UInt8).toNat = 0x20 := rfl
      have hright : (0x3a : UInt8).toNat = 0x3a := rfl
      omega
    · exact heq
  obtain ⟨rest, hrest⟩ := h
  obtain ⟨front, back, rfl, hfront, hback⟩ := map_eq_append_iff.mp hrest.symm
  obtain ⟨name, last, rfl, hname, hlast⟩ := map_eq_append_iff.mp hfront
  obtain ⟨colon, hcolons, htail⟩ := map_eq_singleton_iff.mp hlast
  obtain rfl := hcolon colon htail
  subst hcolons
  subst hname
  cases name with
  | nil => exact absurd rfl hne
  | cons initial name =>
    have hall : ∀ value ∈ initial :: name, isalpha value ∧ isalnum value ∧
        value ≠ 0x3a := fun value hmem => hletter value (mem_map_of_mem hmem)
    have hsch : (name ++ 0x3a :: back).takeWhile (fun byte => byte ≠ 0x3a) = name := by
      rw [takeWhile_append_of_pos]
      · simp
      · intro value hmem
        simpa using (hall value (.tail _ hmem)).2.2
    have htext : initial :: name ++ [0x3a] ++ back = initial :: (name ++ 0x3a :: back) := by simp
    rw [htext, hlsHasScheme, hsch, (hall initial mem_cons_self).1, Bool.true_and, Bool.and_eq_true,
      all_eq_true, decide_eq_true_eq]
    refine ⟨fun value hmem => ?_, ?_⟩
    · rw [(hall value (.tail _ hmem)).2.1, Bool.true_or]
    · rw [length_append, length_cons]
      omega

/-- A text that begins with `http://` or `https://`, in letters of either case. -/
def HttpUrl (text : List UInt8) : Prop :=
  startsWithCase text "http://" = true ∨ startsWithCase text "https://" = true

instance (text : List UInt8) : Decidable (HttpUrl text) := inferInstanceAs (Decidable (_ ∨ _))

/-- It begins with the letters of a scheme and with `://`. -/
lemma HttpUrl.letters {text : List UInt8} (h : HttpUrl text) :
    ∃ letters : List UInt8, letters ≠ [] ∧
      (∀ letter ∈ letters, 0x61 ≤ letter.toNat ∧ letter.toNat ≤ 0x7a) ∧
        letters ++ asciiBytes "://" <+: text.map tolower := by
  have hbegins : ∀ {expected : String}, startsWithCase text expected →
      (asciiBytes expected).map tolower <+: text.map tolower := by
    intro expected hstarts
    rw [← of_decide_eq_true hstarts, map_take]
    exact take_prefix _ _
  rcases h with h | h
  · exact ⟨asciiBytes "http", by decide, by decide +kernel, hbegins h⟩
  · exact ⟨asciiBytes "https", by decide, by decide +kernel, hbegins h⟩

lemma HttpUrl.hasScheme {text : List UInt8} (h : HttpUrl text) : hlsHasScheme text := by
  obtain ⟨letters, hne, hletters, hbegins⟩ := h.letters
  refine hlsHasScheme_of_letters hne hletters (List.IsPrefix.trans ?_ hbegins)
  exact (prefix_append_right_inj letters).mpr (by decide)

/-! ## Where the resolvers agree -/

/-- The references that both resolvers read in one way: an absolute one if its scheme is `http` or
`https`, or if the base has no scheme; another one if the base has a scheme and the reference names its
authority, or the authority of the base ends at a slash, or the reference names its whole path and the
base has no query and no fragment. -/
def HlsReadAlike (base reference : List UInt8) : Prop :=
  if hlsHasScheme reference then HttpUrl reference ∨ hlsSchemeEnd base = none
  else
    ∃ schemeEnd, hlsSchemeEnd base = some schemeEnd ∧
      (hlsLineStartsWith reference "//" = true ∨ 0x2f ∈ base.drop (schemeEnd + 3) ∨
        (hlsLineStartsWith reference "/" = true ∧ ∀ byte ∈ base, byte ≠ 0x3f ∧ byte ≠ 0x23))

lemma not_startsWith_slash (h : hlsHasScheme reference) :
    hlsLineStartsWith reference "/" = false ∧ hlsLineStartsWith reference "//" = false := by
  cases reference with
  | nil => cases h
  | cons initial rest =>
    have hne : initial ≠ 0x2f := by
      rintro rfl
      cases h
    have hfirst : ¬[0x2f] <+: initial :: rest := by
      rw [cons_prefix_cons]
      exact fun hboth => hne hboth.1.symm
    have hsnd : ¬[0x2f, 0x2f] <+: initial :: rest := by
      rw [cons_prefix_cons]
      exact fun hboth => hne hboth.1.symm
    constructor
    · rw [← Bool.not_eq_true]
      exact fun hstarts => hfirst ( isPrefixOf_iff_prefix.mp hstarts)
    · rw [← Bool.not_eq_true]
      exact fun hstarts => hsnd ( isPrefixOf_iff_prefix.mp hstarts)

/-- `hls_append_resolved_media_uri` at a reference that is not a web address. -/
lemma hlsResolvedMediaUri_of_not_http (h : hlsResolvedMediaUri base reference = some resolved)
    (hhttp : ¬HttpUrl reference) :
    match hlsSchemeEnd base with
    | none => resolved = reference
    | some schemeEnd =>
      if hlsLineStartsWith reference "//" = true then
        resolved = base.take (schemeEnd + 1) ++ reference
      else
        let authorityEnd := match (base.drop (schemeEnd + 3)).idxOf? 0x2f with
          | some offset => schemeEnd + 3 + offset
          | none => base.length
        if hlsLineStartsWith reference "/" = true then resolved = base.take authorityEnd ++ reference
        else
          resolved = base.take (match last 0x2f base with
            | some pathEnd => if pathEnd < authorityEnd then base.length else pathEnd
            | none => base.length) ++ asciiBytes "/" ++ reference := by
  unfold hlsResolvedMediaUri at h
  unfold HttpUrl at hhttp
  split at h
  · cases h
  unfold hlsSchemeEnd
  cases hfirst : first (asciiBytes "://") base with
  | none =>
    rw [hfirst] at h
    exact (Option.some.inj h).symm
  | some schemeEnd =>
    rw [hfirst] at h
    dsimp only at h ⊢
    split at h
    · rename_i hform
      rw [if_pos hform]
      exact (Option.some.inj h).symm
    rename_i hform
    rw [if_neg hform]
    split_ifs at h with hroot
    · rw [if_pos hroot]
      exact (Option.some.inj h).symm
    · rw [if_neg hroot]
      exact (Option.some.inj h).symm

/-- At a path-relative reference it takes the directory of the base, or the whole base if no slash ends
its authority. -/
lemma hlsResolvedMediaUri_pathRelative (h : hlsResolvedMediaUri base reference = some resolved)
    (hhttp : ¬HttpUrl reference) (hbase : hlsSchemeEnd base = some schemeEnd)
    (hform : hlsLineStartsWith reference "//" = false ∧ hlsLineStartsWith reference "/" = false) :
    (∃ front back, base.drop (schemeEnd + 3) = front ++ 0x2f :: back ∧ 0x2f ∉ back ∧
        last 0x2f base = some (schemeEnd + 3 + front.length) ∧
        resolved = base.take (schemeEnd + 3 + front.length) ++ asciiBytes "/" ++ reference) ∨
      (0x2f ∉ base.drop (schemeEnd + 3) ∧ resolved = base ++ asciiBytes "/" ++ reference) := by
  have hres := hlsResolvedMediaUri_of_not_http h hhttp
  rw [hbase] at hres
  dsimp only at hres
  rw [hform.1, hform.2, if_neg Bool.false_ne_true, if_neg Bool.false_ne_true] at hres
  by_cases hslash : 0x2f ∈ base.drop (schemeEnd + 3)
  · obtain ⟨front, back, hrest, hback, hlast⟩ := last_slash_behind hbase hslash
    refine .inl ⟨front, back, hrest, hback, hlast, ?_⟩
    obtain ⟨offset, hoff⟩ := Option.isSome_iff_exists.mp (isSome_idxOf?.mpr hslash)
    have hle : offset ≤ front.length := by
      obtain ⟨_, _, hpre⟩ := idxOf?_eq_some_iff.mp hoff
      by_contra hlt
      refine hpre front.length (not_le.mp hlt) ?_
      simp only [hrest, getElem_append_right (le_rfl), Nat.sub_self, getElem_cons_zero]
    have hends : ¬schemeEnd + 3 + front.length < schemeEnd + 3 + offset := by omega
    rw [hlast, hoff] at hres
    dsimp only at hres
    rwa [if_neg hends] at hres
  · refine .inr ⟨hslash, ?_⟩
    have hlt : schemeEnd + 2 < base.length := (hlsSchemeEnd_split hbase).2
    rw [last_slash_scheme hbase hslash, idxOf?_eq_none_iff.mpr hslash] at hres
    dsimp only at hres
    rwa [if_pos hlt, take_length] at hres

/-- **The resolvers agree** on the references that they read alike and on no others. -/
theorem hlsResolvers_agree {resolved media : List UInt8}
    (hresolved : hlsResolveUri base reference = some resolved)
    (hmedia : hlsResolvedMediaUri base reference = some media) :
    resolved = media ↔ HlsReadAlike base reference := by
  obtain ⟨hform, hsafe⟩ := hlsResolved_of_some hresolved
  unfold HlsReadAlike
  cases hform with
  | absolute hscheme =>
    rw [if_pos hscheme]
    by_cases hhttp : HttpUrl reference
    · refine iff_of_true ?_ (.inl hhttp)
      unfold hlsResolvedMediaUri at hmedia
      split at hmedia
      · cases hmedia
      unfold HttpUrl at hhttp
      rw [if_pos hhttp] at hmedia
      exact Option.some.inj hmedia
    have hreads := hlsResolvedMediaUri_of_not_http hmedia hhttp
    cases hbase : hlsSchemeEnd base with
    | none =>
      rw [hbase] at hreads
      exact iff_of_true hreads.symm (.inr rfl)
    | some schemeEnd =>
      obtain ⟨hroot, hauthority⟩ := not_startsWith_slash hscheme
      refine iff_of_false (fun heq => ?_) (by simp [hhttp])
      have hlength := congrArg List.length heq
      have hslash : (asciiBytes "/").length = 1 := by decide
      obtain ⟨front, back, -, -, -, hmedia⟩ | ⟨-, hmedia⟩ :=
        hlsResolvedMediaUri_pathRelative hmedia hhttp hbase ⟨hauthority, hroot⟩
      all_goals
        rw [hmedia, List.length_append, List.length_append] at hlength
        omega
  | schemeRelative hscheme hform schemeEnd hbase =>
    have hhttp : ¬HttpUrl reference := fun hhttp => by
      rw [hhttp.hasScheme] at hscheme
      cases hscheme
    have hreads := hlsResolvedMediaUri_of_not_http hmedia hhttp
    rw [hbase] at hreads
    dsimp only at hreads
    rw [if_pos hform] at hreads
    rw [if_neg (by rw [hscheme]; exact Bool.false_ne_true)]
    refine iff_of_true ?_ ⟨schemeEnd, hbase, .inl hform⟩
    obtain ⟨hsplit, hle⟩ := hlsSchemeEnd_split hbase
    have hcolon : base.take (schemeEnd + 1) = base.take schemeEnd ++ asciiBytes ":" := by
      conv_lhs => rw [hsplit]
      rw [List.append_assoc, List.take_append, List.length_take, min_eq_left (by omega),
        List.take_of_length_le (by rw [List.length_take]; omega), Nat.add_sub_cancel_left]
      rfl
    rw [hreads, hcolon]
  | rootRelative hscheme hform schemeEnd hbase =>
    have hhttp : ¬HttpUrl reference := fun hhttp => by
      rw [hhttp.hasScheme] at hscheme
      cases hscheme
    have hreads := hlsResolvedMediaUri_of_not_http hmedia hhttp
    rw [hbase] at hreads
    dsimp only at hreads
    rw [if_neg (by rw [hform.1]; exact Bool.false_ne_true), if_pos hform.2] at hreads
    rw [if_neg (by rw [hscheme]; exact Bool.false_ne_true), hreads]
    by_cases hslash : 0x2f ∈ base.drop (schemeEnd + 3)
    · obtain ⟨offset, hoffset⟩ := Option.isSome_iff_exists.mp (List.isSome_idxOf?.mpr hslash)
      rw [hoffset]
      exact iff_of_true rfl ⟨schemeEnd, hbase, .inr (.inl hslash)⟩
    rw [List.idxOf?_eq_none_iff.mpr hslash]
    rw [List.take_length, List.append_cancel_right_eq]
    have hstem : base.take (base.takeWhile fun byte => byte ≠ 0x3f && byte ≠ 0x23).length =
        base.takeWhile fun byte => byte ≠ 0x3f && byte ≠ 0x23 :=
      (List.prefix_iff_eq_take.mp (List.takeWhile_prefix _)).symm
    rw [hstem, List.takeWhile_eq_self_iff]
    constructor
    · intro hall
      exact ⟨schemeEnd, hbase, .inr (.inr ⟨hform.2, fun byte hmem => by
        simpa using hall byte hmem⟩)⟩
    rintro ⟨other, hother, hform' | hslash' | ⟨-, hall⟩⟩
    · rw [hform.1] at hform'
      cases hform'
    · obtain rfl : schemeEnd = other := Option.some.inj (hbase.symm.trans hother)
      exact absurd hslash' hslash
    · exact fun byte hmem => by simpa using hall byte hmem
  | pathRelative hscheme hform directoryEnd hlast =>
    have hhttp : ¬HttpUrl reference := fun hhttp => by
      rw [hhttp.hasScheme] at hscheme
      cases hscheme
    have hslashes : (asciiBytes "/").length = 1 := by decide
    rw [if_neg (by rw [hscheme]; exact Bool.false_ne_true)]
    cases hbase : hlsSchemeEnd base with
    | none =>
      have hreads := hlsResolvedMediaUri_of_not_http hmedia hhttp
      rw [hbase] at hreads
      refine iff_of_false (fun heq => ?_) (by simp)
      have hlength := congrArg List.length (heq.trans hreads)
      rw [List.length_append, List.length_append] at hlength
      omega
    | some schemeEnd =>
      have hroot : hlsLineStartsWith reference "/" = false := by
        rw [← Bool.not_eq_true]
        intro hroot
        have hnone := hform.2 hroot
        rw [hbase] at hnone
        cases hnone
      obtain ⟨front, back, hrest, -, hlast', hmedia⟩ | ⟨hslash, hmedia⟩ :=
        hlsResolvedMediaUri_pathRelative hmedia hhttp hbase ⟨hform.1, hroot⟩
      · obtain rfl : directoryEnd = schemeEnd + 3 + front.length :=
          Option.some.inj (hlast.symm.trans hlast')
        refine iff_of_true hmedia.symm ⟨schemeEnd, rfl, .inr (.inl ?_)⟩
        rw [hrest]
        exact List.mem_append_right _ List.mem_cons_self
      obtain rfl : directoryEnd = schemeEnd + 2 :=
        Option.some.inj (hlast.symm.trans (last_slash_scheme hbase hslash))
      have hle := (hlsSchemeEnd_split hbase).2
      refine iff_of_false (fun heq => ?_) ?_
      · have hlength := congrArg List.length (heq.trans hmedia)
        rw [List.length_append, List.length_append, List.length_append, List.length_append,
          List.length_take, min_eq_left (by omega)] at hlength
        omega
      rintro ⟨other, hother, hform' | hslash' | ⟨hroot', -⟩⟩
      · rw [hform.1] at hform'
        cases hform'
      · obtain rfl : schemeEnd = other := Option.some.inj hother
        exact hslash hslash'
      · rw [hroot] at hroot'
        cases hroot'

/-- A reference to a file beside the playlist. -/
theorem hlsResolvers_agree_beside :
    hlsResolveUri (asciiBytes "http://h/a/b?c") (asciiBytes "x") =
        hlsResolvedMediaUri (asciiBytes "http://h/a/b?c") (asciiBytes "x") ∧
      HlsReadAlike (asciiBytes "http://h/a/b?c") (asciiBytes "x") := by
  have hresolved : hlsResolveUri (asciiBytes "http://h/a/b?c") (asciiBytes "x") =
      some (asciiBytes "http://h/a/x") := by decide +kernel
  have hmedia : hlsResolvedMediaUri (asciiBytes "http://h/a/b?c") (asciiBytes "x") =
      some (asciiBytes "http://h/a/x") := by decide +kernel
  exact ⟨hresolved.trans hmedia.symm, (hlsResolvers_agree hresolved hmedia).mp rfl⟩

/-- At a base without a path the resolvers disagree, and the reference takes the place of the authority in
one of them. -/
theorem hlsResolvers_disagree :
    hlsResolveUri (asciiBytes "http://h") (asciiBytes "x") = some (asciiBytes "http://x") ∧
      hlsResolvedMediaUri (asciiBytes "http://h") (asciiBytes "x") =
        some (asciiBytes "http://h/x") := by
  decide +kernel

/-! ## Path-relative references -/

/-- A URL without its query and its fragment. -/
def urlStem (url : List UInt8) : List UInt8 := url.takeWhile fun byte => byte ≠ 0x3f && byte ≠ 0x23

/-- The query and the fragment of a URL, with their marks. -/
def urlTail (url : List UInt8) : List UInt8 := url.dropWhile fun byte => byte ≠ 0x3f && byte ≠ 0x23

/-- The authority and the path of a URL. -/
def urlPlace (url : List UInt8) : List UInt8 :=
  match hlsSchemeEnd (urlStem url) with
  | some schemeEnd => (urlStem url).drop (schemeEnd + 3)
  | none => []

/-- RFC 3986, 5.2.3: the path of the base up to its last slash, and the reference; a base without a path
has the path `/`. -/
def mergedUrl (base reference : List UInt8) : List UInt8 :=
  match TextSearch.last 0x2f (urlPlace base) with
  | some offset =>
    (urlStem base).take ((urlStem base).length - (urlPlace base).length + offset) ++ asciiBytes "/" ++
      reference
  | none => urlStem base ++ asciiBytes "/" ++ reference

/-- A reference without a scheme that does not begin with a slash. -/
def PathRelative (reference : List UInt8) : Prop :=
  hlsHasScheme reference = false ∧ hlsLineStartsWith reference "/" = false

lemma HttpUrl.split (h : HttpUrl base) :
    ∃ scheme rest, base = scheme ++ asciiBytes "://" ++ rest ∧
      hlsSchemeEnd base = some scheme.length ∧
      urlStem base = scheme ++ asciiBytes "://" ++ urlStem rest ∧ urlTail base = urlTail rest ∧
      hlsSchemeEnd (urlStem base) = some scheme.length := by
  obtain ⟨letters, -, hletters, hbegins⟩ := h.letters
  obtain ⟨rest, hrest⟩ := hbegins
  obtain ⟨front, back, hbase, hfront, -⟩ := map_eq_append_iff.mp hrest.symm
  obtain ⟨scheme, marks, rfl, hsch, hmarks⟩ := map_eq_append_iff.mp hfront
  have hplain : ∀ value ∈ scheme, value ≠ 0x3a ∧ value ≠ 0x3f ∧ value ≠ 0x23 := by
    intro value hmem
    have hrange := hletters (tolower value) (hsch ▸ mem_map_of_mem hmem)
    refine ⟨?_, ?_, ?_⟩ <;>
    · rintro rfl
      exact absurd hrange (by decide)
  have hupper : ∀ value mark : UInt8, mark.toNat < 0x41 → tolower value = mark → value = mark := by
    intro value mark hmark heq
    unfold tolower at heq
    split_ifs at heq with hrange
    · have hsum := congrArg UInt8.toNat heq
      rw [UInt8.toNat_add] at hsum
      have hleft : (0x20 : UInt8).toNat = 0x20 := rfl
      omega
    · exact heq
  have hmarks' : marks = asciiBytes "://" := by
    have hlist : asciiBytes "://" = [0x3a, 0x2f, 0x2f] := by decide
    rw [hlist] at hmarks ⊢
    obtain ⟨first, others, rfl, hfirst, hothers⟩ := map_eq_cons_iff.mp hmarks
    obtain ⟨second, last, rfl, hsnd, hlast⟩ := map_eq_cons_iff.mp hothers
    obtain ⟨third, none', rfl, hthird, hnone⟩ := map_eq_cons_iff.mp hlast
    rw [map_eq_nil_iff] at hnone
    rw [hnone, hupper first _ (by decide) hfirst, hupper second _ (by decide) hsnd,
      hupper third _ (by decide) hthird]
  subst hmarks'
  have hfinds : ∀ place : List UInt8,
      hlsSchemeEnd (scheme ++ asciiBytes "://" ++ place) = some scheme.length := by
    intro place
    refine (first_eq_some_iff (by decide)).mpr ⟨?_, fun j hj hfound => ?_⟩
    · rw [append_assoc, drop_left]
      exact prefix_append _ _
    · rw [append_assoc, drop_append_of_le_length hj.le, drop_eq_getElem_cons hj] at hfound
      have hcolon : (0x3a : UInt8) = scheme[j] := (cons_prefix_cons.mp hfound).1
      exact (hplain _ (getElem_mem hj)).1 hcolon.symm
  have hkept : ∀ value ∈ scheme ++ asciiBytes "://",
      (decide (value ≠ 0x3f) && decide (value ≠ 0x23)) := by
    intro value hmem
    rcases mem_append.mp hmem with hmem | hmem
    · simpa using (hplain value hmem).2
    have hall : ∀ value ∈ asciiBytes "://",
        (decide (value ≠ 0x3f) && decide (value ≠ 0x23)) := by decide +kernel
    exact hall value hmem
  have hstem : urlStem base = scheme ++ asciiBytes "://" ++ urlStem back := by
    rw [hbase, urlStem, takeWhile_append_of_pos hkept]
    rfl
  refine ⟨scheme, back, hbase, hbase ▸ hfinds back, hstem, ?_, hstem ▸ hfinds _⟩
  rw [hbase, urlTail, dropWhile_append_of_pos hkept]
  rfl

/-- A web address with what stands behind its `://`. -/
structure HttpParts (base scheme rest : List UInt8) : Prop where
  whole : base = scheme ++ asciiBytes "://" ++ rest
  schemeEnd : hlsSchemeEnd base = some scheme.length
  stem : urlStem base = scheme ++ asciiBytes "://" ++ urlStem rest
  tail : urlTail base = urlTail rest
  place : urlPlace base = urlStem rest

lemma HttpUrl.parts (h : HttpUrl base) : ∃ scheme rest, HttpParts base scheme rest := by
  obtain ⟨scheme, rest, hwhole, hschemeEnd, hstem, htail, hstemEnd⟩ := h.split
  refine ⟨scheme, rest, hwhole, hschemeEnd, hstem, htail, ?_⟩
  have hlen : (asciiBytes "://").length = 3 := by decide
  unfold urlPlace
  rw [hstemEnd]
  dsimp only
  rw [hstem, ← hlen, ← length_append, drop_left]

section Parts

variable {scheme rest : List UInt8} (h : HttpParts base scheme rest)

include h

lemma HttpParts.drop : base.drop (scheme.length + 3) = rest := by
  have hlen : (asciiBytes "://").length = 3 := by decide
  conv_lhs => rw [h.whole]
  rw [← hlen, ← length_append, drop_left]

variable {front back : List UInt8}

lemma HttpParts.take (hrest : rest = front ++ back) :
    base.take (scheme.length + 3 + front.length) = scheme ++ asciiBytes "://" ++ front := by
  have hlen : (asciiBytes "://").length = 3 := by decide
  conv_lhs => rw [h.whole, hrest]
  rw [← hlen, ← length_append, ← append_assoc, ← length_append, take_left]

lemma HttpParts.merged_of_path (hstem : urlStem rest = front ++ 0x2f :: back) (hback : 0x2f ∉ back)
      :
    mergedUrl base reference = scheme ++ asciiBytes "://" ++ front ++ asciiBytes "/" ++ reference := by
  unfold mergedUrl
  rw [h.place, hstem, last_append hback]
  dsimp only
  rw [h.stem, hstem, length_append, Nat.add_sub_cancel, ← append_assoc, ← length_append, take_left]

lemma HttpParts.merged_of_bare (hstem : 0x2f ∉ urlStem rest) :
    mergedUrl base reference =
      scheme ++ asciiBytes "://" ++ urlStem rest ++ asciiBytes "/" ++ reference := by
  unfold mergedUrl
  rw [h.place, last_eq_none hstem]
  rw [h.stem]

omit h in
lemma front_length_unique {front' back' : List UInt8} (hback : 0x2f ∉ back) (hback' : 0x2f ∉ back')
    (heq : front ++ 0x2f :: back = front' ++ 0x2f :: back') : front.length = front'.length := by
  have hlast : last 0x2f (front ++ 0x2f :: back) = some front.length :=
    last_append hback
  rw [heq, last_append hback'] at hlast
  exact (Option.some.inj hlast).symm

/-- What stands before the last slash of the whole base is merged right just when that slash is not one
of the query or the fragment. -/
lemma HttpParts.merged_iff (hrest : rest = front ++ 0x2f :: back) (hback : 0x2f ∉ back) :
    base.take (scheme.length + 3 + front.length) ++ asciiBytes "/" ++ reference =
        mergedUrl base reference ↔ 0x2f ∉ urlTail base := by
  have hparts : rest = urlStem rest ++ urlTail rest := takeWhile_append_dropWhile.symm
  rw [h.take hrest, h.tail]
  constructor
  · intro heq htail
    obtain ⟨early, late, hcut, hlate⟩ := exists_last htail
    have hfront : front.length = (urlStem rest ++ early).length := by
      refine front_length_unique hback hlate ?_
      rw [← hrest, append_assoc, ← hcut]
      exact hparts
    have hearly : early ≠ [] := by
      rintro rfl
      have hhead : urlTail rest = 0x2f :: late := hcut
      unfold urlTail at hhead
      have hne : rest.dropWhile (fun byte => byte ≠ 0x3f && byte ≠ 0x23) ≠ [] := by
        rw [hhead]
        exact cons_ne_nil _ _
      have hnot := head_dropWhile_not _ hne
      simp only [hhead, head_cons] at hnot
      cases hnot
    have hpos := length_pos_of_ne_nil hearly
    have hlen := congrArg length heq
    rw [length_append] at hfront
    by_cases hpath : 0x2f ∈ urlStem rest
    · obtain ⟨path, file, hstem, hfile⟩ := exists_last hpath
      have hsum := congrArg length hstem
      rw [h.merged_of_path hstem hfile] at hlen
      simp only [length_append, length_cons] at hlen hsum
      omega
    · rw [h.merged_of_bare hpath] at hlen
      simp only [length_append] at hlen
      omega
  · intro htail
    have hpath : 0x2f ∈ urlStem rest := by
      have hmem : 0x2f ∈ rest := hrest ▸ mem_append_right _ mem_cons_self
      rw [hparts, mem_append] at hmem
      exact hmem.resolve_right htail
    obtain ⟨path, file, hstem, hfile⟩ := exists_last hpath
    have hwhole : front ++ 0x2f :: back = path ++ 0x2f :: (file ++ urlTail rest) := by
      rw [← hrest, ← cons_append, ← append_assoc, ← hstem]
      exact hparts
    have hlengths : front.length = path.length := by
      refine front_length_unique hback ?_ hwhole
      rw [mem_append, not_or]
      exact ⟨hfile, htail⟩
    rw [h.merged_of_path hstem hfile, (append_inj hwhole hlengths).1]

end Parts

lemma PathRelative.not_authority (h : PathRelative reference) :
    hlsLineStartsWith reference "//" = false := by
  rw [← Bool.not_eq_true]
  intro hboth
  have hpfx : asciiBytes "/" <+: asciiBytes "//" := by decide
  have hroot := hpfx.trans ( isPrefixOf_iff_prefix.mp hboth)
  have hnot := h.2
  rw [hlsLineStartsWith, isPrefixOf_iff_prefix.mpr hroot] at hnot
  cases hnot

lemma PathRelative.not_httpUrl (h : PathRelative reference) : ¬HttpUrl reference := by
  intro hhttp
  have hsch := h.1
  rw [hhttp.hasScheme] at hsch
  cases hsch

/-- **Merging a path-relative reference.** What `hls_resolve_uri` makes of it is the base's path up to its
last slash and the reference just when the base has a path and no slash stands in its query or fragment;
what `hls_append_resolved_media_uri` makes of it, also at a base that is an authority alone. -/
theorem hls_reference_merge (hbase : HttpUrl base) (href : PathRelative reference) :
    (∀ resolved, hlsResolveUri base reference = some resolved →
      (resolved = mergedUrl base reference ↔ 0x2f ∈ urlPlace base ∧ 0x2f ∉ urlTail base)) ∧
    ∀ media, hlsResolvedMediaUri base reference = some media →
      (media = mergedUrl base reference ↔
        0x2f ∉ urlTail base ∧ (0x2f ∈ urlPlace base ∨ urlTail base = [])) := by
  obtain ⟨scheme, rest, hparts⟩ := hbase.parts
  have hcut : rest = urlStem rest ++ urlTail rest := List.takeWhile_append_dropWhile.symm
  have hslash : (asciiBytes "/").length = 1 := by decide
  have hmarks : (asciiBytes "://").length = 3 := by decide
  have hmem : 0x2f ∈ rest → 0x2f ∉ urlTail base → 0x2f ∈ urlPlace base := by
    intro hrest htail
    rw [hcut, List.mem_append] at hrest
    rw [hparts.place]
    exact hrest.resolve_right (hparts.tail ▸ htail)
  have hplace : 0x2f ∉ rest → 0x2f ∉ urlPlace base := by
    intro hnot hpath
    rw [hparts.place] at hpath
    exact hnot (hcut ▸ List.mem_append_left _ hpath)
  refine ⟨fun resolved hresolved => ?_, fun media hmedia => ?_⟩
  · obtain ⟨hform, -⟩ := hlsResolved_of_some hresolved
    cases hform with
    | absolute hscheme => exact absurd hscheme (by rw [href.1]; exact Bool.false_ne_true)
    | schemeRelative _ hform =>
      exact absurd hform (by rw [href.not_authority]; exact Bool.false_ne_true)
    | rootRelative _ hform => exact absurd hform.2 (by rw [href.2]; exact Bool.false_ne_true)
    | pathRelative _ _ directoryEnd hlast =>
      by_cases hrest : 0x2f ∈ rest
      · obtain ⟨front, back, hsplit, hback, hlast'⟩ :=
          last_slash_behind hparts.schemeEnd (by rwa [hparts.drop])
        rw [hparts.drop] at hsplit
        obtain rfl := Option.some.inj (hlast.symm.trans hlast')
        rw [hparts.merged_iff hsplit hback]
        exact ⟨fun htail => ⟨hmem hrest htail, htail⟩, And.right⟩
      · have hlast' := last_slash_scheme hparts.schemeEnd (by rwa [hparts.drop])
        obtain rfl := Option.some.inj (hlast.symm.trans hlast')
        refine iff_of_false (fun heq => ?_) fun hboth => hplace hrest hboth.1
        have hbare : 0x2f ∉ urlStem rest := hparts.place ▸ hplace hrest
        have hlength := congrArg List.length heq
        rw [hparts.merged_of_bare hbare] at hlength
        simp only [List.length_append, List.length_take, hslash, hmarks] at hlength
        omega
  · obtain ⟨front, back, hsplit, hback, -, rfl⟩ | ⟨hrest, rfl⟩ :=
      hlsResolvedMediaUri_pathRelative hmedia href.not_httpUrl hparts.schemeEnd
        ⟨href.not_authority, href.2⟩
    · rw [hparts.drop] at hsplit
      rw [hparts.merged_iff hsplit hback]
      have hrest : 0x2f ∈ rest := hsplit ▸ List.mem_append_right _ List.mem_cons_self
      exact ⟨fun htail => ⟨htail, .inl (hmem hrest htail)⟩, And.left⟩
    rw [hparts.drop] at hrest
    have hbare : 0x2f ∉ urlStem rest := hparts.place ▸ hplace hrest
    have htail : 0x2f ∉ urlTail base := by
      rw [hparts.tail]
      exact fun htail => hrest (hcut ▸ List.mem_append_right _ htail)
    rw [hparts.merged_of_bare hbare, hparts.tail]
    constructor
    · intro heq
      refine ⟨hparts.tail ▸ htail, .inr ?_⟩
      have hlength := congrArg List.length heq
      have hsum := congrArg List.length hcut
      rw [hparts.whole] at hlength
      simp only [List.length_append] at hlength hsum
      exact List.eq_nil_of_length_eq_zero (by omega)
    · rintro ⟨-, hpath | hempty⟩
      · exact absurd hpath (hplace hrest)
      rw [hempty, List.append_nil] at hcut
      rw [← hcut]
      conv_lhs => rw [hparts.whole]

/-- A base with a path and a query without slashes. -/
theorem hls_reference_merge_query :
    hlsResolveUri (asciiBytes "http://h/a/b?c") (asciiBytes "x") =
        some (mergedUrl (asciiBytes "http://h/a/b?c") (asciiBytes "x")) ∧
      hlsResolvedMediaUri (asciiBytes "http://h/a/b?c") (asciiBytes "x") =
        some (mergedUrl (asciiBytes "http://h/a/b?c") (asciiBytes "x")) := by
  have hmerge := @hls_reference_merge (asciiBytes "http://h/a/b?c") (asciiBytes "x")
    (by decide) ⟨by decide, by decide⟩
  have hresolved : hlsResolveUri (asciiBytes "http://h/a/b?c") (asciiBytes "x") =
      some (asciiBytes "http://h/a/x") := by decide +kernel
  have hmedia : hlsResolvedMediaUri (asciiBytes "http://h/a/b?c") (asciiBytes "x") =
      some (asciiBytes "http://h/a/x") := by decide +kernel
  refine ⟨?_, ?_⟩
  · rw [hresolved, ← (hmerge.1 _ hresolved).mpr (by decide +kernel)]
  · rw [hmedia, ← (hmerge.2 _ hmedia).mpr (by decide +kernel)]

/-- A slash in the query: half of the query becomes a part of the path. -/
theorem hls_reference_merge_slash :
    hlsResolveUri (asciiBytes "http://h/a?b/c") (asciiBytes "x") =
        some (asciiBytes "http://h/a?b/x") ∧
      hlsResolvedMediaUri (asciiBytes "http://h/a?b/c") (asciiBytes "x") =
        some (asciiBytes "http://h/a?b/x") ∧
      mergedUrl (asciiBytes "http://h/a?b/c") (asciiBytes "x") = asciiBytes "http://h/x" := by
  decide +kernel

end NXCast

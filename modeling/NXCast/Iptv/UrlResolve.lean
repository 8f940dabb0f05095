import NXCast.Framework.TextSearch
import NXCast.Rtsp.Text

/-!
# Resolving the references of a playlist

`iptv_url_resolve` resolves a reference against the URL of the playlist that it stands in.
-/

namespace NXCast

open List TextSearch

/-! ## The code -/

/-- `url_is_remote` -/
def urlIsRemote (url : List UInt8) : Bool :=
  (url.take 7).map tolower = asciiBytes "http://" || (url.take 8).map tolower = asciiBytes "https://"

/-- A byte of a scheme: `isalnum`, or one of `+-.` -/
def urlSchemeByte (byte : UInt8) : Bool :=
  decide ((0x30 ≤ byte ∧ byte ≤ 0x39) ∨ (0x41 ≤ byte ∧ byte ≤ 0x5A) ∨ (0x61 ≤ byte ∧ byte ≤ 0x7A)) ||
    (asciiBytes "+-.").contains byte

/-- `url_has_uri_scheme` -/
def urlHasUriScheme (url : List UInt8) : Bool :=
  if (url.take 6).map tolower = asciiBytes "sdmc:/" then true
  else
    match first (asciiBytes "://") url with
    | none => false
    | some separator => separator ≠ 0 && (url.take separator).all urlSchemeByte

/-- `url_write_parts`: whether it succeeds, and the output. -/
def urlWriteParts (outputSize : ℕ) (parts : List (List UInt8)) : Bool × List UInt8 :=
  if outputSize = 0 ∨ outputSize ≤ parts.flatten.length then (false, []) else (true, parts.flatten)

/-- The text in front of the first of `?#`. -/
def urlBeforeQuery (text : List UInt8) : List UInt8 := text.takeWhile fun byte => byte ≠ 0x3F && byte ≠ 0x23

/-- The parts that `iptv_url_resolve` has written, for a reference that is not empty. -/
def iptvUrlParts (base reference : List UInt8) : List (List UInt8) :=
  if urlHasUriScheme reference ∨ base = [] then [reference]
  else if urlIsRemote base then
    let schemeEnd := (first (asciiBytes "://") base).getD 0
    let authorityStart := schemeEnd + 3
    let front := urlBeforeQuery (base.drop authorityStart)
    if asciiBytes "//" <+: reference then [base.take schemeEnd, asciiBytes ":", reference]
    else if asciiBytes "/" <+: reference then
      [base.take (authorityStart + (front.takeWhile (· ≠ 0x2F)).length), reference]
    else
      [base.take (authorityStart + (last 0x2F front).getD front.length), asciiBytes "/", reference]
  else if asciiBytes "/" <+: reference then [reference]
  else
    match last 0x2F (urlBeforeQuery base) with
    | none => [reference]
    | some lastSlash => [base.take lastSlash, asciiBytes "/", reference]

/-- `iptv_url_resolve`; a text that is not there is empty. -/
def iptvUrlResolve (base reference : List UInt8) (outputSize : ℕ) : Bool × List UInt8 :=
  if outputSize = 0 ∨ reference = [] then (false, [])
  else urlWriteParts outputSize (iptvUrlParts base reference)

/-! ## URLs in parts -/

/-- An HTTP URL: the directory and the name are the path, in front of and behind its last slash. -/
structure RemoteUrl where
  scheme : List UInt8
  authority : List UInt8
  directory : List UInt8
  name : Option (List UInt8)
  query : List UInt8
  scheme_http : scheme.map tolower = asciiBytes "http" ∨ scheme.map tolower = asciiBytes "https"
  authority_clean : ∀ byte ∈ authority, byte ≠ 0x2F ∧ byte ≠ 0x3F ∧ byte ≠ 0x23
  directory_clean : (∀ byte ∈ directory, byte ≠ 0x3F ∧ byte ≠ 0x23) ∧
    (directory = [] ∨ directory.head? = some 0x2F ∧ name.isSome)
  name_clean : ∀ name', name = some name' → ∀ byte ∈ name', byte ≠ 0x2F ∧ byte ≠ 0x3F ∧ byte ≠ 0x23
  query_head : query = [] ∨ query.head? = some 0x3F ∨ query.head? = some 0x23

namespace RemoteUrl

variable (url : RemoteUrl)

/-- The scheme and the authority. -/
def root : List UInt8 := url.scheme ++ asciiBytes "://" ++ url.authority

def text : List UInt8 :=
  url.root ++ url.directory ++ url.name.elim [] (0x2F :: ·) ++ url.query

/-- The URL of a reference without a scheme. -/
def resolved (reference : List UInt8) : List UInt8 :=
  if asciiBytes "//" <+: reference then url.scheme ++ asciiBytes ":" ++ reference
  else if asciiBytes "/" <+: reference then url.root ++ reference
  else url.root ++ url.directory ++ asciiBytes "/" ++ reference

lemma tolower_mark (byte : UInt8) : (tolower byte = 0x3A → byte = 0x3A) ∧ (tolower byte = 0x2F → byte = 0x2F) := by
  have hall : ∀ n : Fin 256, (tolower (UInt8.ofNat n) = 0x3A → UInt8.ofNat n = 0x3A) ∧
      (tolower (UInt8.ofNat n) = 0x2F → UInt8.ofNat n = 0x2F) := by
    decide +kernel
  have hbyte := hall ⟨byte.toNat, byte.toNat_lt⟩
  rwa [UInt8.ofNat_toNat] at hbyte

lemma eq_separator {text : List UInt8} (h : text.map tolower = asciiBytes "://") :
    text = asciiBytes "://" := by
  match text with
  | [] | [_] | [_, _] | _ :: _ :: _ :: _ :: _ => exact absurd (congrArg length h) (by simp [asciiBytes])
  | [colon, slash, slash'] =>
    simp only [map_cons, map_nil, asciiBytes, String.toList] at h
    injection h with hcolon h
    injection h with hslash h
    injection h with hslash' _
    rw [(tolower_mark colon).1 hcolon, (tolower_mark slash).2 hslash, (tolower_mark slash').2 hslash']
    rfl

lemma exists_scheme_of_take {base : List UInt8} (scheme : List UInt8)
    (h : (base.take (scheme.length + 3)).map tolower = scheme ++ asciiBytes "://") :
    ∃ front rest, base = front ++ asciiBytes "://" ++ rest ∧ front.map tolower = scheme := by
  refine ⟨(base.take (scheme.length + 3)).take scheme.length, base.drop (scheme.length + 3), ?_, ?_⟩
  · have hmark : (base.take (scheme.length + 3)).drop scheme.length = asciiBytes "://" :=
      eq_separator (by rw [map_drop, h, drop_left])
    rw [← hmark, take_append_drop, take_append_drop]
  · rw [map_take, h, take_left]

/-- The scheme of a remote URL is the text in front of its first `://`. -/
lemma first_scheme {scheme : List UInt8} (rest : List UInt8)
    (h : scheme.map tolower = asciiBytes "http" ∨ scheme.map tolower = asciiBytes "https") :
    first (asciiBytes "://") (scheme ++ asciiBytes "://" ++ rest) = some scheme.length := by
  have hcolon : 0x3A ∉ scheme := fun hmem => by
    have hmap := mem_map_of_mem (f := tolower) hmem
    rcases h with h | h <;> rw [h] at hmap <;> revert hmap <;> decide
  rw [first_eq_some_iff (by decide), append_assoc, drop_left]
  refine ⟨prefix_append _ _, fun j hj hpfx => hcolon ?_⟩
  obtain ⟨more, hmore⟩ := hpfx
  rw [drop_append_of_le_length hj.le, drop_eq_getElem_cons hj, cons_append] at hmore
  have hhead : (0x3A : UInt8) = scheme[j] := (cons_eq_cons.mp hmore).1
  exact hhead ▸ getElem_mem hj

/-- A text is cut where a test fails for the first time. -/
lemma exists_cut (test : UInt8 → Bool) (text : List UInt8) :
    ∃ front back, text = front ++ back ∧ (∀ byte ∈ front, test byte = true) ∧
      (back = [] ∨ ∃ byte more, back = byte :: more ∧ test byte = false) := by
  refine ⟨text.takeWhile test, text.dropWhile test, takeWhile_append_dropWhile.symm,
    fun _ => mem_takeWhile_imp, ?_⟩
  have hhead := head?_dropWhile_not test text
  cases hback : text.dropWhile test with
  | nil => exact .inl rfl
  | cons byte more =>
    rw [hback] at hhead
    exact .inr ⟨byte, more, rfl, by simpa using hhead⟩

/-- Every remote URL has its parts. -/
lemma exists_parts {base : List UInt8} (h : urlIsRemote base = true) : ∃ url : RemoteUrl, url.text = base := by
  obtain ⟨scheme, rest, rfl, hsch⟩ : ∃ scheme rest, base = scheme ++ asciiBytes "://" ++ rest ∧
      (scheme.map tolower = asciiBytes "http" ∨ scheme.map tolower = asciiBytes "https") := by
    rcases Bool.or_eq_true _ _ ▸ h with h | h
    · obtain ⟨front, rest, hbase, hfront⟩ := exists_scheme_of_take (asciiBytes "http") (of_decide_eq_true h)
      exact ⟨front, rest, hbase, .inl hfront⟩
    · obtain ⟨front, rest, hbase, hfront⟩ := exists_scheme_of_take (asciiBytes "https") (of_decide_eq_true h)
      exact ⟨front, rest, hbase, .inr hfront⟩
  obtain ⟨front, query, rfl, hfront, hquery⟩ := exists_cut (fun byte => byte ≠ 0x3F && byte ≠ 0x23) rest
  obtain ⟨authority, path, rfl, hauth, hpath⟩ := exists_cut (fun byte => byte ≠ 0x2F) front
  simp only [mem_append, Bool.and_eq_true, decide_eq_true_eq] at hfront hauth
  have hhead : query = [] ∨ query.head? = some 0x3F ∨ query.head? = some 0x23 := by
    rcases hquery with hquery | ⟨byte, more, rfl, hbyte⟩
    · exact .inl hquery
    · exact .inr (by simpa [imp_iff_not_or] using hbyte)
  have hclean : ∀ byte ∈ authority, byte ≠ 0x2F ∧ byte ≠ 0x3F ∧ byte ≠ 0x23 := fun byte hmem =>
    ⟨hauth byte hmem, hfront byte (.inl hmem)⟩
  rcases hpath with rfl | ⟨slash, more, rfl, hslash⟩
  · exact ⟨⟨scheme, authority, [], none, query, hsch, hclean, ⟨by simp, .inl rfl⟩, by simp, hhead⟩, by
      simp [text, root]⟩
  have hslash : slash = 0x2F := by simpa using hslash
  obtain ⟨directory, name, hpath, hname⟩ := exists_last (by simp [hslash] : 0x2F ∈ slash :: more)
  rw [hpath] at hfront ⊢
  simp only [mem_append, mem_cons] at hfront
  refine ⟨⟨scheme, authority, directory, some name, query, hsch, hclean,
    ⟨fun byte hmem => hfront byte (.inr (.inl hmem)), ?_⟩, ?_, hhead⟩, by simp [text, root]⟩
  · cases directory with
    | nil => exact .inl rfl
    | cons byte directory =>
      rw [← (cons_eq_cons.mp hpath).1, hslash]
      exact .inr ⟨rfl, rfl⟩
  · rintro name' ⟨⟩ byte hmem
    exact ⟨fun heq => hname (heq ▸ hmem), hfront byte (.inr (.inr (.inr hmem)))⟩

/-- What the code finds in a remote URL. -/
lemma code_parts : first (asciiBytes "://") url.text = some url.scheme.length ∧
    urlBeforeQuery (url.text.drop (url.scheme.length + 3)) =
      url.authority ++ url.directory ++ url.name.elim [] (0x2F :: ·) := by
  have htext : url.text = url.scheme ++ asciiBytes "://" ++
      (url.authority ++ url.directory ++ url.name.elim [] (0x2F :: ·) ++ url.query) := by
    simp [text, root]
  refine ⟨htext ▸ first_scheme _ url.scheme_http, ?_⟩
  have hlen : url.scheme.length + 3 = (url.scheme ++ asciiBytes "://").length := by
    rw [length_append]
    rfl
  rw [htext, hlen, drop_left, urlBeforeQuery, takeWhile_append_of_pos]
  · have hquery := url.query_head
    cases hcases : url.query with
    | nil => simp
    | cons byte query =>
      rw [hcases] at hquery
      have hbyte : byte = 0x3F ∨ byte = 0x23 := by simpa using hquery
      rcases hbyte with rfl | rfl <;> simp
  intro byte hmem
  have hbyte : byte ≠ 0x3F ∧ byte ≠ 0x23 := by
    simp only [mem_append] at hmem
    rcases hmem with (hmem | hmem) | hmem
    · exact (url.authority_clean byte hmem).2
    · exact url.directory_clean.1 byte hmem
    cases hname : url.name with
    | none =>
      rw [hname] at hmem
      exact absurd hmem not_mem_nil
    | some name =>
      rw [hname] at hmem
      rcases mem_cons.mp hmem with rfl | hmem
      · decide
      · exact (url.name_clean name hname byte hmem).2
  simpa using hbyte

end RemoteUrl

/-- A reference that begins with a slash has no scheme. -/
lemma urlHasUriScheme_slash (rest : List UInt8) : urlHasUriScheme (0x2F :: rest) = false := by
  have hsdmc : ((0x2F :: rest).take 6).map tolower ≠ asciiBytes "sdmc:/" := fun h =>
    absurd (cons_eq_cons.mp h).1 (by decide)
  rw [urlHasUriScheme, if_neg hsdmc]
  cases first (asciiBytes "://") (0x2F :: rest) with
  | none => rfl
  | some separator =>
    cases separator with
    | zero => rfl
    | succ separator => simp [show urlSchemeByte 0x2F = false by decide]

/-- The parts that are written for a remote base. -/
lemma RemoteUrl.flatten_parts (url : RemoteUrl) {reference : List UInt8}
    (hrem : urlIsRemote url.text = true) (hsch : urlHasUriScheme reference = false) :
    (iptvUrlParts url.text reference).flatten = url.resolved reference := by
  obtain ⟨hfirst, hpre⟩ := url.code_parts
  have hbase : url.text ≠ [] := by
    intro hnil
    rw [hnil] at hrem
    exact absurd hrem (by decide)
  have hroot (more : List UInt8) : url.scheme.length + 3 + (url.authority ++ more).length =
      (url.root ++ more).length := by
    simp [root, asciiBytes]
    omega
  have hauth : 0x2F ∉ url.authority := fun hmem => (url.authority_clean _ hmem).1 rfl
  rw [iptvUrlParts, if_neg (by simp [hsch, hbase]), if_pos hrem, hfirst]
  simp only [Option.getD_some, hpre, resolved]
  split_ifs with htwo hone
  · simp [text, root]
  · have hpath : (url.authority ++ url.directory ++ url.name.elim [] (0x2F :: ·)).takeWhile (· ≠ 0x2F) =
        url.authority := by
      rw [append_assoc, takeWhile_append_of_pos fun byte hmem => by simpa using (url.authority_clean byte hmem).1]
      rcases url.directory_clean.2 with hnil | ⟨hhead, -⟩
      · cases url.name <;> simp [hnil]
      · obtain ⟨more, hmore⟩ := head?_eq_some_iff.mp hhead
        simp [hmore]
    have htake := hroot []
    rw [append_nil, append_nil] at htake
    rw [hpath, htake, text, append_assoc, append_assoc, take_left]
    simp
  · have hlast : (last 0x2F (url.authority ++ url.directory ++ url.name.elim [] (0x2F :: ·))).getD
        (url.authority ++ url.directory ++ url.name.elim [] (0x2F :: ·)).length =
          (url.authority ++ url.directory).length := by
      cases hname : url.name with
      | none =>
        have hnil : url.directory = [] := url.directory_clean.2.resolve_right fun h => by simp [hname] at h
        rw [hnil, append_nil, Option.elim_none, append_nil, last_eq_none hauth]
        rfl
      | some name =>
        rw [Option.elim_some, last_append fun hmem => (url.name_clean name hname _ hmem).1 rfl]
        rfl
    rw [hlast, hroot, text, append_assoc, take_left]
    simp

/-- `iptv_url_resolve` fails with an empty output or writes one text completely: a reference with a scheme
itself, and at a remote base the URL that the reference has there. -/
theorem iptvUrlResolve_resolves (base reference : List UInt8) :
    (reference = [] ∧ ∀ size, iptvUrlResolve base reference size = (false, [])) ∨
    ∃ target, (∀ size, iptvUrlResolve base reference size =
        if target.length < size then (true, target) else (false, [])) ∧
      (urlHasUriScheme reference = true → target = reference ∧ ¬asciiBytes "/" <+: reference) ∧
      (urlHasUriScheme reference = false → urlIsRemote base = true →
        ∃ url : RemoteUrl, url.text = base ∧ target = url.resolved reference) := by
  rcases eq_or_ne reference [] with hempty | hsome
  · exact .inl ⟨hempty, fun _ => if_pos (.inr hempty)⟩
  refine .inr ⟨(iptvUrlParts base reference).flatten, fun size => ?_, fun hscheme => ⟨?_, ?_⟩,
    fun hscheme hremote => ?_⟩
  · unfold iptvUrlResolve urlWriteParts
    split_ifs <;> first | rfl | omega | simp_all
  · rw [iptvUrlParts, if_pos (.inl hscheme), flatten_singleton]
  · rintro ⟨rest, rfl⟩
    exact absurd hscheme (Bool.eq_false_iff.mp (urlHasUriScheme_slash rest))
  · obtain ⟨url, rfl⟩ := RemoteUrl.exists_parts hremote
    exact ⟨url, rfl, url.flatten_parts hremote hscheme⟩

end NXCast

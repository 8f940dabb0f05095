import NXCast.Dlna.EventServer
import NXCast.Dlna.SoapWriter

/-!
# Reading the elements of a request

`soap_handler_extract_xml_value_alloc` and what it calls.  The scanner goes from `<` to `<` and takes
the first element with the tag's local name whose end it finds; it decodes the five entities once and
trims the value.  What the response writer writes is read back by it: an escaped text holds no `<`,
so the elements before the one that is looked for are passed over.
-/

namespace NXCast

open List

/-! ## Decoding -/

/-- The entities that `xml_decode_in_place` knows, and the byte each stands for. -/
def xmlEntities : List (List UInt8 × UInt8) :=
  [(asciiBytes "&amp;", 0x26), (asciiBytes "&lt;", 0x3c), (asciiBytes "&gt;", 0x3e),
    (asciiBytes "&quot;", 0x22), (asciiBytes "&apos;", 0x27)]

/-- `xml_decode_in_place`, `skip` bytes further. -/
def xmlDecodeFrom : ℕ → List UInt8 → List UInt8
  | _, [] => []
  | skip + 1, _ :: rest => xmlDecodeFrom skip rest
  | 0, byte :: rest =>
    match xmlEntities.find? fun entity => entity.1.isPrefixOf (byte :: rest) with
    | some entity => entity.2 :: xmlDecodeFrom (entity.1.length - 1) rest
    | none => byte :: xmlDecodeFrom 0 rest

/-- `xml_decode_in_place` -/
def xmlDecode (value : List UInt8) : List UInt8 := xmlDecodeFrom 0 value

/-- `trim_whitespace_in_place` -/
def trimWhitespace (value : List UInt8) : List UInt8 :=
  (value.reverse.dropWhile isspace).reverse.dropWhile isspace

/-! ## Elements -/

/-- A byte of the name in an opening tag. -/
def xmlNameByte (byte : UInt8) : Bool := !isspace byte && byte ≠ 0x3e && byte ≠ 0x2f

/-- A byte of the name in a closing tag. -/
def xmlCloseNameByte (byte : UInt8) : Bool := !isspace byte && byte ≠ 0x3e

/-- The local part of a name is the tag, in whichever case. -/
def sameTag (tag name : List UInt8) : Bool := sameText (localName name) tag

/-- The name in a closing tag, from behind its `</`. -/
def xmlCloseName (text : List UInt8) : List UInt8 :=
  (text.dropWhile isspace).takeWhile xmlCloseNameByte

/-- What stands before the first closing tag of the name. -/
def xmlValue (tag : List UInt8) : List UInt8 → Option (List UInt8)
  | [] => none
  | byte :: rest =>
    if byte = 0x3c ∧ rest.head? = some 0x2f ∧ xmlCloseName rest.tail ≠ [] ∧
        sameTag tag (xmlCloseName rest.tail) then
      some []
    else (xmlValue tag rest).map (byte :: ·)

/-- The loop of `soap_handler_extract_xml_value_alloc`, with the cursor `skip` bytes further. -/
def soapExtractFrom (tag : List UInt8) : ℕ → List UInt8 → Option (List UInt8)
  | _, [] => none
  | skip + 1, _ :: rest => soapExtractFrom tag skip rest
  | 0, byte :: rest =>
    let blanks := (rest.takeWhile isspace).length
    let name := (rest.drop blanks).takeWhile xmlNameByte
    let attributes := (rest.drop (blanks + name.length)).takeWhile (· ≠ 0x3e)
    let opened := blanks + name.length + attributes.length
    if byte ≠ 0x3c ∨ rest.head?.elim false (asciiBytes "/?!").contains ∨ name = [] then
      soapExtractFrom tag 0 rest
    else if !sameTag tag name then soapExtractFrom tag (blanks + name.length) rest
    else
      match rest.drop opened with
      | [] => none
      | _ :: value =>
        if attributes.getLast? = some 0x2f then soapExtractFrom tag (opened + 1) rest
        else
          match xmlValue tag value with
          | some value => some (trimWhitespace (xmlDecode value))
          | none => soapExtractFrom tag (opened + 1) rest

/-- `soap_handler_extract_xml_value_alloc` -/
def soapHandlerExtractXmlValue (xml : List UInt8) (tag : String) : Option (List UInt8) :=
  soapExtractFrom (asciiBytes tag) 0 xml

/-! ## Decoding what is escaped -/

section Decode

variable {text rest : List UInt8} {byte : UInt8}

lemma xmlDecodeFrom_append (text rest : List UInt8) :
    xmlDecodeFrom text.length (text ++ rest) = xmlDecode rest := by
  induction text with
  | nil => rfl
  | cons byte text ih => exact ih

lemma xmlDecode_entity (entity : List UInt8 × UInt8)
    (h : xmlEntities.find? (fun known => known.1.isPrefixOf (entity.1 ++ rest)) = some entity)
    (hne : entity.1 ≠ []) : xmlDecode (entity.1 ++ rest) = entity.2 :: xmlDecode rest := by
  obtain ⟨byte, tail, heq⟩ := exists_cons_of_ne_nil hne
  have hlen : entity.1.length - 1 = tail.length := by rw [heq]; rfl
  rw [heq, cons_append] at h ⊢
  rw [xmlDecode, xmlDecodeFrom, h]
  simp only [hlen]
  rw [xmlDecodeFrom_append]

lemma xmlDecode_cons (h : byte ≠ 0x26) : xmlDecode (byte :: rest) = byte :: xmlDecode rest := by
  have hnone : xmlEntities.find? (fun entity => entity.1.isPrefixOf (byte :: rest)) = none := by
    refine find?_eq_none.mpr fun entity hentity hpfx => ?_
    obtain ⟨tail, heq⟩ : ∃ tail, entity.1 = 0x26 :: tail := by
      simp only [xmlEntities, mem_cons, not_mem_nil, or_false] at hentity
      rcases hentity with rfl | rfl | rfl | rfl | rfl <;> exact ⟨_, rfl⟩
    rw [heq, isPrefixOf_iff_prefix] at hpfx
    exact h (cons_prefix_cons.mp hpfx).1.symm
  rw [xmlDecode, xmlDecodeFrom, hnone]
  rfl

lemma xmlDecode_xmlReplacement (byte : UInt8) (rest : List UInt8) :
    xmlDecode (xmlReplacement byte ++ rest) = byte :: xmlDecode rest := by
  rw [xmlReplacement]
  split_ifs with hamp hlt hgt hquot hapos
  · exact hamp ▸ xmlDecode_entity (asciiBytes "&amp;", 0x26) rfl (by decide)
  · exact hlt ▸ xmlDecode_entity (asciiBytes "&lt;", 0x3c) rfl (by decide)
  · exact hgt ▸ xmlDecode_entity (asciiBytes "&gt;", 0x3e) rfl (by decide)
  · exact hquot ▸ xmlDecode_entity (asciiBytes "&quot;", 0x22) rfl (by decide)
  · exact hapos ▸ xmlDecode_entity (asciiBytes "&apos;", 0x27) rfl (by decide)
  · exact xmlDecode_cons hamp

/-- **Escaping is undone by decoding.** -/
lemma xmlDecode_xmlEscaped (text : List UInt8) : xmlDecode (xmlEscaped text) = text := by
  induction text with
  | nil => rfl
  | cons byte text ih =>
    rw [xmlEscaped, flatMap_cons, xmlDecode_xmlReplacement, ← xmlEscaped, ih]

end Decode

/-! ## Passing over text -/

/-- A name as the response writer has them. -/
structure XmlName (name : List UInt8) : Prop where
  nameByte : ∀ byte ∈ name, xmlNameByte byte = true
  head : name.head?.elim true (asciiBytes "/?!").contains = false
  noOpening : 0x3c ∉ name

instance (name : List UInt8) : Decidable (XmlName name) :=
  decidable_of_iff (name.all xmlNameByte = true ∧
      name.head?.elim true (asciiBytes "/?!").contains = false ∧ 0x3c ∉ name)
    ⟨fun ⟨hbyte, hhead, hopen⟩ => ⟨all_eq_true.mp hbyte, hhead, hopen⟩,
      fun ⟨hbyte, hhead, hopen⟩ => ⟨all_eq_true.mpr hbyte, hhead, hopen⟩⟩

/-- The scanner finds nothing in a text. -/
def Passes (tag text : List UInt8) : Prop :=
  ∀ rest, soapExtractFrom tag 0 (text ++ rest) = soapExtractFrom tag 0 rest

section Passes

variable {tag text text' name content rest : List UInt8} {byte : UInt8}

lemma Passes.nil : Passes tag [] := fun _ => rfl

lemma Passes.append (h : Passes tag text) (h' : Passes tag text') : Passes tag (text ++ text') := by
  intro rest
  rw [append_assoc, h, h']

lemma soapExtractFrom_append (tag text rest : List UInt8) :
    soapExtractFrom tag text.length (text ++ rest) = soapExtractFrom tag 0 rest := by
  induction text with
  | nil => rfl
  | cons byte text ih => exact ih

lemma soapExtractFrom_cons (h : byte ≠ 0x3c) :
    soapExtractFrom tag 0 (byte :: rest) = soapExtractFrom tag 0 rest := by
  exact if_pos (.inl h)

lemma Passes.of_not_mem (h : 0x3c ∉ text) : Passes tag text := by
  induction text with
  | nil => exact .nil
  | cons byte text ih =>
    intro rest
    obtain ⟨hbyte, htext⟩ := not_or.mp fun hor => h (mem_cons.mpr hor)
    rw [cons_append, soapExtractFrom_cons (Ne.symm hbyte), ih htext]

lemma Passes.closing (hbyte : (asciiBytes "/?!").contains byte) (h : 0x3c ∉ text) :
    Passes tag (0x3c :: byte :: text) := by
  intro rest
  have hstep : soapExtractFrom tag 0 (0x3c :: byte :: (text ++ rest)) =
      soapExtractFrom tag 0 (byte :: (text ++ rest)) := by
    exact if_pos (.inr (.inl hbyte))
  have hne : byte ≠ 0x3c := by
    rintro rfl
    exact absurd hbyte (by decide)
  rw [cons_append, cons_append, hstep, soapExtractFrom_cons hne, Passes.of_not_mem h]

lemma XmlName.not_isspace (h : XmlName name) (hbyte : byte ∈ name) : isspace byte = false := by
  have hname := h.nameByte byte hbyte
  rw [xmlNameByte] at hname
  cases hspace : isspace byte with
  | false => rfl
  | true =>
    rw [hspace] at hname
    exact absurd hname Bool.false_ne_true

lemma XmlName.closeNameByte (h : XmlName name) (hbyte : byte ∈ name) : xmlCloseNameByte byte := by
  have hname := h.nameByte byte hbyte
  rw [xmlNameByte, Bool.and_eq_true] at hname
  exact hname.1

lemma XmlName.exists_cons (h : XmlName name) :
    ∃ byte rest, name = byte :: rest ∧ (asciiBytes "/?!").contains byte = false := by
  have hhead := h.head
  cases name with
  | nil => cases hhead
  | cons byte rest => exact ⟨byte, rest, rfl, hhead⟩

lemma XmlName.ne_nil (h : XmlName name) : name ≠ [] := by
  obtain ⟨byte, rest, rfl, -⟩ := h.exists_cons
  exact cons_ne_nil _ _

lemma takeWhile_append_cons {p : UInt8 → Bool} (h : ∀ byte ∈ text, p byte)
    (hend : p byte = false) : (text ++ byte :: rest).takeWhile p = text := by
  rw [takeWhile_append_of_pos h, takeWhile_cons, hend]
  exact append_nil _

lemma XmlName.opened (h : XmlName name) (hend : xmlNameByte byte = false) (rest : List UInt8) :
    ((name ++ byte :: rest).takeWhile isspace).length = 0 ∧
      (name ++ byte :: rest).takeWhile xmlNameByte = name ∧
      (name ++ byte :: rest).head?.elim false (asciiBytes "/?!").contains = false := by
  have hblank := fun byte (hbyte : byte ∈ name) => h.not_isspace hbyte
  have htake : (name ++ byte :: rest).takeWhile xmlNameByte = name :=
    takeWhile_append_cons h.nameByte hend
  obtain ⟨first, tail, rfl, hfirst⟩ := h.exists_cons
  refine ⟨?_, htake, hfirst⟩
  rw [cons_append, takeWhile_cons, hblank first mem_cons_self]
  rfl

lemma Passes.opening (hname : XmlName name) (hother : sameTag tag name = false)
    (hend : xmlNameByte byte = false) (h : 0x3c ∉ byte :: text) :
    Passes tag (0x3c :: name ++ byte :: text) := by
  intro rest
  obtain ⟨hblanks, htake, hhead⟩ := hname.opened hend (text ++ rest)
  have hstep : soapExtractFrom tag 0 (0x3c :: (name ++ byte :: (text ++ rest))) =
      soapExtractFrom tag name.length (name ++ byte :: (text ++ rest)) := by
    rw [soapExtractFrom]
    simp only [hblanks, drop_zero, Nat.zero_add, htake]
    rw [if_neg, if_pos]
    · rw [hother]
      rfl
    rintro (hne | htrue | hnil)
    · exact hne rfl
    · exact nomatch hhead.symm.trans htrue
    · exact hname.ne_nil hnil
  have hassoc : 0x3c :: name ++ byte :: text ++ rest =
      0x3c :: (name ++ byte :: (text ++ rest)) := by
    simp only [cons_append, append_assoc]
  rw [hassoc, hstep, soapExtractFrom_append]
  exact Passes.of_not_mem h rest

/-- An element as the response writer writes it. -/
def xmlElement (name content : List UInt8) : List UInt8 :=
  asciiBytes "<" ++ name ++ asciiBytes ">" ++ content ++ (asciiBytes "</" ++ name ++ asciiBytes ">")

lemma xmlElement_eq (name content : List UInt8) :
    xmlElement name content =
      (0x3c :: name ++ 0x3e :: content) ++ (0x3c :: 0x2f :: (name ++ [0x3e])) := by
  have hopen : asciiBytes "<" = [0x3c] := by decide
  have hslash : asciiBytes "</" = [0x3c, 0x2f] := by decide
  have hclose : asciiBytes ">" = [0x3e] := by decide
  simp only [xmlElement, hopen, hslash, hclose, append_assoc, cons_append, nil_append]

lemma Passes.element (hname : XmlName name) (hother : sameTag tag name = false)
    (h : 0x3c ∉ content) : Passes tag (xmlElement name content) := by
  rw [xmlElement_eq]
  refine (Passes.opening hname hother (by decide) ?_).append (Passes.closing (by decide) ?_)
  · exact fun hmem => (mem_cons.mp hmem).elim (by decide) h
  · exact fun hmem => (mem_append.mp hmem).elim hname.noOpening (by decide)

lemma xmlValue_append (hname : XmlName name) (hsame : sameTag tag name)
    (h : 0x3c ∉ content) (rest : List UInt8) :
    xmlValue tag (content ++ 0x3c :: 0x2f :: (name ++ 0x3e :: rest)) = some content := by
  have hclose : xmlCloseName (name ++ 0x3e :: rest) = name := by
    have hblank : (name ++ 0x3e :: rest).dropWhile isspace = name ++ 0x3e :: rest := by
      obtain ⟨first, tail, heq, -⟩ := hname.exists_cons
      have hfirst := hname.not_isspace (heq ▸ mem_cons_self)
      rw [heq, cons_append, dropWhile_cons, hfirst]
      rfl
    rw [xmlCloseName, hblank]
    exact takeWhile_append_cons (fun byte => hname.closeNameByte) (by decide)
  induction content with
  | nil =>
    rw [nil_append, xmlValue, if_pos]
    exact ⟨rfl, rfl, by rw [tail_cons, hclose]; exact hname.ne_nil,
      by rw [tail_cons, hclose]; exact hsame⟩
  | cons byte content ih =>
    obtain ⟨hbyte, hcontent⟩ := not_or.mp fun hor => h (mem_cons.mpr hor)
    rw [cons_append, xmlValue, if_neg fun hboth => hbyte hboth.1.symm, ih hcontent]
    rfl

/-- The opening tag that is looked for, with what its value is found to be. -/
lemma soapExtractFrom_opened (hname : XmlName name) (hsame : sameTag tag name)
    {value : List UInt8} (hvalue : xmlValue tag rest = some value) :
    soapExtractFrom tag 0 (0x3c :: (name ++ 0x3e :: rest)) =
      some (trimWhitespace (xmlDecode value)) := by
  obtain ⟨hblanks, htake, hhead⟩ :=
    hname.opened (show xmlNameByte 0x3e = false by decide) rest
  have hattributes : (0x3e :: rest).takeWhile (fun byte => decide (byte ≠ 0x3e)) = [] := rfl
  rw [soapExtractFrom]
  simp only [hblanks, drop_zero, Nat.zero_add, htake, drop_left, hattributes,
    length_nil, Nat.add_zero]
  rw [if_neg, if_neg, hvalue]
  · rfl
  · rw [hsame]
    exact Bool.false_ne_true
  rintro (hne | htrue | hnil)
  · exact hne rfl
  · exact nomatch hhead.symm.trans htrue
  · exact hname.ne_nil hnil

/-- **An element that is looked for.** -/
lemma soapExtractFrom_element (hname : XmlName name) (hsame : sameTag tag name)
    (h : 0x3c ∉ content) (rest : List UInt8) :
    soapExtractFrom tag 0 (xmlElement name content ++ rest) =
      some (trimWhitespace (xmlDecode content)) := by
  have hassoc : xmlElement name content ++ rest =
      0x3c :: (name ++ 0x3e :: (content ++ 0x3c :: 0x2f :: (name ++ 0x3e :: rest))) := by
    rw [xmlElement_eq]
    simp only [cons_append, append_assoc, nil_append]
  rw [hassoc]
  exact soapExtractFrom_opened hname hsame (xmlValue_append hname hsame h rest)

/-- Elements one after the other. -/
def xmlElements (items : List (List UInt8 × List UInt8)) : List UInt8 :=
  items.flatMap fun item => xmlElement item.1 item.2

lemma soapExtractFrom_elements {items : List (List UInt8 × List UInt8)}
    (hitems : ∀ item ∈ items, XmlName item.1 ∧ 0x3c ∉ item.2)
    (hfind : items.find? (fun item => sameTag tag item.1) = some (name, content))
    (rest : List UInt8) :
    soapExtractFrom tag 0 (xmlElements items ++ rest) =
      some (trimWhitespace (xmlDecode content)) := by
  induction items with
  | nil => cases hfind
  | cons item items ih =>
    obtain ⟨hname, hcontent⟩ := hitems item mem_cons_self
    rw [xmlElements, flatMap_cons, append_assoc]
    cases hsame : sameTag tag item.1 with
    | true =>
      simp only [find?_cons, hsame] at hfind
      cases hfind
      exact soapExtractFrom_element hname hsame hcontent _
    | false =>
      simp only [find?_cons, hsame] at hfind
      rw [Passes.element hname hsame hcontent]
      exact ih (fun item hitem => hitems item (.tail _ hitem)) hfind

end Passes

/-! ## Trimming -/

lemma trimWhitespace_trimWhitespace (value : List UInt8) :
    trimWhitespace (trimWhitespace value) = trimWhitespace value := by
  have htrim (text : List UInt8) :
      trimWhitespace text = (text.rdropWhile isspace).dropWhile isspace := rfl
  have hlast : (trimWhitespace value).rdropWhile isspace = trimWhitespace value := by
    refine rdropWhile_eq_self_iff.mpr fun hne => ?_
    have hsuffix : trimWhitespace value <:+ value.rdropWhile isspace := dropWhile_suffix _
    have hne' : value.rdropWhile isspace ≠ [] := fun hnil =>
      hne (suffix_nil.mp (hnil ▸ hsuffix))
    rw [hsuffix.getLast hne]
    exact rdropWhile_last_not _ _ hne'
  rw [htrim (trimWhitespace value), hlast, htrim value]
  exact dropWhile_idempotent _ _

lemma trimWhitespace_of_extracted {tag xml value : List UInt8} {skip : ℕ}
    (h : soapExtractFrom tag skip xml = some value) : trimWhitespace value = value := by
  induction xml generalizing skip with
  | nil => cases skip <;> cases h
  | cons byte rest ih =>
    cases skip with
    | succ skip => exact ih h
    | zero =>
      rw [soapExtractFrom] at h
      split at h
      · exact ih h
      split at h
      · exact ih h
      split at h
      · cases h
      split at h
      · exact ih h
      split at h
      · cases h
        exact trimWhitespace_trimWhitespace _
      · exact ih h

end NXCast

import NXCast.Plist.Encode

/-!
# What the property-list encoder writes

The encoder is described here without its buffer and without its error paths.
`plistObjectBytes` are the bytes of one object, `plistFile` the file made of a list of
objects, and `layout base v` the list of objects a tree is flattened to when its root gets
the object number `base`.

Two theorems tie this to the code.  `plistEncodeCollectValue_eq` says that the first pass
succeeds on a well-formed tree exactly within the depth and node limits, and then yields the
layout; `airplayPlistEncode_of_collect` says that the second pass yields the file when it fits
the byte limit, and reports the limit otherwise.
-/

namespace NXCast

open AirPlayPlistValue List Unicode

/-! ## Bytes of one object -/

/-- The marker of a sized object, followed by its length where the marker cannot hold it. -/
def plistMarkerBytes (marker length : ℕ) : List UInt8 :=
  if length < 15 then [UInt8.ofNat (marker ||| length)]
  else
    [UInt8.ofNat (marker ||| 0x0f),
      UInt8.ofNat (0x10 ||| plistWidthExponent (plistUintWidth length))] ++
      plistUintBytes length (plistUintWidth length)

/-- The UTF-16 form of a UTF-8 text, two bytes a unit. -/
def plistUtf16Bytes (text : List UInt8) : List UInt8 :=
  match text with
  | [] => []
  | first :: tail =>
    match _h : plistUtf8Next (first :: tail) with
    | none => []
    | some (codepoint, rest) =>
      (if codepoint < 0x10000 then plistUintBytes codepoint 2
      else
        plistUintBytes (0xd800 ||| ((codepoint - 0x10000) >>> 10)) 2 ++
          plistUintBytes (0xdc00 ||| ((codepoint - 0x10000) &&& 0x3ff)) 2) ++
        plistUtf16Bytes rest
termination_by text.length
decreasing_by exact plistUtf8Next_length _h

/-- A string object: ASCII where it can be, UTF-16 otherwise. -/
def plistTextBytes (text : CString) : List UInt8 :=
  match plistUtf8Measure text with
  | none => []
  | some (units, ascii) =>
    if ascii then plistMarkerBytes 0x50 text.strlen ++ text.bytes
    else plistMarkerBytes 0x60 units ++ plistUtf16Bytes text.bytes

/-- The references of a container. -/
def plistReferenceBytes (referenceSize : ℕ) (references : List ℕ) : List UInt8 :=
  references.flatMap fun reference => plistUintBytes reference referenceSize

/-- The bytes of one object. -/
def plistObjectBytes (referenceSize : ℕ) : PlistEncodeObject → List UInt8
  | .key key => plistTextBytes key
  | .value (.bool value) _ => [if value then 0x09 else 0x08]
  | .value (.uint value) _ =>
    UInt8.ofNat (0x10 ||| plistWidthExponent (plistUintWidth value.toNat)) ::
      plistUintBytes value.toNat (plistUintWidth value.toNat)
  | .value (.real bits) _ => 0x23 :: plistUintBytes bits.toNat 8
  | .value (.string text) _ => plistTextBytes text
  | .value (.data bytes) _ => plistMarkerBytes 0x40 bytes.length ++ bytes
  | .value (.array items) references =>
    plistMarkerBytes 0xa0 items.length ++ plistReferenceBytes referenceSize references
  | .value (.dict entries) references =>
    plistMarkerBytes 0xd0 entries.length ++ plistReferenceBytes referenceSize references

/-- The offsets of objects written from `start` on. -/
def plistOffsets (referenceSize : ℕ) : ℕ → List PlistEncodeObject → List ℕ
  | _, [] => []
  | start, object :: objects =>
    start :: plistOffsets referenceSize
      (start + (plistObjectBytes referenceSize object).length) objects

/-- The header and the objects. -/
def plistBody (referenceSize : ℕ) (objects : List PlistEncodeObject) : List UInt8 :=
  plistHeader ++ objects.flatMap (plistObjectBytes referenceSize)

/-- The file of a list of objects. -/
def plistFile (rootObject : ℕ) (objects : List PlistEncodeObject) : List UInt8 :=
  let referenceSize := plistUintWidth (objects.length - 1)
  let body := plistBody referenceSize objects
  body ++
    plistReferenceBytes (plistUintWidth body.length) (plistOffsets referenceSize 8 objects) ++
    plistTrailer (plistUintWidth body.length) referenceSize objects.length rootObject body.length

/-! ## Integer widths -/

lemma plistUintWidth_cases (value : ℕ) :
    plistUintWidth value = 1 ∨ plistUintWidth value = 2 ∨ plistUintWidth value = 4 ∨
      plistUintWidth value = 8 := by
  unfold plistUintWidth
  split_ifs <;> simp

lemma plistUintWidth_bounds (value : ℕ) : 0 < plistUintWidth value ∧ plistUintWidth value ≤ 8 := by
  have := plistUintWidth_cases value
  omega

lemma lt_plistUintWidth {value : ℕ} (h : value < 2 ^ 64) : value < 256 ^ plistUintWidth value := by
  unfold plistUintWidth
  split_ifs <;> omega

lemma shiftLeft_plistWidthExponent (value : ℕ) :
    1 <<< plistWidthExponent (plistUintWidth value) = plistUintWidth value := by
  rcases plistUintWidth_cases value with h | h | h | h <;> rw [h] <;> rfl

lemma plistWidthExponent_le (width : ℕ) : plistWidthExponent width ≤ 3 := by
  unfold plistWidthExponent
  split <;> decide

lemma plistUintBytes_eq_encode (value width : ℕ) :
    plistUintBytes value width = BigEndian.encode width value := by
  rw [plistUintBytes, BigEndian.encode_eq_map]

@[simp] lemma length_plistUintBytes (value width : ℕ) :
    (plistUintBytes value width).length = width := by
  simp [plistUintBytes]

lemma value_plistUintBytes {value width : ℕ} (h : value < 256 ^ width) :
    BigEndian.value (plistUintBytes value width) = value := by
  rw [plistUintBytes_eq_encode, BigEndian.value_encode h]

/-! ## The writers of the second pass -/

/-- A writer of the property-list buffer. -/
abbrev PlistWrites : (List UInt8 → Except AirPlayPlistError (List UInt8)) → List UInt8 → Prop :=
  BoundedWriter.Writes airplayPlistMaxBytes .limitExceeded

open BoundedWriter

lemma writes_plistBufferWrite (bytes : List UInt8) :
    PlistWrites (fun buffer => plistBufferWrite buffer bytes) bytes := by
  intro buffer hbuffer
  have hsum : buffer.length + bytes.length > sizeMax →
      ¬buffer.length + bytes.length ≤ airplayPlistMaxBytes := by
    simp only [sizeMax, airplayPlistMaxBytes]
    omega
  simp only [plistBufferWrite, plistSizeAdd]
  by_cases hwrap : bytes.length > sizeMax - buffer.length
  · rw [if_pos hwrap, if_neg (hsum (by omega))]
  rw [if_neg hwrap]
  by_cases hfit : buffer.length + bytes.length ≤ airplayPlistMaxBytes
  · simp [hfit]
  · simp [hfit, Nat.lt_of_not_le hfit]

lemma writes_plistBufferWriteUint (value : ℕ) {width : ℕ} (hpos : 0 < width) (hle : width ≤ 8) :
    PlistWrites (fun buffer => plistBufferWriteUint buffer value width)
      (plistUintBytes value width) :=
  (writes_plistBufferWrite _).of_eq fun _ => if_neg (by omega)

lemma writes_plistBufferWriteMarkerLength (marker length : ℕ) :
    PlistWrites (fun buffer => plistBufferWriteMarkerLength buffer marker length)
      (plistMarkerBytes marker length) := by
  by_cases h : length < 15
  · simp only [plistMarkerBytes, plistBufferWriteMarkerLength, if_pos h]
    exact writes_plistBufferWrite _
  simp only [plistMarkerBytes, plistBufferWriteMarkerLength, if_neg h]
  obtain ⟨hpos, hle⟩ := plistUintWidth_bounds length
  exact (writes_plistBufferWrite [_]).seq ((writes_plistBufferWrite [_]).seq
    (writes_plistBufferWriteUint _ hpos hle))

lemma plistUtf16Bytes_of_next {text rest : List UInt8} {codepoint : ℕ}
    (h : plistUtf8Next text = some (codepoint, rest)) :
    plistUtf16Bytes text =
      (if codepoint < 0x10000 then plistUintBytes codepoint 2
      else plistUintBytes (0xd800 ||| ((codepoint - 0x10000) >>> 10)) 2 ++
          plistUintBytes (0xdc00 ||| ((codepoint - 0x10000) &&& 0x3ff)) 2) ++
        plistUtf16Bytes rest := by
  cases text with
  | nil => simp [plistUtf8Next] at h
  | cons first tail =>
    rw [plistUtf16Bytes]
    split
    · rename_i hnone
      rw [h] at hnone
      cases hnone
    · rename_i hsome
      rw [h] at hsome
      obtain ⟨rfl, rfl⟩ := hsome
      rfl

lemma plistEncodeUtf16_of_next {text rest : List UInt8} {codepoint : ℕ}
    (h : plistUtf8Next text = some (codepoint, rest)) (buffer : List UInt8) :
    plistEncodeUtf16 buffer text =
      if codepoint < 0x10000 then
        plistBufferWriteUint buffer codepoint 2 >>= fun buffer => plistEncodeUtf16 buffer rest
      else
        plistBufferWriteUint buffer (0xd800 ||| ((codepoint - 0x10000) >>> 10)) 2 >>= fun buffer =>
          plistBufferWriteUint buffer (0xdc00 ||| ((codepoint - 0x10000) &&& 0x3ff)) 2 >>=
            fun buffer => plistEncodeUtf16 buffer rest := by
  cases text with
  | nil => simp [plistUtf8Next] at h
  | cons first tail =>
    rw [plistEncodeUtf16]
    split
    · rename_i hnone
      rw [h] at hnone
      cases hnone
    rename_i hsome
    rw [h] at hsome
    obtain ⟨rfl, rfl⟩ := hsome
    by_cases hplane : codepoint < 0x10000
    · simp only [if_pos hplane]
      cases plistBufferWriteUint buffer codepoint 2 <;> rfl
    simp only [if_neg hplane]
    cases plistBufferWriteUint buffer (0xd800 ||| ((codepoint - 0x10000) >>> 10)) 2 with
    | error error => rfl
    | ok buffer =>
      dsimp only [bind, Except.bind]
      cases plistBufferWriteUint buffer (0xdc00 ||| ((codepoint - 0x10000) &&& 0x3ff)) 2 <;> rfl

lemma writes_plistEncodeUtf16 (text : List Char) (hnul : ∀ c ∈ text, c.toNat ≠ 0) :
    PlistWrites (fun buffer => plistEncodeUtf16 buffer (utf8 text))
      (plistUtf16Bytes (utf8 text)) := by
  induction text with
  | nil =>
    simp only [utf8_nil, plistEncodeUtf16, plistUtf16Bytes]
    exact .nil
  | cons c text ih =>
    have hnext := plistUtf8Next_encode (hnul c (by simp)) (utf8 text)
    have htail := ih fun d hd => hnul d (by simp [hd])
    have htwo : ∀ unit, PlistWrites (fun buffer => plistBufferWriteUint buffer unit 2)
        (plistUintBytes unit 2) := fun unit =>
      writes_plistBufferWriteUint unit (by decide) (by decide)
    rw [utf8_cons]
    simp only [plistEncodeUtf16_of_next hnext, plistUtf16Bytes_of_next hnext]
    by_cases hplane : c.toNat < 0x10000
    · simp only [if_pos hplane]
      exact (htwo _).seq htail
    · simp only [if_neg hplane, append_assoc]
      exact (htwo _).seq ((htwo _).seq htail)

lemma writes_plistEncodeString {text : CString} (h : (plistUtf8Measure text).isSome) :
    PlistWrites (fun buffer => plistEncodeString buffer text) (plistTextBytes text) := by
  obtain ⟨⟨units, ascii⟩, hmeas⟩ := Option.isSome_iff_exists.mp h
  simp only [plistEncodeString, plistTextBytes, hmeas]
  cases ascii with
  | true => exact (writes_plistBufferWriteMarkerLength _ _).seq (writes_plistBufferWrite _)
  | false =>
    obtain ⟨chars, hbytes, -⟩ := (plistUtf8Measure_eq_some_iff text units false).mp hmeas
    have hnul : ∀ c ∈ chars, c.toNat ≠ 0 := fun c hc hz =>
      text.nul_free (by rw [hbytes]; exact zero_mem_utf8.mpr ⟨c, hc, hz⟩)
    have hutf16 := writes_plistEncodeUtf16 chars hnul
    rw [← hbytes] at hutf16
    exact (writes_plistBufferWriteMarkerLength _ _).seq hutf16

/-- An object whose text, if it has one, passes the measure. -/
def Writable : PlistEncodeObject → Prop
  | .key key => (plistUtf8Measure key).isSome
  | .value (.string text) _ => (plistUtf8Measure text).isSome
  | _ => True

variable {referenceSize : ℕ}

lemma writes_plistEncodeReferences (references : List ℕ) (hpos : 0 < referenceSize)
    (hle : referenceSize ≤ 8) :
    PlistWrites (fun buffer => plistEncodeReferences buffer references referenceSize)
      (plistReferenceBytes referenceSize references) :=
  Writes.foldlM references fun reference _ => writes_plistBufferWriteUint reference hpos hle

lemma writes_plistEncodeObject {object : PlistEncodeObject} (h : Writable object)
    (hpos : 0 < referenceSize) (hle : referenceSize ≤ 8) :
    PlistWrites (fun buffer => plistEncodeObject buffer object referenceSize)
      (plistObjectBytes referenceSize object) := by
  have hmarker := writes_plistBufferWriteMarkerLength
  have hrefs : ∀ references, PlistWrites
      (fun buffer => plistEncodeReferences buffer references referenceSize)
      (plistReferenceBytes referenceSize references) := fun references =>
    writes_plistEncodeReferences references hpos hle
  match object with
  | .key key => exact writes_plistEncodeString h
  | .value (.bool value) _ => exact writes_plistBufferWrite _
  | .value (.uint value) _ =>
    obtain ⟨hwidth, hwidth'⟩ := plistUintWidth_bounds value.toNat
    exact (writes_plistBufferWrite [_]).seq (writes_plistBufferWriteUint _ hwidth hwidth')
  | .value (.real bits) _ =>
    exact (writes_plistBufferWrite [_]).seq (writes_plistBufferWriteUint _ (by decide) (by decide))
  | .value (.string text) _ => exact writes_plistEncodeString h
  | .value (.data bytes) _ => exact (hmarker _ _).seq (writes_plistBufferWrite _)
  | .value (.array items) references => exact (hmarker _ _).seq (hrefs references)
  | .value (.dict entries) references => exact (hmarker _ _).seq (hrefs references)

variable {objects : List PlistEncodeObject}

/-- The object loop writes the objects one after the other and notes where each starts. -/
lemma plistEncodeObjects_eq
    (h : ∀ object ∈ objects, Writable object) (hpos : 0 < referenceSize) (hle : referenceSize ≤ 8)
    {buffer : List UInt8} (hbuffer : buffer.length ≤ airplayPlistMaxBytes) :
    plistEncodeObjects buffer referenceSize objects =
      if buffer.length + (objects.flatMap (plistObjectBytes referenceSize)).length ≤
          airplayPlistMaxBytes then
        .ok (plistOffsets referenceSize buffer.length objects,
          buffer ++ objects.flatMap (plistObjectBytes referenceSize))
      else .error .limitExceeded := by
  induction objects generalizing buffer with
  | nil => simp [plistEncodeObjects, plistOffsets, hbuffer]
  | cons object objects ih =>
    have hhead := writes_plistEncodeObject (h object (by simp)) hpos hle buffer hbuffer
    simp only at hhead
    rw [plistEncodeObjects, hhead, flatMap_cons, length_append]
    by_cases hfirst : buffer.length + (plistObjectBytes referenceSize object).length ≤
        airplayPlistMaxBytes
    · have htail := @ih (fun other hother => h other (by simp [hother]))
        (buffer ++ plistObjectBytes referenceSize object) (by rwa [length_append])
      simp only [if_pos hfirst, htail, length_append]
      by_cases hrest : buffer.length + (plistObjectBytes referenceSize object).length +
          (objects.flatMap (plistObjectBytes referenceSize)).length ≤ airplayPlistMaxBytes
      · rw [if_pos hrest, if_pos (by omega), plistOffsets, append_assoc]
      · rw [if_neg hrest, if_neg (by omega)]
    · rw [if_neg hfirst, if_neg (by omega)]

/-- **The second pass.**  Once the objects are collected, the encoder yields their file if it
fits the byte limit and reports the limit otherwise. -/
theorem airplayPlistEncode_of_collect {value : AirPlayPlistValue} {rootObject : ℕ}
    (hcollect : plistEncodeCollectValue [] value 0 = .ok (rootObject, objects))
    (h : ∀ object ∈ objects, Writable object) :
    airplayPlistEncode value =
      if (plistFile rootObject objects).length ≤ airplayPlistMaxBytes then
        .ok (plistFile rootObject objects)
      else .error .limitExceeded := by
  obtain ⟨hpos, hle⟩ := plistUintWidth_bounds (objects.length - 1)
  have hhead : plistBufferWrite [] plistHeader = .ok plistHeader := by decide
  have hobjects := plistEncodeObjects_eq h hpos hle (show plistHeader.length ≤ airplayPlistMaxBytes by decide)
  have hlen : plistHeader.length = 8 := rfl
  rw [hlen] at hobjects
  set referenceSize := plistUintWidth (objects.length - 1) with hreferenceSize
  have hbody : (plistBody referenceSize objects).length =
      8 + (objects.flatMap (plistObjectBytes referenceSize)).length := by
    rw [plistBody, length_append, hlen]
  set body := plistBody referenceSize objects with hbodyDef
  have hsplit : plistFile rootObject objects = body ++
      (plistReferenceBytes (plistUintWidth body.length) (plistOffsets referenceSize 8 objects) ++
        plistTrailer (plistUintWidth body.length) referenceSize objects.length rootObject
          body.length) := by
    rw [plistFile, append_assoc]
  have htail := (writes_plistEncodeReferences (plistOffsets referenceSize 8 objects)
    (plistUintWidth_bounds body.length).1 (plistUintWidth_bounds body.length).2).seq
      (writes_plistBufferWrite (plistTrailer (plistUintWidth body.length) referenceSize
        objects.length rootObject body.length))
  simp only [airplayPlistEncode, hcollect, bind, Except.bind, hhead, ← hreferenceSize, hobjects]
  by_cases hfit : 8 + (objects.flatMap (plistObjectBytes referenceSize)).length ≤
      airplayPlistMaxBytes
  · simp only [if_pos hfit]
    have hwrite := htail body (by omega)
    rw [← length_append, ← hsplit] at hwrite
    exact Eq.trans rfl hwrite
  · have hlong := congrArg length hsplit
    rw [length_append] at hlong
    rw [if_neg hfit, if_neg (by omega)]

/-! ## The first pass -/

/-- The object numbers of trees laid out one after the other from `base` on. -/
def objectNumbers : ℕ → List AirPlayPlistValue → List ℕ
  | _, [] => []
  | base, value :: values => base :: objectNumbers (base + value.nodeCount) values

@[simp] lemma length_objectNumbers (base : ℕ) (values : List AirPlayPlistValue) :
    (objectNumbers base values).length = values.length := by
  induction values generalizing base with
  | nil => rfl
  | cons value values ih => simp [objectNumbers, ih]

mutual

/-- The objects of a tree whose root has the object number `base`: the root, then the keys of
a dictionary, then the children in order. -/
def layout (base : ℕ) : AirPlayPlistValue → List PlistEncodeObject
  | .array items =>
    .value (.array items) (objectNumbers (base + 1) items) :: layoutItems (base + 1) items
  | .dict entries =>
    .value (.dict entries) (List.range' (base + 1) entries.length ++
        objectNumbers (base + 1 + entries.length) (entries.map Prod.snd)) ::
      (entries.map fun entry => .key entry.1) ++
      layoutEntries (base + 1 + entries.length) entries
  | value => [.value value []]

/-- The objects of the items of an array. -/
def layoutItems (base : ℕ) : List AirPlayPlistValue → List PlistEncodeObject
  | [] => []
  | item :: items => layout base item ++ layoutItems (base + item.nodeCount) items

/-- The objects of the values of a dictionary. -/
def layoutEntries (base : ℕ) : List (CString × AirPlayPlistValue) → List PlistEncodeObject
  | [] => []
  | (_, value) :: entries => layout base value ++ layoutEntries (base + value.nodeCount) entries

end

lemma layoutEntries_eq (base : ℕ) (entries : List (CString × AirPlayPlistValue)) :
    layoutEntries base entries = layoutItems base (entries.map Prod.snd) := by
  induction entries generalizing base with
  | nil => rfl
  | cons entry entries ih => rw [layoutEntries, List.map_cons, layoutItems, ih]

variable {items : List AirPlayPlistValue}

/-- Items laid out one after the other take up as many objects as they have nodes. -/
lemma length_layoutItems (h : ∀ item ∈ items, ∀ base, (layout base item).length = item.nodeCount)
    (base : ℕ) : (layoutItems base items).length = (items.map nodeCount).sum := by
  induction items generalizing base with
  | nil => simp [layoutItems]
  | cons item items ih =>
    rw [layoutItems, List.length_append, h item (by simp),
      ih (fun other hother => h other (by simp [hother])), List.map_cons, List.sum_cons]

lemma length_layout {v : AirPlayPlistValue} (h : v.WellFormed) (base : ℕ) :
    (layout base v).length = v.nodeCount := by
  induction h generalizing base with
  | @array items _ _ ih =>
    rw [layout, List.length_cons, length_layoutItems ih, nodeCount, Nat.add_comm]
  | @dict entries _ _ _ _ ih =>
    have hvalues : ∀ value ∈ entries.map Prod.snd, ∀ base,
        (layout base value).length = value.nodeCount := by
      intro value hvalue
      obtain ⟨entry, hentry, rfl⟩ := List.mem_map.mp hvalue
      exact ih entry hentry
    rw [layout, List.length_append, List.length_cons, List.length_map, layoutEntries_eq,
      length_layoutItems hvalues, List.map_map, nodeCount]
    simp only [Function.comp_def]
    omega
  | _ => simp [layout, nodeCount]

lemma writable_of_mem_layoutItems
    (h : ∀ item ∈ items, ∀ base, ∀ object ∈ layout base item, Writable object) (base : ℕ) :
    ∀ object ∈ layoutItems base items, Writable object := by
  induction items generalizing base with
  | nil => simp [layoutItems]
  | cons item items ih =>
    intro object hobj
    rcases List.mem_append.mp hobj with hobj | hobj
    · exact h item (by simp) _ object hobj
    · exact ih (fun other hother => h other (by simp [hother])) _ object hobj

lemma writable_of_mem_layout {v : AirPlayPlistValue} (h : v.WellFormed) (base : ℕ) :
    ∀ object ∈ layout base v, Writable object := by
  induction h generalizing base with
  | string htext => simpa [layout, Writable] using htext
  | @array items _ _ ih =>
    intro object hobj
    rcases List.mem_cons.mp hobj with rfl | hobj
    · trivial
    · exact writable_of_mem_layoutItems ih _ object hobj
  | @dict entries _ _ hkeys _ ih =>
    have hvalues : ∀ value ∈ entries.map Prod.snd, ∀ base,
        ∀ object ∈ layout base value, Writable object := by
      intro value hvalue
      obtain ⟨entry, hentry, rfl⟩ := List.mem_map.mp hvalue
      exact ih entry hentry
    rw [layout, layoutEntries_eq]
    intro object hobj
    rcases List.mem_append.mp hobj with hobj | hobj
    · rcases List.mem_cons.mp hobj with rfl | hobj
      · trivial
      · obtain ⟨entry, hentry, rfl⟩ := List.mem_map.mp hobj
        exact hkeys entry hentry
    · exact writable_of_mem_layoutItems hvalues _ object hobj
  | _ => simp [layout, Writable]

lemma plistEncodeCollectEntries_eq (objects : List PlistEncodeObject)
    (entries : List (CString × AirPlayPlistValue)) (depth : ℕ) :
    plistEncodeCollectEntries objects entries depth =
      plistEncodeCollectItems objects (entries.map Prod.snd) depth := by
  induction entries generalizing objects with
  | nil => rfl
  | cons entry entries ih =>
    rw [plistEncodeCollectEntries, List.map_cons, plistEncodeCollectItems]
    simp only [ih]

/-- What the first pass makes of one tree: its layout within the limits, an error beyond. -/
def CollectsTo (value : AirPlayPlistValue) : Prop :=
  ∀ (objects : List PlistEncodeObject) (depth : ℕ), objects.length ≤ airplayPlistMaxNodes →
    plistEncodeCollectValue objects value depth =
      if depth + value.height ≤ airplayPlistMaxDepth ∧
          objects.length + value.nodeCount ≤ airplayPlistMaxNodes then
        .ok (objects.length, objects ++ layout objects.length value)
      else .error .limitExceeded

lemma plistEncodeCollectItems_eq (hwell : ∀ item ∈ items, item.WellFormed)
    (h : ∀ item ∈ items, CollectsTo item) {objects : List PlistEncodeObject} {depth : ℕ}
    (hobjects : objects.length ≤ airplayPlistMaxNodes) :
    plistEncodeCollectItems objects items depth =
      if (∀ item ∈ items, depth + item.height ≤ airplayPlistMaxDepth) ∧
          objects.length + (items.map nodeCount).sum ≤ airplayPlistMaxNodes then
        .ok (objectNumbers objects.length items, objects ++ layoutItems objects.length items)
      else .error .limitExceeded := by
  induction items generalizing objects with
  | nil => simp [plistEncodeCollectItems, objectNumbers, layoutItems, hobjects]
  | cons item items ih =>
    have hhead := h item (by simp) objects depth hobjects
    rw [plistEncodeCollectItems, hhead]
    by_cases hfits : depth + item.height ≤ airplayPlistMaxDepth ∧
        objects.length + item.nodeCount ≤ airplayPlistMaxNodes
    · have hlen : (objects ++ layout objects.length item).length =
          objects.length + item.nodeCount := by
        rw [List.length_append, length_layout (hwell item (by simp))]
      have htail := ih (fun other hother => hwell other (by simp [hother]))
        (fun other hother => h other (by simp [hother])) (hlen ▸ hfits.2)
      simp only [if_pos hfits, htail, hlen]
      by_cases hrest : (∀ item ∈ items, depth + item.height ≤ airplayPlistMaxDepth) ∧
          objects.length + item.nodeCount + (items.map nodeCount).sum ≤ airplayPlistMaxNodes
      · rw [if_pos hrest, if_pos]
        · rw [objectNumbers, layoutItems, List.append_assoc]
        refine ⟨List.forall_mem_cons.mpr ⟨hfits.1, hrest.1⟩, ?_⟩
        rw [List.map_cons, List.sum_cons, ← Nat.add_assoc]
        exact hrest.2
      · rw [if_neg hrest, if_neg]
        rintro ⟨hdepth, hnodes⟩
        rw [List.map_cons, List.sum_cons, ← Nat.add_assoc] at hnodes
        exact hrest ⟨(List.forall_mem_cons.mp hdepth).2, hnodes⟩
    · rw [if_neg hfits, if_neg]
      rintro ⟨hdepth, hnodes⟩
      rw [List.map_cons, List.sum_cons] at hnodes
      exact hfits ⟨(List.forall_mem_cons.mp hdepth).1, by omega⟩

lemma plistEncodeAddKeys_eq {keys : List CString} (h : ∀ key ∈ keys, (plistUtf8Measure key).isSome)
    {objects : List PlistEncodeObject} (hobjects : objects.length ≤ airplayPlistMaxNodes) :
    plistEncodeAddKeys objects keys =
      if objects.length + keys.length ≤ airplayPlistMaxNodes then
        .ok (List.range' objects.length keys.length, objects ++ keys.map .key)
      else .error .limitExceeded := by
  induction keys generalizing objects with
  | nil => simp [plistEncodeAddKeys, hobjects]
  | cons key keys ih =>
    obtain ⟨measured, hmeas⟩ := Option.isSome_iff_exists.mp (h key (by simp))
    rw [plistEncodeAddKeys, plistEncodeAddKey, hmeas]
    simp only [List.length_cons]
    by_cases hroom : objects.length ≥ airplayPlistMaxNodes
    · rw [if_pos hroom, if_neg (by omega)]
    have htail := @ih (fun other hother => h other (by simp [hother]))
      (objects ++ [.key key]) (by rw [List.length_append, List.length_singleton]; omega)
    rw [List.length_append, List.length_singleton] at htail
    simp only [if_neg hroom, htail]
    by_cases hrest : objects.length + 1 + keys.length ≤ airplayPlistMaxNodes
    · rw [if_pos hrest, if_pos (by omega), List.range'_succ, List.map_cons, List.append_assoc]
      rfl
    · rw [if_neg hrest, if_neg (by omega)]

lemma set_placeholder (objects collected : List PlistEncodeObject)
    (placeholder object : PlistEncodeObject) :
    (objects ++ [placeholder] ++ collected).set objects.length object =
      objects ++ object :: collected := by
  rw [List.append_assoc, List.set_append_right (h := le_rfl), Nat.sub_self]
  rfl

lemma layout_array_nil (base : ℕ) : layout base (.array []) = [.value (.array []) []] := by
  rw [layout, objectNumbers, layoutItems]

lemma layout_dict_nil (base : ℕ) : layout base (.dict []) = [.value (.dict []) []] := by
  simp [layout, objectNumbers, layoutEntries]

/-- The guard at the head of the first pass, for a tree whose rest is collected as `next`. -/
lemma collect_guard {depth length height nodes : ℕ}
    {next fits : Except AirPlayPlistError (ℕ × List PlistEncodeObject)} (hnodes : 0 < nodes)
    (h : depth ≤ airplayPlistMaxDepth → length < airplayPlistMaxNodes →
      next = if depth + height ≤ airplayPlistMaxDepth ∧ length + nodes ≤ airplayPlistMaxNodes
        then fits else .error .limitExceeded) :
    (if depth > airplayPlistMaxDepth ∨ length ≥ airplayPlistMaxNodes then .error .limitExceeded
      else next) =
      if depth + height ≤ airplayPlistMaxDepth ∧ length + nodes ≤ airplayPlistMaxNodes
        then fits else .error .limitExceeded := by
  by_cases hguard : depth > airplayPlistMaxDepth ∨ length ≥ airplayPlistMaxNodes
  · rw [if_pos hguard, if_neg (by omega)]
  · rw [if_neg hguard, h (by omega) (by omega)]

variable {value : AirPlayPlistValue}

lemma collectsTo_leaf (hheight : value.height = 0) (hnodes : value.nodeCount = 1)
    (hlayout : ∀ base, layout base value = [.value value []])
    (hcollect : ∀ objects depth, plistEncodeCollectValue objects value depth =
      if depth > airplayPlistMaxDepth ∨ objects.length ≥ airplayPlistMaxNodes then .error
      .limitExceeded else .ok (objects.length, objects ++ [.value value []])) :
    CollectsTo value := by
  intro objects depth _
  rw [hcollect, hheight, hnodes, hlayout]
  exact collect_guard Nat.one_pos fun hdepth hroom => by rw [if_pos ⟨hdepth, hroom⟩]

lemma depth_array_iff {depth : ℕ} (hdepth : depth ≤ airplayPlistMaxDepth) :
    (∀ item ∈ items, depth + 1 + item.height ≤ airplayPlistMaxDepth) ↔
      depth + (array items).height ≤ airplayPlistMaxDepth := by
  have hiff := @height_array_le_iff items (airplayPlistMaxDepth - depth)
  constructor
  · intro h
    have := hiff.mpr fun item hitem => by have := h item hitem; omega
    omega
  · intro h item hitem
    have := hiff.mp (by omega) item hitem
    omega

variable {entries : List (CString × AirPlayPlistValue)}

lemma depth_dict_iff {depth : ℕ}
    (hdepth : depth ≤ airplayPlistMaxDepth) :
    (∀ value ∈ entries.map Prod.snd, depth + 1 + value.height ≤ airplayPlistMaxDepth) ↔
      depth + (dict entries).height ≤ airplayPlistMaxDepth := by
  have hiff := @height_dict_le_iff entries (airplayPlistMaxDepth - depth)
  rw [List.forall_mem_map]
  constructor
  · intro h
    have := hiff.mpr fun entry hentry => by have := h entry hentry; omega
    omega
  · intro h entry hentry
    have := hiff.mp (by omega) entry hentry
    omega

lemma collectsTo_array (hlen : items.length ≤ airplayPlistMaxContainerItems)
    (hitems : ∀ item ∈ items, item.WellFormed) (ih : ∀ item ∈ items, CollectsTo item) :
    CollectsTo (.array items) := by
  intro objects depth hobjects
  rw [plistEncodeCollectValue]
  refine collect_guard (nodeCount_pos _) fun hdepth hroom => ?_
  by_cases hempty : items.length = 0
  · rw [List.length_eq_zero_iff] at hempty
    subst hempty
    simp only [height, nodeCount, layout_array_nil, List.length_nil, if_pos, List.map_nil,
      List.foldr_nil, List.sum_nil, Nat.add_zero]
    rw [if_pos ⟨hdepth, hroom⟩]
  have hlength : (objects ++ [PlistEncodeObject.value (.array items) []]).length = objects.length + 1 := by
    rw [List.length_append, List.length_singleton]
  have hcollect := @plistEncodeCollectItems_eq items hitems ih
    (objects ++ [.value (.array items) []]) (depth + 1) (by omega)
  simp only [hlength, depth_array_iff hdepth] at hcollect
  have hnodes : objects.length + (array items).nodeCount =
      objects.length + 1 + (items.map nodeCount).sum := by
    rw [nodeCount, Nat.add_assoc]
  rw [if_neg hempty, if_neg (by omega), hcollect, hnodes]
  by_cases hfits : depth + (array items).height ≤ airplayPlistMaxDepth ∧
      objects.length + 1 + (items.map nodeCount).sum ≤ airplayPlistMaxNodes
  · simp only [if_pos hfits, set_placeholder, layout]
  · simp only [if_neg hfits]

lemma collectsTo_dict
    (hlen : entries.length ≤ airplayPlistMaxContainerItems)
    (hkeys : ∀ entry ∈ entries, (plistUtf8Measure entry.1).isSome)
    (hvalues : ∀ entry ∈ entries, entry.2.WellFormed)
    (ih : ∀ entry ∈ entries, CollectsTo entry.2) : CollectsTo (.dict entries) := by
  intro objects depth hobjects
  have hdouble : plistSizeMultiply entries.length 2 = some (entries.length * 2) := by
    refine plistSizeMultiply_eq_some ?_
    simp only [airplayPlistMaxContainerItems] at hlen
    simp only [sizeMax]
    omega
  refine collect_guard (nodeCount_pos _) fun hdepth hroom => ?_
  simp only [hdouble]
  by_cases hempty : entries.length * 2 = 0
  · have hnil : entries = [] := List.length_eq_zero_iff.mp (by omega)
    subst hnil
    simp only [height, nodeCount, layout_dict_nil, List.length_nil, Nat.zero_mul, if_pos,
      List.map_nil, List.foldr_nil, List.sum_nil, Nat.add_zero]
    rw [if_pos ⟨hdepth, hroom⟩]
  have hlength : (objects ++ [PlistEncodeObject.value (.dict entries) []]).length = objects.length + 1 := by
    rw [List.length_append, List.length_singleton]
  have hkeyed := @plistEncodeAddKeys_eq (entries.map Prod.fst)
    (by rw [List.forall_mem_map]; exact hkeys) (objects ++ [.value (.dict entries) []])
    (by omega)
  rw [hlength, List.length_map] at hkeyed
  have hnodes : objects.length + (dict entries).nodeCount =
      objects.length + 1 + entries.length + ((entries.map Prod.snd).map nodeCount).sum := by
    rw [nodeCount, List.map_map]
    simp only [Function.comp_def]
    omega
  rw [if_neg hempty, if_neg (by omega), hkeyed, hnodes]
  by_cases hroomy : objects.length + 1 + entries.length ≤ airplayPlistMaxNodes
  · simp only [if_pos hroomy, plistEncodeCollectEntries_eq]
    have hcount : (objects ++ [PlistEncodeObject.value (.dict entries) []] ++
        (entries.map Prod.fst).map PlistEncodeObject.key).length =
          objects.length + 1 + entries.length := by
      rw [List.length_append, hlength, List.length_map, List.length_map]
    have hcollect := @plistEncodeCollectItems_eq (entries.map Prod.snd)
      (by rw [List.forall_mem_map]; exact hvalues) (by rw [List.forall_mem_map]; exact ih)
      (objects ++ [.value (.dict entries) []] ++
        (entries.map Prod.fst).map PlistEncodeObject.key) (depth + 1)
      (by omega)
    simp only [hcount, depth_dict_iff hdepth] at hcollect
    rw [hcollect]
    by_cases hfits : depth + (dict entries).height ≤ airplayPlistMaxDepth ∧
        objects.length + 1 + entries.length + ((entries.map Prod.snd).map nodeCount).sum ≤
          airplayPlistMaxNodes
    · rw [if_pos hfits, if_pos hfits]
      simp only [List.append_assoc (objects ++ _), set_placeholder, layout, layoutEntries_eq,
        List.map_map, List.cons_append]
      rfl
    · simp only [if_neg hfits]
  · rw [if_neg hroomy, if_neg (by omega)]

/-- **The first pass.**  A well-formed tree is flattened to its layout exactly when it respects
the depth and the node limit. -/
theorem plistEncodeCollectValue_eq (h : value.WellFormed) : CollectsTo value := by
  induction h with
  | array hlen hitems ih => exact collectsTo_array hlen hitems ih
  | dict hlen _ hkeys hvalues ih => exact collectsTo_dict hlen hkeys hvalues ih
  | bool | uint | real | string | data =>
    refine collectsTo_leaf (by simp [height]) (by simp [nodeCount]) (fun _ => by simp [layout])
      fun objects depth => ?_
    rw [plistEncodeCollectValue] <;> simp

/-- **The encoder as a whole.**  On a well-formed tree it yields the file of the tree's layout,
unless the depth, the node or the byte limit is passed, which it reports. -/
theorem airplayPlistEncode_eq (h : value.WellFormed) :
    airplayPlistEncode value =
      if value.height ≤ airplayPlistMaxDepth ∧ value.nodeCount ≤ airplayPlistMaxNodes ∧
          (plistFile 0 (layout 0 value)).length ≤ airplayPlistMaxBytes then
        .ok (plistFile 0 (layout 0 value))
      else .error .limitExceeded := by
  have hcollect := plistEncodeCollectValue_eq h [] 0 (Nat.zero_le _)
  rw [Nat.zero_add, List.length_nil, Nat.zero_add, List.nil_append] at hcollect
  by_cases hfits : value.height ≤ airplayPlistMaxDepth ∧ value.nodeCount ≤ airplayPlistMaxNodes
  · rw [if_pos hfits] at hcollect
    rw [airplayPlistEncode_of_collect hcollect (writable_of_mem_layout h 0)]
    simp only [hfits.1, hfits.2, true_and]
  · rw [if_neg hfits] at hcollect
    rw [if_neg fun hall => hfits ⟨hall.1, hall.2.1⟩]
    simp only [airplayPlistEncode, hcollect, bind, Except.bind]

end NXCast

import NXCast.Plist.ObjectRoundTrip
import NXCast.Plist.Safety

/-!
# The round trip

The file of a list of objects is opened again by the decoder: its trailer passes every check
(`plistDecodeTrailer_file`) and its offset table describes the objects
(`describes_plistFile`).  With the inversion of the layout this gives the two results about
whole documents: what is encoded decodes to itself, and what is decoded can be encoded again
unless the canonical file would be too long.
-/

namespace NXCast

open Program AirPlayPlistValue List Option

/-! ## Offsets -/

variable {bytes : List UInt8}

lemma At.entry {offset width : ℕ} {values : List ℕ}
    (h : At bytes offset (plistReferenceBytes width values)) {index value : ℕ}
    (hvalue : values[index]? = some value) :
    At bytes (offset + index * width) (plistUintBytes value width) := by
  induction values generalizing offset index with
  | nil => simp at hvalue
  | cons first values ih =>
    cases index with
    | zero =>
      simp only [getElem?_cons_zero, some.injEq] at hvalue
      subst hvalue
      rw [Nat.zero_mul]
      exact h.left
    | succ index =>
      have htail := h.right
      rw [length_plistUintBytes] at htail
      have hnext := ih htail hvalue
      rwa [Nat.add_mul, Nat.one_mul, Nat.add_comm (index * width), ← Nat.add_assoc]

lemma length_plistObjectBytes_pos {object : PlistEncodeObject} (h : Writable object)
    (referenceSize : ℕ) : 0 < (plistObjectBytes referenceSize object).length := by
  have hmarker : ∀ marker length, 0 < (plistMarkerBytes marker length).length := by
    intro marker length
    unfold plistMarkerBytes
    split <;> simp
  have htext : ∀ text : CString, (plistUtf8Measure text).isSome →
      0 < (plistTextBytes text).length := by
    intro text hmeas
    obtain ⟨⟨units, ascii⟩, hsome⟩ := isSome_iff_exists.mp hmeas
    simp only [plistTextBytes, hsome]
    split
    all_goals
      rw [length_append]
      exact Nat.add_pos_left (hmarker _ _) _
  cases object with
  | key key => exact htext key h
  | value value _ =>
    cases value with
    | bool | uint | real => simp [plistObjectBytes]
    | string text => exact htext text h
    | data | array | dict =>
      simp only [plistObjectBytes, length_append]
      exact Nat.add_pos_left (hmarker _ _) _

lemma plistOffsets_getElem? {referenceSize start objectId : ℕ} {objects : List PlistEncodeObject}
    {object : PlistEncodeObject} (hobj : objects[objectId]? = some object)
    (hat : At bytes start (objects.flatMap (plistObjectBytes referenceSize))) :
    ∃ offset, (plistOffsets referenceSize start objects)[objectId]? = some offset ∧
      start ≤ offset ∧
      offset + (plistObjectBytes referenceSize object).length ≤
        start + (objects.flatMap (plistObjectBytes referenceSize)).length ∧
      At bytes offset (plistObjectBytes referenceSize object) := by
  induction objects generalizing start objectId with
  | nil => simp at hobj
  | cons first objects ih =>
    rw [flatMap_cons] at hat ⊢
    rw [length_append]
    cases objectId with
    | zero =>
      simp only [getElem?_cons_zero, some.injEq] at hobj
      subst hobj
      exact ⟨start, rfl, le_rfl, by omega, hat.left⟩
    | succ objectId =>
      obtain ⟨offset, hget, hle, hend, hchunk⟩ := ih hobj hat.right
      exact ⟨offset, hget, by omega, by omega, hchunk⟩

/-! ## The trailer -/

lemma plistCheckZeros_of_at {start count : ℕ}
    (hat : At bytes start (replicate count 0)) : plistCheckZeros bytes start count = pure () := by
  induction count generalizing start with
  | zero => rfl
  | succ count ih =>
    rw [plistCheckZeros, hat.head, pure_bind, if_neg (by simp), ih hat.tail]

/-- The context of the file of a list of objects. -/
def fileContext (rootObject : ℕ) (objects : List PlistEncodeObject) : PlistDecodeContext :=
  let referenceSize := plistUintWidth (objects.length - 1)
  let bodyLength := (plistBody referenceSize objects).length
  { bytes := plistFile rootObject objects
    length := (plistFile rootObject objects).length
    objectTableEnd := bodyLength
    offsetTableOffset := bodyLength
    offsetSize := plistUintWidth bodyLength
    referenceSize
    objectCount := objects.length
    topObject := rootObject }

lemma plistWidthValid_plistUintWidth (value : ℕ) :
    plistWidthValid (plistUintWidth value) = true := by
  rcases plistUintWidth_cases value with h | h | h | h <;> rw [h] <;> rfl

section File

variable {rootObject : ℕ} {objects : List PlistEncodeObject}
  (hroot : rootObject < objects.length) (hcount : objects.length ≤ airplayPlistMaxNodes)
  (hwritable : ∀ object ∈ objects, Writable object)
  (hlength : (plistFile rootObject objects).length ≤ airplayPlistMaxBytes)

lemma length_plistOffsets (referenceSize start : ℕ) (objects : List PlistEncodeObject) :
    (plistOffsets referenceSize start objects).length = objects.length := by
  induction objects generalizing start with
  | nil => rfl
  | cons object objects ih => simp [plistOffsets, ih]

lemma length_plistTrailer (offsetSize referenceSize count root table : ℕ) :
    (plistTrailer offsetSize referenceSize count root table).length = 32 := by
  simp [plistTrailer]

lemma length_plistFile (rootObject : ℕ) (objects : List PlistEncodeObject) :
    (plistFile rootObject objects).length = (fileContext rootObject objects).offsetTableOffset +
        objects.length * (fileContext rootObject objects).offsetSize + 32 := by
  simp [plistFile, fileContext, length_plistReferenceBytes, length_plistOffsets,
    length_plistTrailer, Nat.add_assoc]

include hroot hwritable in
lemma body_bounds : 8 < (fileContext rootObject objects).offsetTableOffset := by
  obtain ⟨object, rest, rfl⟩ : ∃ object rest, objects = object :: rest := by
    cases objects with
    | nil => simp at hroot
    | cons object rest => exact ⟨object, rest, rfl⟩
  have hpos := length_plistObjectBytes_pos (hwritable object (by simp))
    (plistUintWidth ((object :: rest).length - 1))
  show 8 < (plistBody _ _).length
  rw [plistBody, length_append, flatMap_cons, length_append]
  have hhead : plistHeader.length = 8 := rfl
  omega

include hcount hlength in
lemma fileContext_valid : (fileContext rootObject objects).Valid where
  length_eq := rfl
  length_le := hlength
  table_end := rfl
  offset_width := plistWidthValid_plistUintWidth _
  reference_width := plistWidthValid_plistUintWidth _
  count_le := hcount
  table_fits := Nat.le_of_eq (length_plistFile rootObject objects).symm

lemma at_body (rootObject : ℕ) (objects : List PlistEncodeObject) :
    At (plistFile rootObject objects) 0
      (plistBody (fileContext rootObject objects).referenceSize objects) := by
  rw [At, drop_zero, plistFile, append_assoc]
  exact prefix_append _ _

lemma at_table (rootObject : ℕ) (objects : List PlistEncodeObject) :
    At (plistFile rootObject objects) (fileContext rootObject objects).offsetTableOffset
      (plistReferenceBytes (fileContext rootObject objects).offsetSize
          (plistOffsets (fileContext rootObject objects).referenceSize 8 objects) ++
        plistTrailer (fileContext rootObject objects).offsetSize
          (fileContext rootObject objects).referenceSize objects.length rootObject
          (fileContext rootObject objects).offsetTableOffset) := by
  show _ <+: drop (plistBody _ objects).length _
  rw [plistFile, append_assoc, drop_left]
  exact prefix_rfl

include hcount hlength hwritable in
lemma describes_plistFile : Describes (fileContext rootObject objects) objects where
  valid := fileContext_valid hcount hlength
  count_eq := rfl
  count_fits := by
    have hlt : objects.length - 1 < 256 ^ plistUintWidth (objects.length - 1) := by
      apply lt_plistUintWidth
      simp only [airplayPlistMaxNodes] at hcount
      omega
    show objects.length ≤ 256 ^ plistUintWidth (objects.length - 1)
    omega
  located := by
    intro objectId object hobj
    have hbody := at_body rootObject objects
    rw [plistBody] at hbody
    obtain ⟨offset, hget, hlow, hend, hchunk⟩ := plistOffsets_getElem? hobj hbody.right
    have hvalid := fileContext_valid hcount hlength
    have hmax := hvalid.table_end_le
    simp only [airplayPlistMaxBytes] at hmax
    have htable : 8 + (objects.flatMap
        (plistObjectBytes (fileContext rootObject objects).referenceSize)).length =
          (fileContext rootObject objects).objectTableEnd := by
      show _ = (plistBody _ objects).length
      rw [plistBody, length_append]
      rfl
    have hpos := length_plistObjectBytes_pos (hwritable object (mem_of_getElem? hobj))
      (fileContext rootObject objects).referenceSize
    have hhead : plistHeader.length = 8 := rfl
    have hwidth : (fileContext rootObject objects).objectTableEnd <
        256 ^ (fileContext rootObject objects).offsetSize :=
      lt_plistUintWidth (by
        show (fileContext rootObject objects).objectTableEnd < 2 ^ 64
        omega)
    have hentry := ((at_table rootObject objects).left.entry hget).slice
    rw [length_plistUintBytes] at hentry
    have hannounced : announcedOffset (fileContext rootObject objects) objectId = offset := by
      rw [announcedOffset]
      show BigEndian.value (slice (plistFile rootObject objects) _ _) = _
      rw [hentry, value_plistUintBytes (by omega)]
    rw [hannounced]
    exact ⟨by omega, by omega, by omega, hchunk⟩

include hroot hcount hlength hwritable in
lemma plistDecodeTrailer_file :
    plistDecodeTrailer (plistFile rootObject objects) = pure (fileContext rootObject objects) := by
  have hvalid := fileContext_valid hcount hlength
  have hmax := hvalid.table_end_le
  have hbody := body_bounds hroot hwritable
  have hsize := length_plistFile rootObject objects
  have htrailer := (at_table rootObject objects).right
  rw [length_plistReferenceBytes, length_plistOffsets] at htrailer
  have hstart : (plistFile rootObject objects).length - 32 =
      (fileContext rootObject objects).offsetTableOffset +
        objects.length * (fileContext rootObject objects).offsetSize := by
    omega
  rw [← hstart] at htrailer
  simp only [plistTrailer, append_assoc] at htrailer
  -- the fields of the trailer, one after the other
  set bytes := plistFile rootObject objects with hbytes
  set context := fileContext rootObject objects with hctx
  have hsizes : At bytes (bytes.length - 32 + 6) _ := htrailer.right
  have hcountAt : At bytes (bytes.length - 32 + 8) (plistUintBytes objects.length 8 ++
      (plistUintBytes rootObject 8 ++ plistUintBytes context.offsetTableOffset 8)) := hsizes.right
  have hrootAt : At bytes (bytes.length - 32 + 16) (plistUintBytes rootObject 8 ++
      plistUintBytes context.offsetTableOffset 8) := hcountAt.right
  have htableAt : At bytes (bytes.length - 32 + 24)
      (plistUintBytes context.offsetTableOffset 8) := hrootAt.right
  obtain ⟨hoffsetPos, hoffsetLe⟩ := plistWidthValid_bounds hvalid.offset_width
  obtain ⟨-, hreferenceLe⟩ := plistWidthValid_bounds hvalid.reference_width
  have hoffsetByte : (UInt8.ofNat context.offsetSize).toNat = context.offsetSize := by
    rw [UInt8.toNat_ofNat', Nat.mod_eq_of_lt (by omega)]
  have hreferenceByte : (UInt8.ofNat context.referenceSize).toNat = context.referenceSize := by
    rw [UInt8.toNat_ofNat', Nat.mod_eq_of_lt (by omega)]
  simp only [airplayPlistMaxNodes] at hcount
  simp only [airplayPlistMaxBytes] at hmax hlength
  have htableEnd : context.objectTableEnd = context.offsetTableOffset := rfl
  have hquotient : (2 ^ 64 - 1) / 8 ≤ (2 ^ 64 - 1) / context.offsetSize :=
    Nat.div_le_div_left hoffsetLe hoffsetPos
  have hproduct : objects.length ≤ objects.length * context.offsetSize :=
    Nat.le_mul_of_pos_right _ hoffsetPos
  simp only [plistDecodeTrailer]
  rw [checkedSub_eq (by omega), pure_bind, plistCheckZeros_of_at htrailer.left, pure_bind,
    hsizes.head, pure_bind, hsizes.tail.head, pure_bind,
    hcountAt.left.readUint (by decide) (by decide) (by decide) (by omega) (by omega), pure_bind]
  dsimp only
  rw [hrootAt.left.readUint (by decide) (by decide) (by decide) (by omega) (by omega), pure_bind]
  dsimp only
  rw [htableAt.readUint (by decide) (by decide) (by decide) (by omega) (by omega), pure_bind]
  dsimp only
  rw [hoffsetByte, hreferenceByte, if_neg, checkedMul_eq (by simp only [sizeMax]; omega), pure_bind,
    checkedAdd_eq (by simp only [sizeMax]; omega), pure_bind, if_neg (by omega)]
  · rfl
  rw [hvalid.offset_width, hvalid.reference_width]
  simp only [sizeMax, airplayPlistMaxNodes]
  rintro (h | h | h | h | h | h | h | h | h)
  · cases h
  · cases h
  all_goals omega

lemma plistCheckOffsets_of_describes {context : PlistDecodeContext}
    (hdesc : Describes context objects) {remaining index : ℕ}
    (h : index + remaining ≤ objects.length) :
    plistCheckOffsets context remaining index = pure () := by
  induction remaining generalizing index with
  | zero => rfl
  | succ remaining ih =>
    have hindex : index < objects.length := by omega
    obtain ⟨hlow, hinside, -⟩ := hdesc.located index _ (getElem?_eq_getElem hindex)
    rw [plistCheckOffsets, plistDecodeOffset_eq hdesc.valid, pure_bind,
      if_pos ⟨hdesc.count_eq ▸ hindex, hlow, hinside⟩]
    exact ih (by omega)

end File

/-! ## Whole documents -/

variable {value : AirPlayPlistValue}

/-- The file of a tree's layout decodes to the tree. -/
theorem airplayPlistDecode_file (h : value.WellFormed)
    (hheight : value.height ≤ airplayPlistMaxDepth) (hnodes : value.nodeCount ≤ airplayPlistMaxNodes)
    (hlength : (plistFile 0 (layout 0 value)).length ≤ airplayPlistMaxBytes) :
    airplayPlistDecode (plistFile 0 (layout 0 value)) = .ok value := by
  have hcount : (layout 0 value).length = value.nodeCount := length_layout h 0
  have hroot : 0 < (layout 0 value).length := hcount ▸ nodeCount_pos value
  have hwritable := writable_of_mem_layout h 0
  have hdesc := describes_plistFile (hcount ▸ hnodes) hwritable hlength
  have hbody := body_bounds hroot hwritable
  have hsize := length_plistFile 0 (layout 0 value)
  have hlayout : At (layout 0 value) 0 (layout 0 value) := by
    exact prefix_rfl
  obtain ⟨last, hrun, -⟩ := decodesTo_of_wellFormed hdesc h 0 0 .initial hlayout
    (by rwa [Nat.zero_add]) (by simpa [PlistDecodeState.initial] using hnodes) (fun _ _ => rfl)
  obtain ⟨rest, hrest⟩ := at_body 0 (layout 0 value)
  have hmagic : slice (plistFile 0 (layout 0 value)) 0 8 = plistHeader := by
    rfl
  have hdecode : airplayPlistDecodeM (plistFile 0 (layout 0 value)) =
      plistDecodeObject (fileContext 0 (layout 0 value)) 0 0 := by
    rw [airplayPlistDecodeM, if_neg (by omega)]
    have hwidths : 0 < (fileContext 0 (layout 0 value)).offsetSize :=
      (plistWidthValid_bounds hdesc.valid.offset_width).1
    rw [if_neg (by omega), plistReadBytes_eq (by omega), pure_bind, hmagic, if_neg (by simp),
      plistDecodeTrailer_file hroot (hcount ▸ hnodes) hwritable hlength, pure_bind,
      plistCheckOffsets_of_describes hdesc (by rw [Nat.zero_add]; exact le_rfl), pure_bind]
    rfl
  rw [airplayPlistDecode, hdecode, hrun]

/-- **The round trip.**  What the encoder makes of a tree the constructors can build decodes to
that tree. -/
theorem airplayPlistDecode_of_encode {value : AirPlayPlistValue} {bytes : List UInt8}
    (hbuilt : value.Built) (hencode : airplayPlistEncode value = .ok bytes) :
    airplayPlistDecode bytes = .ok value := by
  have hwell := (built_iff_wellFormed value).mp hbuilt
  rw [airplayPlistEncode_eq hwell] at hencode
  split at hencode
  · rename_i hfits
    simp only [Except.ok.injEq] at hencode
    subst hencode
    exact airplayPlistDecode_file hwell hfits.1 hfits.2.1 hfits.2.2
  · cases hencode

theorem airplayPlistDecode_of_encode_array :
    ∃ bytes, airplayPlistEncode (.array [.bool true, .uint 300]) = .ok bytes ∧
      airplayPlistDecode bytes = .ok (.array [.bool true, .uint 300]) := by
  have hbuilt : (AirPlayPlistValue.array [.bool true, .uint 300]).Built :=
    .arrayAppend (.arrayAppend .newArray (.newBool true) rfl) (.newUint 300) rfl
  exact ⟨_, rfl, airplayPlistDecode_of_encode hbuilt rfl⟩

/-- The limits a decoded value is within. -/
structure WithinLimits (value : AirPlayPlistValue) : Prop where
  /-- container, string and data sizes, and pairwise distinct keys -/
  wellFormed : value.WellFormed
  height_le : value.height ≤ airplayPlistMaxDepth
  nodeCount_le : value.nodeCount ≤ airplayPlistMaxNodes
  utf8 : ∀ text ∈ value.texts, ∃ chars : List Char, text.bytes = Unicode.utf8 chars ∧
    text.strlen ≤ airplayPlistMaxStringBytes

lemma withinLimits_of_decode (h : airplayPlistDecode bytes = .ok value) : WithinLimits value := by
  unfold airplayPlistDecode at h
  split at h
  · rename_i decoded state hrun
    simp only [Except.ok.injEq] at h
    subst h
    obtain ⟨hfits, hcounts⟩ := (triple_airplayPlistDecode bytes).of_ok counts_initial hrun
    have hheight := hfits.height_le
    rw [Nat.zero_add] at hheight
    exact ⟨hfits.wellFormed, hheight, hcounts.nodes_le, hfits.wellFormed.utf8_of_mem_texts⟩
  · cases h

/-- **Re-encoding.**  A decoded value is within every limit of the module, and encoding it again
either yields a file that decodes to the same value, or fails with the limit error while the
file of the value is longer than the limit. -/
theorem airplayPlistEncode_of_decode {bytes : List UInt8} {value : AirPlayPlistValue}
    (h : airplayPlistDecode bytes = .ok value) :
    WithinLimits value ∧
      ((airplayPlistEncode value = .ok (plistFile 0 (layout 0 value)) ∧
          airplayPlistDecode (plistFile 0 (layout 0 value)) = .ok value) ∨
        (airplayPlistEncode value = .error .limitExceeded ∧
          airplayPlistMaxBytes < (plistFile 0 (layout 0 value)).length)) := by
  have hlimits := withinLimits_of_decode h
  obtain ⟨hwell, hheight, hnodes, -⟩ := id hlimits
  refine ⟨hlimits, ?_⟩
  rw [airplayPlistEncode_eq hwell]
  by_cases hlength : (plistFile 0 (layout 0 value)).length ≤ airplayPlistMaxBytes
  · refine .inl ⟨if_pos ⟨hheight, hnodes, hlength⟩, ?_⟩
    exact airplayPlistDecode_file hwell hheight hnodes hlength
  · exact .inr ⟨if_neg fun hall => hlength hall.2.2, Nat.lt_of_not_le hlength⟩

theorem airplayPlistEncode_of_decode_array :
    airplayPlistDecode (plistFile 0 (layout 0 (.array [.bool true, .uint 300]))) =
        .ok (.array [.bool true, .uint 300]) ∧
      WithinLimits (.array [.bool true, .uint 300]) := by
  have hdecode : airplayPlistDecode (plistFile 0 (layout 0 (.array [.bool true, .uint 300]))) =
      .ok (.array [.bool true, .uint 300]) :=
    airplayPlistDecode_file (.array (by decide) (by simpa using ⟨.bool true, .uint 300⟩))
      (by simp [height, airplayPlistMaxDepth])
      (by simp [nodeCount, airplayPlistMaxNodes]) (by decide)
  exact ⟨hdecode, (airplayPlistEncode_of_decode hdecode).1⟩

end NXCast

import NXCast.Framework.BoundedWriter
import NXCast.Plist.Value

/-!
# The property-list encoder

The encoder runs in two passes, as in `plist.c`.  `plistEncodeCollectValue` flattens the tree
into a list of objects, the root first and each container before its children, with the
object numbers of the children recorded as references; `airplayPlistEncode` then writes every
object, the table of their offsets and the trailer through a buffer of at most
`airplayPlistMaxBytes` bytes.

The buffer is the list of bytes written so far.  A failed write is the error the source
leaves in `PlistBuffer.error`; where the source leaves none, the cleanup code of
`airplay_plist_encode` reports `INVALID_FORMAT`, so that is the error here.
-/

namespace NXCast

/-- One entry of the object list: a dictionary key, or a value with the object numbers its
children were given. -/
inductive PlistEncodeObject where
  | key (key : CString)
  | value (value : AirPlayPlistValue) (references : List ℕ)

/-! ## First pass: collecting objects -/

/-- `plist_encode_add_key` -/
def plistEncodeAddKey (objects : List PlistEncodeObject) (key : CString) :
    Except AirPlayPlistError (ℕ × List PlistEncodeObject) :=
  match plistUtf8Measure key with
  | none => .error .invalidArgument
  | some _ =>
    if objects.length ≥ airplayPlistMaxNodes then .error .limitExceeded
    else .ok (objects.length, objects ++ [.key key])

/-- The loop of `plist_encode_collect_value` over the keys of a dictionary. -/
def plistEncodeAddKeys (objects : List PlistEncodeObject) :
    List CString → Except AirPlayPlistError (List ℕ × List PlistEncodeObject)
  | [] => .ok ([], objects)
  | key :: keys =>
    match plistEncodeAddKey objects key with
    | .error error => .error error
    | .ok (reference, objects) =>
      match plistEncodeAddKeys objects keys with
      | .error error => .error error
      | .ok (references, objects) => .ok (reference :: references, objects)

mutual

/-- `plist_encode_collect_value`: give `value` the next object number and collect what it
contains.  The references of a container are filled in once its children are numbered. -/
def plistEncodeCollectValue (objects : List PlistEncodeObject) (value : AirPlayPlistValue)
    (depth : ℕ) : Except AirPlayPlistError (ℕ × List PlistEncodeObject) :=
  if depth > airplayPlistMaxDepth ∨ objects.length ≥ airplayPlistMaxNodes then
    .error .limitExceeded
  else
    match value with
    | .array items =>
      if items.length = 0 then .ok (objects.length, objects ++ [.value (.array items) []])
      else if items.length > airplayPlistMaxContainerItems * 2 then .error .limitExceeded
      else
        match plistEncodeCollectItems (objects ++ [.value (.array items) []]) items (depth + 1) with
        | .error error => .error error
        | .ok (references, collected) =>
          .ok (objects.length, collected.set objects.length (.value (.array items) references))
    | .dict entries =>
      match plistSizeMultiply entries.length 2 with
      | none => .error .limitExceeded
      | some referenceCount =>
        if referenceCount = 0 then .ok (objects.length, objects ++ [.value (.dict entries) []])
        else if referenceCount > airplayPlistMaxContainerItems * 2 then .error .limitExceeded
        else
          match plistEncodeAddKeys (objects ++ [.value (.dict entries) []])
              (entries.map Prod.fst) with
          | .error error => .error error
          | .ok (keyReferences, keyed) =>
            match plistEncodeCollectEntries keyed entries (depth + 1) with
            | .error error => .error error
            | .ok (valueReferences, collected) =>
              .ok (objects.length, collected.set objects.length
                (.value (.dict entries) (keyReferences ++ valueReferences)))
    | value => .ok (objects.length, objects ++ [.value value []])

/-- The loop over the items of an array. -/
def plistEncodeCollectItems (objects : List PlistEncodeObject) (items : List AirPlayPlistValue)
    (depth : ℕ) : Except AirPlayPlistError (List ℕ × List PlistEncodeObject) :=
  match items with
  | [] => .ok ([], objects)
  | item :: items =>
    match plistEncodeCollectValue objects item depth with
    | .error error => .error error
    | .ok (reference, objects) =>
      match plistEncodeCollectItems objects items depth with
      | .error error => .error error
      | .ok (references, objects) => .ok (reference :: references, objects)

/-- The loop over the values of a dictionary. -/
def plistEncodeCollectEntries (objects : List PlistEncodeObject)
    (entries : List (CString × AirPlayPlistValue)) (depth : ℕ) :
    Except AirPlayPlistError (List ℕ × List PlistEncodeObject) :=
  match entries with
  | [] => .ok ([], objects)
  | (_, value) :: entries =>
    match plistEncodeCollectValue objects value depth with
    | .error error => .error error
    | .ok (reference, objects) =>
      match plistEncodeCollectEntries objects entries depth with
      | .error error => .error error
      | .ok (references, objects) => .ok (reference :: references, objects)

end

/-! ## Second pass: writing bytes -/

variable (buffer : List UInt8)

/-- `plist_buffer_write`, with the limit check of `plist_buffer_reserve`. -/
def plistBufferWrite (bytes : List UInt8) : Except AirPlayPlistError (List UInt8) :=
  match plistSizeAdd buffer.length bytes.length with
  | none => .error .limitExceeded
  | some required =>
    if required > airplayPlistMaxBytes then .error .limitExceeded else .ok (buffer ++ bytes)

/-- `plist_buffer_write_byte` -/
def plistBufferWriteByte (value : UInt8) :
    Except AirPlayPlistError (List UInt8) :=
  plistBufferWrite buffer [value]

/-- The byte loop of `plist_buffer_write_uint` and of `plist_write_uint_to_bytes`: byte
`width - index - 1` is `value >> (index * 8)`. -/
def plistUintBytes (value width : ℕ) : List UInt8 :=
  (List.range width).map fun position => UInt8.ofNat (value >>> (8 * (width - 1 - position)))

/-- `plist_buffer_write_uint` -/
def plistBufferWriteUint (value width : ℕ) :
    Except AirPlayPlistError (List UInt8) :=
  if width = 0 ∨ width > 8 then .error .invalidFormat
  else plistBufferWrite buffer (plistUintBytes value width)

/-- `plist_uint_width` -/
def plistUintWidth (value : ℕ) : ℕ :=
  if value ≤ 0xff then 1 else if value ≤ 0xffff then 2 else if value ≤ 0xffffffff then 4 else 8

/-- `plist_width_exponent` -/
def plistWidthExponent (width : ℕ) : ℕ :=
  match width with
  | 1 => 0
  | 2 => 1
  | 4 => 2
  | _ => 3

/-- `plist_buffer_write_marker_length` -/
def plistBufferWriteMarkerLength (marker length : ℕ) :
    Except AirPlayPlistError (List UInt8) :=
  if length < 15 then plistBufferWriteByte buffer (UInt8.ofNat (marker ||| length))
  else do
    let buffer ← plistBufferWriteByte buffer (UInt8.ofNat (marker ||| 0x0f))
    let buffer ← plistBufferWriteByte buffer
      (UInt8.ofNat (0x10 ||| plistWidthExponent (plistUintWidth length)))
    plistBufferWriteUint buffer length (plistUintWidth length)

/-- The UTF-16 loop of `plist_encode_string`. -/
def plistEncodeUtf16 (buffer text : List UInt8) : Except AirPlayPlistError (List UInt8) :=
  match text with
  | [] => .ok buffer
  | first :: tail =>
    match _h : plistUtf8Next (first :: tail) with
    | none => .error .invalidArgument
    | some (codepoint, rest) =>
      if codepoint < 0x10000 then
        match plistBufferWriteUint buffer codepoint 2 with
        | .error error => .error error
        | .ok buffer => plistEncodeUtf16 buffer rest
      else
        match plistBufferWriteUint buffer (0xd800 ||| ((codepoint - 0x10000) >>> 10)) 2 with
        | .error error => .error error
        | .ok buffer =>
          match plistBufferWriteUint buffer (0xdc00 ||| ((codepoint - 0x10000) &&& 0x3ff)) 2 with
          | .error error => .error error
          | .ok buffer => plistEncodeUtf16 buffer rest
termination_by text.length
decreasing_by all_goals exact plistUtf8Next_length _h

/-- `plist_encode_string` -/
def plistEncodeString (text : CString) :
    Except AirPlayPlistError (List UInt8) :=
  match plistUtf8Measure text with
  | none => .error .invalidArgument
  | some (utf16Units, ascii) =>
    if ascii then do
      let buffer ← plistBufferWriteMarkerLength buffer 0x50 text.strlen
      plistBufferWrite buffer text.bytes
    else do
      let buffer ← plistBufferWriteMarkerLength buffer 0x60 utf16Units
      plistEncodeUtf16 buffer text.bytes

/-- The reference loop of `plist_encode_object`. -/
def plistEncodeReferences (references : List ℕ) (referenceSize : ℕ) :
    Except AirPlayPlistError (List UInt8) :=
  references.foldlM (fun buffer reference => plistBufferWriteUint buffer reference referenceSize)
    buffer

/-- `plist_encode_object` -/
def plistEncodeObject (object : PlistEncodeObject) (referenceSize : ℕ) :
    Except AirPlayPlistError (List UInt8) :=
  match object with
  | .key key => plistEncodeString buffer key
  | .value (.bool value) _ => plistBufferWriteByte buffer (if value then 0x09 else 0x08)
  | .value (.uint value) _ => do
    let width := plistUintWidth value.toNat
    let buffer ← plistBufferWriteByte buffer (UInt8.ofNat (0x10 ||| plistWidthExponent width))
    plistBufferWriteUint buffer value.toNat width
  | .value (.real bits) _ => do
    let buffer ← plistBufferWriteByte buffer 0x23
    plistBufferWriteUint buffer bits.toNat 8
  | .value (.string text) _ => plistEncodeString buffer text
  | .value (.data bytes) _ => do
    let buffer ← plistBufferWriteMarkerLength buffer 0x40 bytes.length
    plistBufferWrite buffer bytes
  | .value (.array items) references => do
    let buffer ← plistBufferWriteMarkerLength buffer 0xa0 items.length
    plistEncodeReferences buffer references referenceSize
  | .value (.dict entries) references => do
    let buffer ← plistBufferWriteMarkerLength buffer 0xd0 entries.length
    plistEncodeReferences buffer references referenceSize

/-- The object loop of `airplay_plist_encode`: write every object and note where it starts. -/
def plistEncodeObjects (buffer : List UInt8) (referenceSize : ℕ) :
    List PlistEncodeObject → Except AirPlayPlistError (List ℕ × List UInt8)
  | [] => .ok ([], buffer)
  | object :: objects =>
    match plistEncodeObject buffer object referenceSize with
    | .error error => .error error
    | .ok next =>
      match plistEncodeObjects next referenceSize objects with
      | .error error => .error error
      | .ok (offsets, final) => .ok (buffer.length :: offsets, final)

/-- The magic `bplist00`. -/
def plistHeader : List UInt8 := [0x62, 0x70, 0x6c, 0x69, 0x73, 0x74, 0x30, 0x30]

/-- The trailer `airplay_plist_encode` fills in. -/
def plistTrailer (offsetSize referenceSize objectCount rootObject offsetTableOffset : ℕ) :
    List UInt8 :=
  List.replicate 6 0 ++ [UInt8.ofNat offsetSize, UInt8.ofNat referenceSize] ++
    plistUintBytes objectCount 8 ++ plistUintBytes rootObject 8 ++
    plistUintBytes offsetTableOffset 8

/-- `airplay_plist_encode` -/
def airplayPlistEncode (value : AirPlayPlistValue) : Except AirPlayPlistError (List UInt8) := do
  let (rootObject, objects) ← plistEncodeCollectValue [] value 0
  let referenceSize := plistUintWidth (objects.length - 1)
  let buffer ← plistBufferWrite [] plistHeader
  let (offsets, buffer) ← plistEncodeObjects buffer referenceSize objects
  let offsetTableOffset := buffer.length
  let offsetSize := plistUintWidth offsetTableOffset
  let buffer ← offsets.foldlM
    (fun buffer offset => plistBufferWriteUint buffer offset offsetSize) buffer
  plistBufferWrite buffer
    (plistTrailer offsetSize referenceSize objects.length rootObject offsetTableOffset)

end NXCast

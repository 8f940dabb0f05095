import NXCast.Framework.Program
import NXCast.Plist.Encode

/-!
# The property-list decoder

The decoder reads attacker-chosen offsets, lengths and references, so the model makes the two
things that could go wrong in C observable.  `plistReadByte` is the only access to the input
and stops with `PlistFault.readOutside` when the index is not inside it; the additions,
subtractions and products the source leaves unguarded go through `checkedAdd`, `checkedSub`
and `checkedMul`, which stop with `PlistFault.sizeWrap` when the mathematical result is not a
`size_t`.  A guarded operation (`plist_size_add`, `plist_size_multiply`) stays a function to
`Option`.

A failure of the source is `PlistStop.error`.  The first error recorded in the context is the
one reported and every caller gives up as soon as a callee returns `NULL`, so an error ends
the run; the bookkeeping a failing object still does (`active_objects[object_id] = false`) is
never read again and has no counterpart.

`PlistDecodeState.entered` lists the objects the walk has entered with their depths.  The code
keeps only the count; the list is there so that the walk can be talked about.
-/

namespace NXCast

/-- Behaviour the C program must not have. -/
inductive PlistFault where
  /-- a byte outside the input was read -/
  | readOutside
  /-- a size or an offset left the range of `size_t` -/
  | sizeWrap
deriving DecidableEq, Repr

/-- Why a decoding run ended without a value. -/
inductive PlistStop where
  | error (error : AirPlayPlistError)
  | fault (fault : PlistFault)
deriving DecidableEq, Repr

/-- `PlistDecodeContext`: what the trailer says, fixed for the whole run. -/
structure PlistDecodeContext where
  bytes : List UInt8
  length : ℕ
  objectTableEnd : ℕ
  offsetTableOffset : ℕ
  offsetSize : ℕ
  referenceSize : ℕ
  objectCount : ℕ
  topObject : ℕ

/-- The part of `PlistDecodeContext` that changes while objects are decoded. -/
structure PlistDecodeState where
  activeObjects : ℕ → Bool
  decodedNodes : ℕ
  entered : List (ℕ × ℕ)

namespace PlistDecodeState

/-- The state `airplay_plist_decode` starts from. -/
def initial : PlistDecodeState := ⟨fun _ => false, 0, []⟩

/-- Start decoding an object at a depth. -/
def enter (state : PlistDecodeState) (objectId depth : ℕ) : PlistDecodeState where
  activeObjects := Function.update state.activeObjects objectId true
  decodedNodes := state.decodedNodes + 1
  entered := (objectId, depth) :: state.entered

/-- Finish decoding an object. -/
def leave (state : PlistDecodeState) (objectId : ℕ) : PlistDecodeState :=
  { state with activeObjects := Function.update state.activeObjects objectId false }

section Fields

variable (state : PlistDecodeState) (objectId depth : ℕ)

@[simp] lemma enter_activeObjects :
    (state.enter objectId depth).activeObjects =
      Function.update state.activeObjects objectId true := rfl

@[simp] lemma enter_decodedNodes :
    (state.enter objectId depth).decodedNodes = state.decodedNodes + 1 := rfl

@[simp] lemma leave_activeObjects :
    (state.leave objectId).activeObjects = Function.update state.activeObjects objectId false := rfl

@[simp] lemma leave_decodedNodes :
    (state.leave objectId).decodedNodes = state.decodedNodes := rfl

end Fields

end PlistDecodeState

/-- Decoding steps. -/
abbrev PlistDecodeM := EStateM PlistStop PlistDecodeState

/-- `plist_decode_fail`, followed by the return of its caller. -/
def plistDecodeFail {α : Type} (error : AirPlayPlistError) : PlistDecodeM α :=
  throw (.error error)

/-! ## Instrumented primitives -/

variable (bytes : List UInt8)

/-- `bytes[index]` -/
def plistReadByte (index : ℕ) : PlistDecodeM UInt8 :=
  match bytes[index]? with
  | some byte => pure byte
  | none => throw (.fault .readOutside)

/-- An unguarded `size_t` sum. -/
def checkedAdd (left right : ℕ) : PlistDecodeM ℕ :=
  if left + right ≤ sizeMax then pure (left + right) else throw (.fault .sizeWrap)

/-- An unguarded `size_t` difference. -/
def checkedSub (left right : ℕ) : PlistDecodeM ℕ :=
  if right ≤ left then pure (left - right) else throw (.fault .sizeWrap)

/-- An unguarded `size_t` product. -/
def checkedMul (left right : ℕ) : PlistDecodeM ℕ :=
  if left * right ≤ sizeMax then pure (left * right) else throw (.fault .sizeWrap)

/-- A `memcpy` or `memcmp` of `length` bytes from `start`. -/
def plistReadBytes (bytes : List UInt8) (start : ℕ) : ℕ → PlistDecodeM (List UInt8)
  | 0 => pure []
  | length + 1 => do
    let byte ← plistReadByte bytes start
    let rest ← plistReadBytes bytes (start + 1) length
    pure (byte :: rest)

/-! ## Readers -/

/-- The loop of `plist_read_uint`, `remaining` bytes before its end. -/
def plistReadUintLoop (bytes : List UInt8) (start : ℕ) : ℕ → ℕ → PlistDecodeM ℕ
  | 0, value => pure value
  | remaining + 1, value => do
    let byte ← plistReadByte bytes start
    plistReadUintLoop bytes (start + 1) remaining ((value <<< 8) % 2 ^ 64 ||| byte.toNat)

/-- `plist_read_uint` on the bytes from `start`, of which `available` may be read. -/
def plistReadUint (start available width : ℕ) : PlistDecodeM (Option ℕ) :=
  if width = 0 ∨ width > 8 ∨ width > available then pure none
  else do
    let value ← plistReadUintLoop bytes start width 0
    pure (some value)

variable (context : PlistDecodeContext)

/-- `plist_decode_offset` -/
def plistDecodeOffset (objectId : ℕ) : PlistDecodeM (Option ℕ) :=
  if objectId ≥ context.objectCount ∨ objectId > sizeMax then pure none
  else
    match plistSizeMultiply objectId context.offsetSize with
    | none => pure none
    | some tableIndex =>
      match plistSizeAdd context.offsetTableOffset tableIndex with
      | none => pure none
      | some byteOffset => do
        let available ← checkedSub context.length byteOffset
        match ← plistReadUint context.bytes byteOffset available context.offsetSize with
        | none => pure none
        | some offset =>
          if offset < 8 ∨ offset ≥ context.objectTableEnd ∨ offset > sizeMax then pure none
          else pure (some offset)

/-- `plist_decode_length`: the number of items an object announces and the size of its marker
and length bytes. -/
def plistDecodeLength (objectOffset marker : ℕ) :
    PlistDecodeM (ℕ × ℕ) :=
  if marker &&& 0x0f < 0x0f then pure (marker &&& 0x0f, 1)
  else
    match plistSizeAdd objectOffset 1 with
    | none => plistDecodeFail .invalidFormat
    | some integerOffset =>
      if integerOffset ≥ context.objectTableEnd then plistDecodeFail .invalidFormat
      else do
        let integerMarker ← plistReadByte context.bytes integerOffset
        if integerMarker.toNat &&& 0xf0 ≠ 0x10 then plistDecodeFail .invalidFormat
        else if integerMarker.toNat &&& 0x0f > 3 then plistDecodeFail .limitExceeded
        else
          match plistSizeAdd 2 (1 <<< (integerMarker.toNat &&& 0x0f)) with
          | none => plistDecodeFail .invalidFormat
          | some headerSize => do
            let room ← checkedSub context.objectTableEnd objectOffset
            if headerSize > room then plistDecodeFail .invalidFormat
            else do
              let valueOffset ← checkedAdd integerOffset 1
              let afterMarker ← checkedSub context.objectTableEnd integerOffset
              let available ← checkedSub afterMarker 1
              match ← plistReadUint context.bytes valueOffset available
                  (1 <<< (integerMarker.toNat &&& 0x0f)) with
              | none => plistDecodeFail .invalidFormat
              | some length =>
                if length > sizeMax then plistDecodeFail .invalidFormat
                else pure (length, headerSize)

/-- `plist_decode_reference` -/
def plistDecodeReference (offset : ℕ) : PlistDecodeM ℕ :=
  if offset ≥ context.objectTableEnd then plistDecodeFail .invalidFormat
  else do
    let available ← checkedSub context.objectTableEnd offset
    match ← plistReadUint context.bytes offset available context.referenceSize with
    | none => plistDecodeFail .invalidFormat
    | some reference =>
      if reference ≥ context.objectCount then plistDecodeFail .invalidFormat
      else pure reference

/-! ## Strings -/

/-- The copying loop of `plist_decode_ascii_string`. -/
def plistDecodeAsciiLoop (bytes : List UInt8) (start : ℕ) : ℕ → PlistDecodeM (List UInt8)
  | 0 => pure []
  | remaining + 1 => do
    let byte ← plistReadByte bytes start
    if byte.toNat = 0 ∨ byte.toNat ≥ 0x80 then plistDecodeFail .invalidFormat
    else do
      let rest ← plistDecodeAsciiLoop bytes (start + 1) remaining
      pure (byte :: rest)

/-- `plist_decode_ascii_string` -/
def plistDecodeAsciiString (start length : ℕ) :
    PlistDecodeM AirPlayPlistValue :=
  if length > airplayPlistMaxStringBytes then plistDecodeFail .limitExceeded
  else do
    let _ ← checkedAdd length 1
    let text ← plistDecodeAsciiLoop bytes start length
    match airplayPlistNewString (CString.ofBuffer text) with
    | none => plistDecodeFail .outOfMemory
    | some value => pure value

/-- One big-endian UTF-16 code unit. -/
def plistReadUnit (offset : ℕ) : PlistDecodeM ℕ := do
  let high ← plistReadByte bytes offset
  let low ← plistReadByte bytes (offset + 1)
  pure ((high.toNat <<< 8) ||| low.toNat)

/-- The code point at `offset` and the number of units it takes beyond the first; `remaining`
units follow the first. -/
def plistReadCodepoint (offset remaining : ℕ) : PlistDecodeM (ℕ × ℕ) := do
  let first ← plistReadUnit bytes offset
  if first ≥ 0xd800 ∧ first ≤ 0xdbff then
    if remaining = 0 then plistDecodeFail .invalidFormat
    else do
      let second ← plistReadUnit bytes (offset + 2)
      if second < 0xdc00 ∨ second > 0xdfff then plistDecodeFail .invalidFormat
      else pure (0x10000 + ((first - 0xd800) <<< 10) + (second - 0xdc00), 1)
  else if first ≥ 0xdc00 ∧ first ≤ 0xdfff then plistDecodeFail .invalidFormat
  else pure (first, 0)

/-- The loop of `plist_decode_utf16_string`: `remaining` units from `offset` on, appended to
the UTF-8 text written so far. -/
def plistDecodeUtf16Loop (bytes : List UInt8) (maximumBytes offset : ℕ) (text : List UInt8) :
    ℕ → PlistDecodeM (List UInt8)
  | 0 => pure text
  | remaining + 1 => do
    let (codepoint, extra) ← plistReadCodepoint bytes offset remaining
    if codepoint = 0 then plistDecodeFail .invalidFormat
    else
      match plistUtf8Append text maximumBytes codepoint with
      | none => plistDecodeFail .limitExceeded
      | some text =>
        plistDecodeUtf16Loop bytes maximumBytes (offset + 2 * (extra + 1)) text (remaining - extra)
termination_by remaining => remaining
decreasing_by omega

/-- `plist_decode_utf16_string` -/
def plistDecodeUtf16String (start unitCount : ℕ) :
    PlistDecodeM AirPlayPlistValue :=
  if unitCount > airplayPlistMaxStringBytes / 2 then plistDecodeFail .limitExceeded
  else
    match plistSizeMultiply unitCount 3 with
    | none => plistDecodeFail .limitExceeded
    | some maximumBytes => do
      let capacity := min maximumBytes airplayPlistMaxStringBytes
      let _ ← checkedAdd capacity 1
      let text ← plistDecodeUtf16Loop bytes capacity start [] unitCount
      match airplayPlistNewString (CString.ofBuffer text) with
      | none => plistDecodeFail .outOfMemory
      | some value => pure value

/-! ## Reals -/

/-- The conversion `float` to `double` on bit patterns: exact on numbers, and a NaN keeps its
payload and becomes quiet, as the conversion instruction of the target does. -/
def doubleBitsOfFloatBits (bits : ℕ) : ℕ :=
  let sign := bits / 2 ^ 31 % 2
  let exponent := bits / 2 ^ 23 % 2 ^ 8
  let fraction := bits % 2 ^ 23
  if exponent = 0xff then
    if fraction = 0 then sign * 2 ^ 63 + 0x7ff * 2 ^ 52
    else sign * 2 ^ 63 + 0x7ff * 2 ^ 52 + ((fraction * 2 ^ 29) ||| 2 ^ 51)
  else if exponent = 0 then
    if fraction = 0 then sign * 2 ^ 63
    else
      -- a subnormal `float` is a normal `double`
      sign * 2 ^ 63 + (fraction.log2 + 874) * 2 ^ 52 +
        (fraction - 2 ^ fraction.log2) * 2 ^ (52 - fraction.log2)
  else sign * 2 ^ 63 + (exponent + 896) * 2 ^ 52 + fraction * 2 ^ 29

/-! ## Objects -/

/-- The item loop of an array, `remaining` items before its end. -/
def plistDecodeItems (context : PlistDecodeContext) (decode : ℕ → PlistDecodeM AirPlayPlistValue)
    (payloadOffset : ℕ) : ℕ → ℕ → AirPlayPlistValue → PlistDecodeM AirPlayPlistValue
  | 0, _, value => pure value
  | remaining + 1, index, value => do
    let step ← checkedMul index context.referenceSize
    let offset ← checkedAdd payloadOffset step
    let reference ← plistDecodeReference context offset
    let item ← decode reference
    match airplayPlistArrayAppend value item with
    | none => plistDecodeFail .outOfMemory
    | some value => plistDecodeItems context decode payloadOffset remaining (index + 1) value

/-- The entry loop of a dictionary.  Both references of an entry are read before its key is
decoded, and the key is compared with those already present before its value is. -/
def plistDecodeEntries (context : PlistDecodeContext)
    (decode : ℕ → PlistDecodeM AirPlayPlistValue) (payloadOffset referencesBytes : ℕ) :
    ℕ → ℕ → AirPlayPlistValue → PlistDecodeM AirPlayPlistValue
  | 0, _, value => pure value
  | remaining + 1, index, value => do
    let step ← checkedMul index context.referenceSize
    let keyOffset ← checkedAdd payloadOffset step
    let keyReference ← plistDecodeReference context keyOffset
    let valuesOffset ← checkedAdd payloadOffset referencesBytes
    let valueOffset ← checkedAdd valuesOffset step
    let valueReference ← plistDecodeReference context valueOffset
    let keyNode ← decode keyReference
    match airplayPlistGetString keyNode with
    | none => plistDecodeFail .invalidFormat
    | some key =>
      if (airplayPlistDictGet value key).isSome then plistDecodeFail .invalidFormat
      else do
        let item ← decode valueReference
        match airplayPlistDictSet value key item with
        | none => plistDecodeFail .outOfMemory
        | some value =>
          plistDecodeEntries context decode payloadOffset referencesBytes remaining (index + 1)
            value

/-- Integers and reals: the `width` bytes after the marker. -/
def plistDecodeNumber (objectOffset width : ℕ) :
    PlistDecodeM ℕ := do
  let room ← checkedSub context.objectTableEnd objectOffset
  let available ← checkedSub room 1
  if width > available then plistDecodeFail .invalidFormat
  else do
    let valueOffset ← checkedAdd objectOffset 1
    match ← plistReadUint context.bytes valueOffset available width with
    | none => plistDecodeFail .invalidFormat
    | some value => pure value

/-- The objects with a length: data, ASCII and UTF-16 strings, arrays and dictionaries. -/
def plistDecodeSized (decode : ℕ → PlistDecodeM AirPlayPlistValue)
    (payloadOffset high itemLength : ℕ) : PlistDecodeM AirPlayPlistValue :=
  if high = 0x40 then
    if itemLength > airplayPlistMaxDataBytes then plistDecodeFail .limitExceeded
    else do
      let room ← checkedSub context.objectTableEnd payloadOffset
      if itemLength > room then plistDecodeFail .invalidFormat
      else do
        let bytes ← plistReadBytes context.bytes payloadOffset itemLength
        match airplayPlistNewData bytes with
        | none => plistDecodeFail .outOfMemory
        | some value => pure value
  else if high = 0x50 then do
    let room ← checkedSub context.objectTableEnd payloadOffset
    if itemLength > room then plistDecodeFail .invalidFormat
    else plistDecodeAsciiString context.bytes payloadOffset itemLength
  else if high = 0x60 then
    match plistSizeMultiply itemLength 2 with
    | none => plistDecodeFail .invalidFormat
    | some payloadBytes => do
      let room ← checkedSub context.objectTableEnd payloadOffset
      if payloadBytes > room then plistDecodeFail .invalidFormat
      else plistDecodeUtf16String context.bytes payloadOffset itemLength
  else if high = 0xa0 then
    if itemLength > airplayPlistMaxContainerItems then plistDecodeFail .limitExceeded
    else
      match plistSizeMultiply itemLength context.referenceSize with
      | none => plistDecodeFail .invalidFormat
      | some payloadBytes => do
        let room ← checkedSub context.objectTableEnd payloadOffset
        if payloadBytes > room then plistDecodeFail .invalidFormat
        else plistDecodeItems context decode payloadOffset itemLength 0 airplayPlistNewArray
  else
    if itemLength > airplayPlistMaxContainerItems then plistDecodeFail .limitExceeded
    else
      match plistSizeMultiply itemLength context.referenceSize with
      | none => plistDecodeFail .invalidFormat
      | some referencesBytes =>
        match plistSizeMultiply referencesBytes 2 with
        | none => plistDecodeFail .invalidFormat
        | some payloadBytes => do
          let room ← checkedSub context.objectTableEnd payloadOffset
          if payloadBytes > room then plistDecodeFail .invalidFormat
          else
            plistDecodeEntries context decode payloadOffset referencesBytes itemLength 0
              airplayPlistNewDict

/-- The dispatch of `plist_decode_object` on the marker byte; `decode` decodes a child. -/
def plistDecodeMarked (decode : ℕ → PlistDecodeM AirPlayPlistValue)
    (objectOffset marker : ℕ) : PlistDecodeM AirPlayPlistValue :=
  let high := marker &&& 0xf0
  let low := marker &&& 0x0f
  if marker = 0x08 ∨ marker = 0x09 then pure (airplayPlistNewBool (decide (marker = 0x09)))
  else if high = 0x10 then
    if low > 3 then plistDecodeFail .limitExceeded
    else do
      let integer ← plistDecodeNumber context objectOffset (1 <<< low)
      pure (airplayPlistNewUint (UInt64.ofNat integer))
  else if high = 0x20 then
    if low = 2 then do
      let bits ← plistDecodeNumber context objectOffset 4
      pure (airplayPlistNewReal (UInt64.ofNat (doubleBitsOfFloatBits bits)))
    else if low = 3 then do
      let bits ← plistDecodeNumber context objectOffset 8
      pure (airplayPlistNewReal (UInt64.ofNat bits))
    else plistDecodeFail .invalidFormat
  else if high = 0x40 ∨ high = 0x50 ∨ high = 0x60 ∨ high = 0xa0 ∨ high = 0xd0 then do
    let (itemLength, headerSize) ← plistDecodeLength context objectOffset marker
    match plistSizeAdd objectOffset headerSize with
    | none => plistDecodeFail .invalidFormat
    | some payloadOffset => plistDecodeSized context decode payloadOffset high itemLength
  else plistDecodeFail .unsupportedType

/-- `plist_decode_object` -/
def plistDecodeObject (context : PlistDecodeContext) (objectId depth : ℕ) :
    PlistDecodeM AirPlayPlistValue := do
  let state ← get
  if _hlimit : depth > airplayPlistMaxDepth ∨ state.decodedNodes ≥ airplayPlistMaxNodes then
    plistDecodeFail .limitExceeded
  else if objectId ≥ context.objectCount ∨ state.activeObjects objectId = true then
    plistDecodeFail .invalidFormat
  else
    match ← plistDecodeOffset context objectId with
    | none => plistDecodeFail .invalidFormat
    | some objectOffset => do
      modify fun state => state.enter objectId depth
      let marker ← plistReadByte context.bytes objectOffset
      let value ← plistDecodeMarked context
        (fun reference => plistDecodeObject context reference (depth + 1))
        objectOffset marker.toNat
      modify fun state => state.leave objectId
      pure value
termination_by airplayPlistMaxDepth + 1 - depth

/-! ## The whole document -/

/-- The loop over the six leading bytes of the trailer, which must be zero. -/
def plistCheckZeros (bytes : List UInt8) (start : ℕ) : ℕ → PlistDecodeM Unit
  | 0 => pure ()
  | remaining + 1 => do
    let byte ← plistReadByte bytes start
    if byte ≠ 0 then plistDecodeFail .invalidFormat
    else plistCheckZeros bytes (start + 1) remaining

/-- The loop that validates every entry of the offset table. -/
def plistCheckOffsets (context : PlistDecodeContext) : ℕ → ℕ → PlistDecodeM Unit
  | 0, _ => pure ()
  | remaining + 1, index => do
    match ← plistDecodeOffset context index with
    | none => plistDecodeFail .invalidFormat
    | some _ => plistCheckOffsets context remaining (index + 1)

/-- An integer width the format allows. -/
def plistWidthValid (width : ℕ) : Bool := width == 1 || width == 2 || width == 4 || width == 8

/-- Read the trailer, check it, and set up the context. -/
def plistDecodeTrailer : PlistDecodeM PlistDecodeContext := do
  let length := bytes.length
  let trailerOffset ← checkedSub length 32
  plistCheckZeros bytes trailerOffset 6
  let offsetSize ← plistReadByte bytes (trailerOffset + 6)
  let referenceSize ← plistReadByte bytes (trailerOffset + 7)
  match ← plistReadUint bytes (trailerOffset + 8) 24 8 with
  | none => plistDecodeFail .invalidFormat
  | some objectCount =>
    match ← plistReadUint bytes (trailerOffset + 16) 16 8 with
    | none => plistDecodeFail .invalidFormat
    | some topObject =>
      match ← plistReadUint bytes (trailerOffset + 24) 8 8 with
      | none => plistDecodeFail .invalidFormat
      | some offsetTableOffset =>
        if plistWidthValid offsetSize.toNat = false ∨ plistWidthValid referenceSize.toNat = false ∨
            objectCount = 0 ∨ objectCount > airplayPlistMaxNodes ∨ topObject ≥ objectCount ∨
            offsetTableOffset > sizeMax ∨ offsetTableOffset < 8 ∨
            offsetTableOffset ≥ trailerOffset ∨
            objectCount > (2 ^ 64 - 1) / offsetSize.toNat then
          plistDecodeFail (if objectCount > airplayPlistMaxNodes then .limitExceeded
            else .invalidFormat)
        else do
          let offsetTableBytes ← checkedMul objectCount offsetSize.toNat
          let offsetTableEnd ← checkedAdd offsetTableOffset offsetTableBytes
          if offsetTableEnd > trailerOffset then plistDecodeFail .invalidFormat
          else
            pure { bytes, length, objectTableEnd := offsetTableOffset, offsetTableOffset,
                   offsetSize := offsetSize.toNat, referenceSize := referenceSize.toNat,
                   objectCount, topObject }

/-- `airplay_plist_decode`, with the state it leaves behind. -/
def airplayPlistDecodeM : PlistDecodeM AirPlayPlistValue :=
  if bytes.length > airplayPlistMaxBytes then plistDecodeFail .limitExceeded
  else if bytes.length < 40 then plistDecodeFail .invalidFormat
  else do
    let magic ← plistReadBytes bytes 0 8
    if magic ≠ plistHeader then plistDecodeFail .invalidFormat
    else do
      let context ← plistDecodeTrailer bytes
      plistCheckOffsets context context.objectCount 0
      plistDecodeObject context context.topObject 0

/-- `airplay_plist_decode` -/
def airplayPlistDecode : Except PlistStop AirPlayPlistValue :=
  match airplayPlistDecodeM bytes .initial with
  | .ok value _ => .ok value
  | .error stop _ => .error stop

end NXCast

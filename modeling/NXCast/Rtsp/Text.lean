import NXCast.Framework.CString
import NXCast.Framework.Decimal

/-!
# Character classes and text checks of the RTSP layer

The `ctype` and `string` functions are those of the C locale.  A fixed character array that
is filled by `rtsp_copy_slice` is the string read back from it, so the function returns a
`CString` and fails when the slice does not fit.
-/

namespace NXCast

open Decimal

/-! ## Limits -/

/-- `AIRPLAY_RTSP_MAX_HEADER_BYTES` -/
def airplayRtspMaxHeaderBytes : ℕ := 32 * 1024
/-- `AIRPLAY_RTSP_MAX_BODY_BYTES` -/
def airplayRtspMaxBodyBytes : ℕ := 1024 * 1024
/-- `AIRPLAY_RTSP_MAX_MESSAGE_BYTES` -/
def airplayRtspMaxMessageBytes : ℕ := airplayRtspMaxHeaderBytes + airplayRtspMaxBodyBytes
/-- `AIRPLAY_RTSP_MAX_HEADERS` -/
def airplayRtspMaxHeaders : ℕ := 48
/-- `AIRPLAY_RTSP_MAX_METHOD_BYTES` -/
def airplayRtspMaxMethodBytes : ℕ := 31
/-- `AIRPLAY_RTSP_MAX_URI_BYTES` -/
def airplayRtspMaxUriBytes : ℕ := 1023
/-- `AIRPLAY_RTSP_MAX_PROTOCOL_BYTES` -/
def airplayRtspMaxProtocolBytes : ℕ := 15
/-- `AIRPLAY_RTSP_MAX_HEADER_NAME_BYTES` -/
def airplayRtspMaxHeaderNameBytes : ℕ := 63
/-- `AIRPLAY_RTSP_MAX_HEADER_VALUE_BYTES` -/
def airplayRtspMaxHeaderValueBytes : ℕ := 2047

/-! ## Characters -/

/-- The bytes of a string literal. -/
def asciiBytes (text : String) : List UInt8 := text.toList.map fun c => UInt8.ofNat c.toNat

/-- A string literal. -/
def cstring (text : String) : CString := CString.ofBuffer (asciiBytes text)

/-- The C `isdigit`. -/
def isdigit (value : UInt8) : Bool := decide (0x30 ≤ value.toNat ∧ value.toNat ≤ 0x39)

/-- The C `isalnum`. -/
def isalnum (value : UInt8) : Bool :=
  isdigit value || decide (0x41 ≤ value.toNat ∧ value.toNat ≤ 0x5a) ||
    decide (0x61 ≤ value.toNat ∧ value.toNat ≤ 0x7a)

/-- The C `tolower`. -/
def tolower (value : UInt8) : UInt8 :=
  if 0x41 ≤ value.toNat ∧ value.toNat ≤ 0x5a then value + 0x20 else value

/-- `rtsp_is_token_character` -/
def rtspIsTokenCharacter (value : UInt8) : Bool :=
  isalnum value || (asciiBytes "!#$%&'*+-.^_\x60|~").contains value

/-- A control character that no line may hold: everything below the blank but the tab, and
DEL. -/
def rtspControlCharacter (value : UInt8) : Bool :=
  decide (value.toNat < 0x20 ∧ value ≠ 0x09) || decide (value = 0x7f)

/-! ## Checks on strings -/

/-- `rtsp_valid_token` -/
def rtspValidToken (value : CString) : Bool :=
  !value.bytes.isEmpty && value.bytes.all rtspIsTokenCharacter

/-- `rtsp_valid_header_value` -/
def rtspValidHeaderValue (value : CString) : Bool :=
  value.bytes.all fun byte => !rtspControlCharacter byte

/-- `rtsp_valid_uri` -/
def rtspValidUri (value : CString) : Bool :=
  !value.bytes.isEmpty &&
    value.bytes.all (fun byte => decide (0x21 ≤ byte.toNat ∧ byte.toNat ≤ 0x7e)) &&
    decide (value.strlen ≤ airplayRtspMaxUriBytes)

/-- `rtsp_copy_slice` into an array of `destinationSize` characters. -/
def rtspCopySlice (destinationSize : ℕ) (slice : List UInt8) : Option CString :=
  if slice.length ≥ destinationSize then none else some (CString.ofBuffer slice)

/-- The loop of `rtsp_parse_decimal`. -/
def rtspParseDecimalLoop (maximum : ℕ) : List UInt8 → ℕ → Option ℕ
  | [], value => some value
  | byte :: text, value =>
    if isdigit byte = false then none
    else if value > (maximum - (byte.toNat - 0x30)) / 10 then none
    else rtspParseDecimalLoop maximum text (value * 10 + (byte.toNat - 0x30))

/-- `rtsp_parse_decimal` -/
def rtspParseDecimal (text : CString) (maximum : ℕ) : Option ℕ :=
  if text.bytes.isEmpty then none else rtspParseDecimalLoop maximum text.bytes 0

/-- `rtsp_decimal_syntax_valid` -/
def rtspDecimalSyntaxValid (text : CString) : Bool :=
  !text.bytes.isEmpty && text.bytes.all isdigit

/-- `rtsp_header_name_equal`, by `strcasecmp`. -/
def rtspHeaderNameEqual (left right : CString) : Bool :=
  decide (left.bytes.map tolower = right.bytes.map tolower)

/-! ## Decimals -/

lemma isdigit_iff {byte : UInt8} : isdigit byte ↔ Decimal.IsDigit byte := by
  simp [isdigit, Decimal.IsDigit]

/-- The checked accumulation computes the number and accepts it exactly up to the maximum. -/
lemma rtspParseDecimalLoop_eq {maximum : ℕ} (hmaximum : 9 ≤ maximum) {text : List UInt8}
    (htext : ∀ byte ∈ text, isdigit byte) {value : ℕ} (hvalue : value ≤ maximum) :
    rtspParseDecimalLoop maximum text value =
      if valueFrom value text ≤ maximum then some (valueFrom value text)
      else none := by
  induction text generalizing value with
  | nil => simp [rtspParseDecimalLoop, valueFrom, hvalue]
  | cons byte text ih =>
    have hdigit : isdigit byte := htext byte (by simp)
    have hrange := isdigit_iff.mp hdigit
    simp only [Decimal.IsDigit] at hrange
    have hstep : valueFrom value (byte :: text) =
        valueFrom (value * 10 + (byte.toNat - 0x30)) text := rfl
    rw [rtspParseDecimalLoop, if_neg (by simp [hdigit]), hstep]
    by_cases hover : value > (maximum - (byte.toNat - 0x30)) / 10
    · have hle := le_valueFrom (value * 10 + (byte.toNat - 0x30)) text
      rw [if_pos hover, if_neg (by omega)]
    · rw [if_neg hover, ih (fun other hother => htext other (by simp [hother])) (by omega)]

/-- `rtsp_parse_decimal` on a string of digits. -/
lemma rtspParseDecimal_eq {text : CString} (h : rtspDecimalSyntaxValid text)
    {maximum : ℕ} (hmaximum : 9 ≤ maximum) :
    rtspParseDecimal text maximum =
      if value text.bytes ≤ maximum then some (value text.bytes) else none := by
  simp only [rtspDecimalSyntaxValid, Bool.and_eq_true, Bool.not_eq_true', List.all_eq_true] at h
  rw [rtspParseDecimal, if_neg (by simp [h.1]), rtspParseDecimalLoop_eq hmaximum h.2 (Nat.zero_le _)]
  rfl

/-! ## Header names -/

lemma rtspHeaderNameEqual_iff {left right : CString} :
    rtspHeaderNameEqual left right ↔ left.bytes.map tolower = right.bytes.map tolower := by
  simp [rtspHeaderNameEqual]

lemma rtspHeaderNameEqual_of_common {left right name : CString}
    (hleft : rtspHeaderNameEqual left name) (hright : rtspHeaderNameEqual right name) :
    rtspHeaderNameEqual left right := by
  rw [rtspHeaderNameEqual_iff] at hleft hright ⊢
  rw [hleft, hright]

example : rtspHeaderNameEqual (cstring "CSEQ") (cstring "CSeq") = true := by decide

end NXCast

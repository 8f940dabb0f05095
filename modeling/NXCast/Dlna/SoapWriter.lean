import NXCast.Rtsp.Text

/-!
# Writing responses

`soap_writer.c`: text is appended to a buffer of bounded size.  Escaping reserves six bytes for each
byte of the text before it writes any, so an escaped text may be refused although it would fit.
-/

namespace NXCast

open List

/-- `SOAP_HANDLER_OUTPUT_MAX` -/
def soapHandlerOutputMax : ℕ := 98304

/-- A writer on what has been written so far; `none` when it fails. -/
abbrev SoapWriter := StateT (List UInt8) Option Unit

/-- `soap_writer_append_len`; there is always a byte left for the terminator. -/
def soapWriterAppendLen (text : List UInt8) : SoapWriter := fun out =>
  if out.length + text.length + 1 > soapHandlerOutputMax then none else some ((), out ++ text)

/-- `soap_writer_append_raw` -/
def soapWriterAppendRaw (text : List UInt8) : SoapWriter := soapWriterAppendLen text

/-- What an escaped byte is written as. -/
def xmlReplacement (byte : UInt8) : List UInt8 :=
  if byte = 0x26 then asciiBytes "&amp;"
  else if byte = 0x3c then asciiBytes "&lt;"
  else if byte = 0x3e then asciiBytes "&gt;"
  else if byte = 0x22 then asciiBytes "&quot;"
  else if byte = 0x27 then asciiBytes "&apos;"
  else [byte]

/-- The loop of `soap_writer_append_escaped`. -/
def soapWriterEscapeLoop : List UInt8 → SoapWriter
  | [] => pure ()
  | byte :: text => do
    soapWriterAppendRaw (xmlReplacement byte)
    soapWriterEscapeLoop text

/-- `soap_writer_append_escaped` -/
def soapWriterAppendEscaped (text : List UInt8) : SoapWriter := fun out =>
  if out.length + text.length * 6 + 1 > soapHandlerOutputMax then none
  else soapWriterEscapeLoop text out

/-- `%d` and `%ld` -/
def soapDecimal (value : ℤ) : List UInt8 :=
  if value < 0 then 0x2d :: Decimal.digits value.natAbs else Decimal.digits value.natAbs

/-- `soap_writer_open_tag` -/
def soapWriterOpenTag (tag : List UInt8) : SoapWriter :=
  soapWriterAppendLen (asciiBytes "<" ++ tag ++ asciiBytes ">")

/-- `soap_writer_close_tag` -/
def soapWriterCloseTag (tag : List UInt8) : SoapWriter :=
  soapWriterAppendLen (asciiBytes "</" ++ tag ++ asciiBytes ">")

/-- `soap_writer_element_text` -/
def soapWriterElementText (tag text : List UInt8) : SoapWriter := do
  soapWriterOpenTag tag
  soapWriterAppendEscaped text
  soapWriterCloseTag tag

/-- `soap_writer_element_raw` -/
def soapWriterElementRaw (tag text : List UInt8) : SoapWriter := do
  soapWriterOpenTag tag
  soapWriterAppendRaw text
  soapWriterCloseTag tag

/-- `soap_writer_element_int` -/
def soapWriterElementInt (tag : List UInt8) (value : ℤ) : SoapWriter := do
  soapWriterOpenTag tag
  soapWriterAppendLen (soapDecimal value)
  soapWriterCloseTag tag

/-- What a writer writes to an empty buffer. -/
def SoapWriter.output (writer : SoapWriter) : Option (List UInt8) := (writer []).map Prod.snd

/-! ## What a writer writes -/

/-- A text with its bytes escaped. -/
def xmlEscaped (text : List UInt8) : List UInt8 := text.flatMap xmlReplacement

/-- A writer writes a text, and needs some room for it; that can be more than the text is long. -/
def SoapWriter.Writes (writer : SoapWriter) (text : List UInt8) (room : ℕ) : Prop :=
  text.length ≤ room ∧ ∀ out : List UInt8, out.length < soapHandlerOutputMax →
    writer out = if out.length + room < soapHandlerOutputMax then some ((), out ++ text) else none

section Writes

variable {writer writer' : SoapWriter} {text text' : List UInt8} {room room' : ℕ}

lemma length_xmlReplacement_le (byte : UInt8) : (xmlReplacement byte).length ≤ 6 := by
  rw [xmlReplacement]
  split_ifs
  · decide
  · decide
  · decide
  · decide
  · decide
  · exact Nat.succ_le_succ (Nat.zero_le 5)

lemma length_xmlEscaped_le (text : List UInt8) : (xmlEscaped text).length ≤ text.length * 6 := by
  induction text with
  | nil => exact Nat.zero_le _
  | cons byte text ih =>
    have hbyte := length_xmlReplacement_le byte
    rw [xmlEscaped] at ih
    simp only [xmlEscaped, flatMap_cons, length_append, length_cons]
    omega

lemma soapWriterAppendLen_writes (text : List UInt8) :
    (soapWriterAppendLen text).Writes text text.length := by
  refine ⟨le_rfl, fun out _ => ?_⟩
  rw [soapWriterAppendLen]
  by_cases hroom : out.length + text.length < soapHandlerOutputMax
  · rw [if_pos hroom, if_neg (by omega)]
  · rw [if_neg hroom, if_pos (by omega)]

lemma soapWriterAppendRaw_writes (text : List UInt8) :
    (soapWriterAppendRaw text).Writes text text.length :=
  soapWriterAppendLen_writes text

/-- The room of two writers is that of the first, or the first's text and the room of the second. -/
lemma SoapWriter.Writes.seq (h : writer.Writes text room) (h' : writer'.Writes text' room') :
    SoapWriter.Writes (do writer; writer') (text ++ text') (max room (text.length + room')) := by
  obtain ⟨hle, hwriter⟩ := h
  obtain ⟨hle', hwriter'⟩ := h'
  refine ⟨by rw [length_append]; omega, fun out hout => ?_⟩
  have hbind : (do writer; writer' : SoapWriter) out = (writer out).bind fun r => writer' r.2 := rfl
  rw [hbind, hwriter out hout]
  by_cases hroom : out.length + room < soapHandlerOutputMax
  · rw [if_pos hroom, Option.bind_some, hwriter' _ (by rw [length_append]; omega),
      length_append, append_assoc]
    exact if_congr (by omega) rfl rfl
  · rw [if_neg hroom, if_neg (by omega)]
    rfl

lemma soapWriterEscapeLoop_writes (text : List UInt8) :
    (soapWriterEscapeLoop text).Writes (xmlEscaped text) (xmlEscaped text).length := by
  induction text with
  | nil =>
    refine ⟨le_rfl, fun out hout => ?_⟩
    rw [if_pos (by exact hout)]
    exact congrArg (fun written => some ((), written)) (append_nil out).symm
  | cons byte text ih =>
    have hseq := (soapWriterAppendRaw_writes (xmlReplacement byte)).seq ih
    rw [max_eq_right (Nat.le_add_right _ _), ← length_append] at hseq
    exact hseq

lemma soapWriterAppendEscaped_writes (text : List UInt8) :
    (soapWriterAppendEscaped text).Writes (xmlEscaped text) (text.length * 6) := by
  refine ⟨length_xmlEscaped_le text, fun out hout => ?_⟩
  have hle := length_xmlEscaped_le text
  rw [soapWriterAppendEscaped]
  by_cases hroom : out.length + text.length * 6 < soapHandlerOutputMax
  · rw [if_pos hroom, if_neg (by omega), (soapWriterEscapeLoop_writes text).2 out hout,
      if_pos (by omega)]
  · rw [if_neg hroom, if_pos (by omega)]

lemma SoapWriter.Writes.output (h : writer.Writes text room) :
    writer.output = if room < soapHandlerOutputMax then some text else none := by
  rw [SoapWriter.output, h.2 [] (by decide), length_nil, Nat.zero_add, nil_append]
  split <;> rfl

/-- A writer writes a text, and needs no more room than `size`. -/
def SoapWriter.Puts (writer : SoapWriter) (text : List UInt8) (size : ℕ) : Prop :=
  ∃ room, writer.Writes text room ∧ room ≤ size

lemma SoapWriter.Writes.puts (h : writer.Writes text room) : writer.Puts text room :=
  ⟨room, h, le_rfl⟩

variable {size size' : ℕ}

lemma SoapWriter.Puts.seq (h : writer.Puts text size)
    (h' : writer'.Puts text' size') :
    SoapWriter.Puts (do writer; writer') (text ++ text') (size + size') := by
  obtain ⟨room, hwrites, hroom⟩ := h
  obtain ⟨room', hwrites', hroom'⟩ := h'
  have hle := hwrites.1
  exact ⟨_, hwrites.seq hwrites', by omega⟩

lemma SoapWriter.Puts.mono (h : writer.Puts text size) (hle : size ≤ size') :
    writer.Puts text size' := by
  obtain ⟨room, hwrites, hroom⟩ := h
  exact ⟨room, hwrites, hroom.trans hle⟩

lemma SoapWriter.Puts.output (h : writer.Puts text size)
    (hsize : size < soapHandlerOutputMax) : writer.output = some text ∧ text.length ≤ size := by
  obtain ⟨room, hwrites, hroom⟩ := h
  exact ⟨by rw [hwrites.output, if_pos (by omega)], hwrites.1.trans hroom⟩

lemma SoapWriter.Puts.output_eq (h : writer.Puts text size) {out : List UInt8}
    (hout : writer.output = some out) : out = text ∧ text.length < soapHandlerOutputMax := by
  obtain ⟨room, hwrites, -⟩ := h
  have hle := hwrites.1
  rw [hwrites.output] at hout
  split at hout
  · cases hout
    exact ⟨rfl, by omega⟩
  · cases hout

/-- A writer needs no more room than `size`. -/
def SoapWriter.Fits (writer : SoapWriter) (size : ℕ) : Prop := ∃ text, writer.Puts text size

lemma soapWriterAppendLen_fits (text : List UInt8) : (soapWriterAppendLen text).Fits text.length :=
  ⟨text, (soapWriterAppendLen_writes text).puts⟩

lemma soapWriterAppendEscaped_fits (text : List UInt8) :
    (soapWriterAppendEscaped text).Fits (text.length * 6) :=
  ⟨_, (soapWriterAppendEscaped_writes text).puts⟩

lemma SoapWriter.Fits.seq (h : writer.Fits size) (h' : writer'.Fits size') :
    SoapWriter.Fits (do writer; writer') (size + size') := by
  obtain ⟨text, hputs⟩ := h
  obtain ⟨text', hputs'⟩ := h'
  exact ⟨_, hputs.seq hputs'⟩

lemma SoapWriter.Fits.mono (h : writer.Fits size) (hle : size ≤ size') :
    writer.Fits size' := by
  obtain ⟨text, hputs⟩ := h
  exact ⟨text, hputs.mono hle⟩

lemma SoapWriter.Fits.output (h : writer.Fits size) (hsize : size < soapHandlerOutputMax) :
    ∃ text, writer.output = some text ∧ text.length ≤ size := by
  obtain ⟨text, hputs⟩ := h
  exact ⟨text, hputs.output hsize⟩

end Writes

end NXCast

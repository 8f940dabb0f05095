import NXCast.Dlna.SoapWriter
import NXCast.Util.Size

/-!
# The buffer of a response

`soap_writer.c` once more, with the buffer that it grows: `SoapWriter` says what is written when every
allocation succeeds, this module what a buffer holds whatever the allocator answers.  A text is the bytes
before its terminator.
-/

namespace NXCast

open Checked List

/-- `SOAP_WRITER_INITIAL_CAP` -/
def soapWriterInitialCap : ℕ := 512

/-- What `realloc` answers: nothing, or a block with these bytes behind those that are kept. -/
abbrev Reallocation := Option (ℕ → UInt8)

/-- `SoapActionOutput` -/
structure SoapActionOutput where
  outputXml : Option (List UInt8)
  outputLen : ℕ
  outputCap : ℕ

namespace SoapActionOutput

/-- All zero. -/
def zero : SoapActionOutput := ⟨none, 0, 0⟩

variable (out : SoapActionOutput)

/-- Writes to `output_xml + place`. -/
def write (place : ℕ) (data : List UInt8) : Access SoapActionOutput :=
  match out.outputXml with
  | none => .error .write
  | some block => do return { out with outputXml := some (← store block place data) }

/-- The output with a larger block, which an empty text gets its terminator in. -/
def enlarge (capacity : ℕ) (fresh : ℕ → UInt8) : Access SoapActionOutput :=
  let kept := (out.outputXml.getD []).take capacity
  let out :=
    { out with
      outputXml := some (kept ++ (range (capacity - kept.length)).map fresh)
      outputCap := capacity }
  if out.outputLen = 0 then out.write 0 [0] else pure out

/-- `soap_writer_reserve` -/
def reserve (extra : ℕ) (reallocation : Reallocation) : Access (Bool × SoapActionOutput) :=
  if out.outputLen > out.outputCap ∨ (out.outputCap > 0 ∧ out.outputXml = none) then return (false, out)
  else
    match (nxcastSizeAdd out.outputLen extra).bind (nxcastSizeAdd · 1) with
    | none => return (false, out)
    | some needed =>
      if needed > soapHandlerOutputMax then return (false, out)
      else if needed ≤ out.outputCap then return (true, out)
      else do
        match ← nxcastSizeGrow out.outputCap needed soapWriterInitialCap soapHandlerOutputMax,
          reallocation with
        | some capacity, some fresh => return (true, ← out.enlarge capacity fresh)
        | _, _ => return (false, out)

/-- `soap_writer_clear` -/
def clear : Access SoapActionOutput :=
  let out := { out with outputLen := 0 }
  if out.outputXml ≠ none ∧ out.outputCap > 0 then out.write 0 [0] else pure out

/-- The guarded `memcpy` of `soap_writer_append_len`. -/
def copy (text : List UInt8) : Access SoapActionOutput :=
  if text.length > 0 then out.write out.outputLen text else pure out

/-- `soap_writer_append_len` and `soap_writer_append_raw` -/
def append (text : List UInt8) (reallocation : Reallocation) : Access (Bool × SoapActionOutput) := do
  let (ok, out) ← out.reserve text.length reallocation
  if !ok then return (false, out)
  let out ← out.copy text
  let out := { out with outputLen := ← sizeAdd out.outputLen text.length }
  return (true, ← out.write out.outputLen [0])

/-- `soap_writer_appendf`; there is no text when `vsnprintf` answers with an error.  The second
`vsnprintf` makes the text of the first. -/
def appendf (text : Option (List UInt8)) (reallocation : Reallocation) :
    Access (Bool × SoapActionOutput) :=
  match text with
  | none => return (false, out)
  | some text => do
    let (ok, out) ← out.reserve text.length reallocation
    if !ok then return (false, out)
    let room ← sizeSub out.outputCap out.outputLen
    let out ← out.write out.outputLen (text.take (room - 1) ++ [0])
    return (true, { out with outputLen := ← sizeAdd out.outputLen text.length })

/-- The loop of `soap_writer_append_escaped`. -/
def escapeLoop (reallocations : ℕ → Reallocation) :
    List UInt8 → SoapActionOutput → Access (Bool × SoapActionOutput)
  | [], out => return (true, out)
  | byte :: text, out => do
    let (ok, out) ← out.append (xmlReplacement byte) (reallocations text.length)
    if !ok then return (false, out)
    escapeLoop reallocations text out

/-- `soap_writer_append_escaped` -/
def appendEscaped (text : List UInt8) (reallocations : ℕ → Reallocation) :
    Access (Bool × SoapActionOutput) :=
  match nxcastSizeMultiply text.length 6 with
  | none => return (false, out)
  | some worstCase => do
    let (ok, out) ← out.reserve worstCase (reallocations text.length)
    if !ok then return (false, out)
    escapeLoop reallocations text out

end SoapActionOutput

/-! ## Runs -/

/-- A call on an output. -/
inductive SoapWriterCall where
  | reserve (extra : ℕ)
  | append (text : List UInt8)
  | appendf (text : Option (List UInt8))
  | appendEscaped (text : List UInt8)
  | clear
  | dispose

/-- A call, with what `realloc` answers: whether it succeeds, and what it leaves. -/
def SoapActionOutput.call (reallocations : ℕ → Reallocation) (out : SoapActionOutput) :
    SoapWriterCall → Access (Bool × SoapActionOutput)
  | .reserve extra => out.reserve extra (reallocations 0)
  | .append text => out.append text (reallocations 0)
  | .appendf text => out.appendf text (reallocations 0)
  | .appendEscaped text => out.appendEscaped text reallocations
  | .clear => do return (true, ← out.clear)
  | .dispose => return (true, .zero)

/-- The text there is to be after a call that succeeded. -/
def SoapWriterCall.text (written : List UInt8) : SoapWriterCall → List UInt8
  | .reserve _ => written
  | .append text => written ++ text
  | .appendf text => written ++ text.getD []
  | .appendEscaped text => written ++ xmlEscaped text
  | .clear | .dispose => []

/-- Calls one after the other: the output, and the text there is to be; a call that fails leaves the
text as it is. -/
def SoapActionOutput.run (out : SoapActionOutput) (written : List UInt8) :
    List (SoapWriterCall × (ℕ → Reallocation)) → Access (SoapActionOutput × List UInt8)
  | [] => return (out, written)
  | (call, reallocations) :: calls => do
    let (ok, out) ← out.call reallocations call
    out.run (if ok then call.text written else written) calls

namespace SoapActionOutput

/-- The output holds a text and its terminator, or has no buffer. -/
structure Holds (out : SoapActionOutput) (text : List UInt8) : Prop where
  len : out.outputLen = text.length
  cap : out.outputCap ≤ soapHandlerOutputMax
  block : out.outputXml = none ∧ out.outputCap = 0 ∧ text = [] ∨ ∃ block,
    out.outputXml = some block ∧ block.length = out.outputCap ∧ text ++ [0] <+: block

variable {out : SoapActionOutput} {text block data : List UInt8} {place extra : ℕ}

section Holds

variable (h : out.Holds text)

include h

lemma Holds.room : out.outputLen < out.outputCap ∨ out.outputLen = 0 ∧ out.outputCap = 0 := by
  obtain ⟨hlen, -, ⟨-, hcap, rfl⟩ | ⟨block, -, hblock, hpfx⟩⟩ := h
  · exact .inr ⟨hlen, hcap⟩
  have hle := hpfx.length_le
  rw [length_append, length_singleton] at hle
  exact .inl (by omega)

/-- Where there is room there is a block. -/
lemma Holds.some_block (hroom : 0 < out.outputCap) :
    ∃ block, out.outputXml = some block ∧ block.length = out.outputCap ∧ text ++ [0] <+: block :=
  h.block.resolve_left fun hnone => hroom.ne' hnone.2.1

end Holds

lemma write_eq (hxml : out.outputXml = some block) (hroom : place + data.length ≤ block.length) :
    out.write place data = .ok { out with outputXml := some (stored block place data) } := by
  rw [write, hxml]
  dsimp only
  rw [store_eq hroom]
  rfl

/-- A terminator behind the first bytes of a block. -/
lemma prefix_stored (hpfx : text <+: block) : text ++ data <+: stored block text.length data := by
  rw [stored, ← prefix_iff_eq_take.mp hpfx]
  exact prefix_append _ _

lemma needed_eq {len : ℕ} (hlen : len ≤ soapHandlerOutputMax) :
    (nxcastSizeAdd len extra).bind (nxcastSizeAdd · 1) =
      if len + extra + 1 < 2 ^ 64 then some (len + extra + 1) else none := by
  unfold soapHandlerOutputMax at hlen
  unfold nxcastSizeAdd
  grind

/-- A block that grows keeps its first bytes. -/
lemma Holds.enlarge (h : out.Holds text) {capacity : ℕ} (hlt : out.outputCap < capacity)
    (hmax : capacity ≤ soapHandlerOutputMax) (fresh : ℕ → UInt8) :
    ∃ after, out.enlarge capacity fresh = .ok after ∧ after.Holds text ∧ after.outputCap = capacity := by
  have hheld : (out.outputXml.getD []).length = out.outputCap ∧
      (text = [] ∨ text ++ [0] <+: out.outputXml.getD []) := by
    rcases h.block with ⟨hnone, hcap, htext⟩ | ⟨block, hsome, hlen, hpfx⟩
    · rw [hnone]
      exact ⟨hcap.symm, .inl htext⟩
    · rw [hsome]
      exact ⟨hlen, .inr hpfx⟩
  unfold SoapActionOutput.enlarge
  dsimp only
  rw [take_of_length_le (by omega), hheld.1]
  generalize hblock : out.outputXml.getD [] ++ (range (capacity - out.outputCap)).map fresh = block
  have hlength : block.length = capacity := by
    rw [← hblock, length_append, length_map, length_range, hheld.1]
    omega
  split_ifs with hempty
  · have hroom : 0 + [(0 : UInt8)].length ≤ block.length := hlength ▸ Nat.zero_lt_of_lt hlt
    obtain rfl : text = [] := length_eq_zero_iff.mp (h.len ▸ hempty)
    rw [write_eq rfl hroom]
    exact ⟨_, rfl, ⟨h.len, hmax, .inr ⟨_, rfl, (length_stored hroom).trans hlength,
      prefix_stored nil_prefix⟩⟩, rfl⟩
  refine ⟨_, rfl, ⟨h.len, hmax, .inr ⟨_, rfl, hlength, (hheld.2.resolve_left ?_).trans
    (hblock ▸ prefix_append _ _)⟩⟩, rfl⟩
  rintro rfl
  exact hempty h.len

/-- **Reserving** keeps the text; where it succeeds there is room, and where there was room nothing
happens. -/
lemma Holds.reserve (h : out.Holds text) (extra : ℕ) (reallocation : Reallocation) :
    ∃ ok after, out.reserve extra reallocation = .ok (ok, after) ∧ after.Holds text ∧
      (ok = true → text.length + extra < after.outputCap) ∧
      (text.length + extra < out.outputCap → ok = true ∧ after = out) := by
  have hroom := h.room
  have hlen := h.len
  have hcap := h.cap
  rw [SoapActionOutput.reserve, if_neg, needed_eq (by omega)]
  · split_ifs with hwrap
    · dsimp only
      split_ifs with hover henough
      · exact ⟨false, out, rfl, h, nofun, by omega⟩
      · exact ⟨true, out, rfl, h, fun _ => by omega, fun _ => ⟨rfl, rfl⟩⟩
      obtain ⟨grown, hgrow, -, hbounds⟩ := nxcastSizeGrow_eq
        (show soapHandlerOutputMax < 2 ^ 64 by decide) out.outputCap soapWriterInitialCap
      rw [hgrow, ok_bind]
      match hgrown : grown, reallocation with
      | some capacity, some fresh =>
        obtain ⟨hneeded, hmax⟩ := hbounds capacity rfl
        obtain ⟨after, hafter, hholds, hcapacity⟩ := h.enlarge (by omega) hmax fresh
        dsimp only
        rw [hafter]
        exact ⟨true, after, rfl, hholds, fun _ => by omega, by omega⟩
      | none, _ => exact ⟨false, out, rfl, h, nofun, by omega⟩
      | some _, none => exact ⟨false, out, rfl, h, nofun, by omega⟩
    · exact ⟨false, out, rfl, h, nofun, by unfold soapHandlerOutputMax at hcap; omega⟩
  · rintro (hover | ⟨hpos, hnone⟩)
    · omega
    · obtain ⟨block, hblock, -⟩ := h.some_block hpos
      exact nomatch hblock.symm.trans hnone

/-- A text written behind the one that is there, with its terminator. -/
lemma Holds.stored (h : out.Holds text) (hxml : out.outputXml = some block)
    (hroom : text.length + data.length < out.outputCap) :
    Holds { out with
      outputXml := some (stored block out.outputLen (data ++ [0]))
      outputLen := out.outputLen + data.length } (text ++ data) := by
  obtain ⟨block', hblock, hlength, hpfx⟩ := h.some_block (by omega)
  cases hxml.symm.trans hblock
  refine ⟨?_, h.cap, .inr ⟨_, rfl, (length_stored ?_).trans hlength, ?_⟩⟩
  · rw [h.len, length_append]
  · rw [h.len, length_append, hlength]
    exact hroom
  · rw [h.len, append_assoc]
    exact prefix_stored ((prefix_append _ _).trans hpfx)

/-- **Appending** writes the text or leaves the one that is there; where there is room it does not
fail. -/
lemma Holds.append (h : out.Holds text) (data : List UInt8) (reallocation : Reallocation) :
    ∃ ok after, out.append data reallocation = .ok (ok, after) ∧
      after.Holds (if ok then text ++ data else text) ∧
      (text.length + data.length < out.outputCap → ok = true ∧ after.outputCap = out.outputCap) := by
  obtain ⟨ok, after, hreserve, hafter, hok, hsame⟩ := h.reserve data.length reallocation
  rw [SoapActionOutput.append, hreserve, ok_bind]
  cases ok with
  | false => exact ⟨false, after, rfl, hafter, fun hroom => nomatch (hsame hroom).1⟩
  | true =>
    have hroom := hok rfl
    obtain ⟨block, hblock, hlength, -⟩ := hafter.some_block (by omega)
    have hlen := hafter.len
    have hcap := hafter.cap
    have hdata : after.copy data =
        .ok { after with outputXml := some (Checked.stored block after.outputLen data) } := by
      rw [copy]
      cases data with
      | nil =>
        rw [if_neg (by simp), stored_nil, ← hblock]
        rfl
      | cons byte data => rw [if_pos (by simp), write_eq hblock (by omega)]
    dsimp only
    rw [Bool.not_true, if_neg Bool.false_ne_true, hdata, ok_bind,
      sizeAdd_eq (by dsimp only; unfold soapHandlerOutputMax at hcap; omega), ok_bind, write_eq rfl, ok_bind,
      stored_stored (by omega)]
    · refine ⟨true, _, rfl, hafter.stored hblock hroom, fun hroom => ⟨rfl, ?_⟩⟩
      rw [(hsame hroom).2]
    · rw [length_stored (by omega)]
      simp
      omega

lemma Holds.appendf (h : out.Holds text) (data : Option (List UInt8)) (reallocation : Reallocation) :
    ∃ ok after, out.appendf data reallocation = .ok (ok, after) ∧
      after.Holds (if ok then text ++ data.getD [] else text) := by
  cases data with
  | none => exact ⟨false, out, rfl, h⟩
  | some data =>
    obtain ⟨ok, after, hreserve, hafter, hok, -⟩ := h.reserve data.length reallocation
    rw [SoapActionOutput.appendf, hreserve, ok_bind]
    cases ok with
    | false => exact ⟨false, after, rfl, hafter⟩
    | true =>
      have hroom := hok rfl
      obtain ⟨block, hblock, hlength, -⟩ := hafter.some_block (by omega)
      have hlen := hafter.len
      have hcap := hafter.cap
      dsimp only
      rw [Bool.not_true, if_neg Bool.false_ne_true, sizeSub_eq (by omega), ok_bind,
        take_of_length_le (by omega), write_eq hblock (by simp; omega), ok_bind,
        sizeAdd_eq (by dsimp only; unfold soapHandlerOutputMax at hcap; omega), ok_bind]
      exact ⟨true, _, rfl, hafter.stored hblock hroom⟩

/-- The loop has the room that was reserved, so no turn of it fails. -/
lemma Holds.escapeLoop (h : out.Holds text) (hroom : text.length + data.length * 6 < out.outputCap)
    (reallocations : ℕ → Reallocation) :
    ∃ after, escapeLoop reallocations data out = .ok (true, after) ∧
      after.Holds (text ++ xmlEscaped data) := by
  induction data generalizing out text with
  | nil => exact ⟨out, rfl, by rwa [xmlEscaped, flatMap_nil, append_nil]⟩
  | cons byte data ih =>
    have hbyte := length_xmlReplacement_le byte
    rw [length_cons] at hroom
    obtain ⟨ok, after, happend, hafter, hok⟩ := h.append (xmlReplacement byte) (reallocations data.length)
    obtain ⟨rfl, hcap⟩ := hok (by omega)
    obtain ⟨last, hlast, hholds⟩ := ih hafter (by rw [if_pos rfl, length_append]; omega)
    refine ⟨last, ?_, by rwa [if_pos rfl, append_assoc] at hholds⟩
    rw [SoapActionOutput.escapeLoop, happend]
    exact hlast

lemma Holds.appendEscaped (h : out.Holds text) (data : List UInt8) (reallocations : ℕ → Reallocation) :
    ∃ ok after, out.appendEscaped data reallocations = .ok (ok, after) ∧
      after.Holds (if ok then text ++ xmlEscaped data else text) := by
  rw [SoapActionOutput.appendEscaped, nxcastSizeMultiply]
  split_ifs with hlarge
  · exact ⟨false, out, rfl, h⟩
  obtain ⟨ok, after, hreserve, hafter, hok, -⟩ := h.reserve (data.length * 6) (reallocations data.length)
  dsimp only
  rw [hreserve, ok_bind]
  cases ok with
  | false => exact ⟨false, after, rfl, hafter⟩
  | true =>
    obtain ⟨last, hlast, hholds⟩ := hafter.escapeLoop (hok rfl) reallocations
    exact ⟨true, last, hlast, hholds⟩

lemma Holds.clear (h : out.Holds text) : ∃ after, out.clear = .ok after ∧ after.Holds [] := by
  rw [SoapActionOutput.clear]
  dsimp only
  rcases h.block with ⟨hnone, hcap, -⟩ | ⟨block, hblock, hlength, hpfx⟩
  · rw [if_neg (by simp [hnone])]
    exact ⟨_, rfl, rfl, h.cap, .inl ⟨hnone, hcap, rfl⟩⟩
  have hone := hpfx.length_le
  rw [length_append] at hone
  have hroom : 0 + [(0 : UInt8)].length ≤ block.length := by omega
  rw [if_pos ⟨hblock ▸ nofun, hlength ▸ hroom⟩,
    write_eq (show ({ out with outputLen := 0 } : SoapActionOutput).outputXml = _ from hblock) hroom]
  exact ⟨_, rfl, rfl, h.cap, .inr ⟨_, rfl, (length_stored hroom).trans hlength, prefix_stored nil_prefix⟩⟩

lemma holds_zero : zero.Holds [] := ⟨rfl, Nat.zero_le _, .inl ⟨rfl, rfl, rfl⟩⟩

lemma Holds.call (h : out.Holds text) (call : SoapWriterCall) (reallocations : ℕ → Reallocation) :
    ∃ ok after, out.call reallocations call = .ok (ok, after) ∧
      after.Holds (if ok then call.text text else text) := by
  cases call with
  | reserve extra =>
    obtain ⟨ok, after, hreserve, hafter, -⟩ := h.reserve extra (reallocations 0)
    exact ⟨ok, after, hreserve, by rwa [SoapWriterCall.text, ite_self]⟩
  | append data =>
    obtain ⟨ok, after, happend, hafter, -⟩ := h.append data (reallocations 0)
    exact ⟨ok, after, happend, hafter⟩
  | appendf data => exact h.appendf data (reallocations 0)
  | appendEscaped data => exact h.appendEscaped data reallocations
  | clear =>
    obtain ⟨after, hclear, hafter⟩ := h.clear
    rw [SoapActionOutput.call, hclear]
    exact ⟨true, after, rfl, hafter⟩
  | dispose => exact ⟨true, zero, rfl, holds_zero⟩

lemma Holds.run (h : out.Holds text) (calls : List (SoapWriterCall × (ℕ → Reallocation))) :
    ∃ after written, out.run text calls = .ok (after, written) ∧ after.Holds written := by
  induction calls generalizing out text with
  | nil => exact ⟨out, text, rfl, h⟩
  | cons entry calls ih =>
    obtain ⟨ok, after, hcall, hafter⟩ := h.call entry.1 entry.2
    obtain ⟨last, written, hlast, hholds⟩ := ih hafter
    exact ⟨last, written, by rw [SoapActionOutput.run, hcall]; exact hlast, hholds⟩

end SoapActionOutput

/-- **The buffer of a response.** Whatever is called on an output that was all zero, and whatever the
allocator answers, nothing is written outside the block, and the output holds the text that the calls
that succeeded have made since it was last cleared: its length is below the capacity, or both are 0, the
capacity is within the limit, and a block has the text and behind it the terminator. -/
theorem soapWriter_represents (calls : List (SoapWriterCall × (ℕ → Reallocation))) :
    ∃ out written, SoapActionOutput.zero.run [] calls = .ok (out, written) ∧
      (out.outputLen < out.outputCap ∨ out.outputLen = 0 ∧ out.outputCap = 0) ∧
      out.outputCap ≤ soapHandlerOutputMax ∧ out.outputLen = written.length ∧
      match out.outputXml with
      | none => out.outputCap = 0
      | some block => block.length = out.outputCap ∧ block.take out.outputLen = written ∧
        block[out.outputLen]? = some 0 := by
  obtain ⟨out, written, hrun, hholds⟩ := SoapActionOutput.holds_zero.run calls
  refine ⟨out, written, hrun, hholds.room, hholds.cap, hholds.len, ?_⟩
  rw [hholds.len]
  rcases hholds.block with ⟨hnone, hcap, -⟩ | ⟨block, hblock, hlength, rest, hrest⟩
  · rwa [hnone]
  rw [hblock]
  refine ⟨hlength, ?_, ?_⟩
  · rw [← hrest, append_assoc, take_left]
  · rw [← hrest, append_assoc, getElem?_append_right le_rfl, Nat.sub_self]
    rfl

end NXCast

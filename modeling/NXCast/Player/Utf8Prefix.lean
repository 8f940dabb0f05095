import Mathlib.Data.FinEnum
import NXCast.Framework.CString
import NXCast.Framework.Checked
import NXCast.Framework.Unicode

/-!
# The text that a UI field keeps

`player_utf8_copy_prefix` copies the front of a string into a buffer, without cutting a character, and stops
at the first bytes that are no UTF-8.
-/

namespace NXCast

open Checked List

/-! ## The code -/

/-- The loop of `utf8_sequence_length` over the bytes behind the first; nothing is its early return. -/
def utf8Codepoint (memory : List UInt8) (place : ℕ) : ℕ → ℕ → Access (Option ℕ)
  | 0, codepoint => .ok (some codepoint)
  | count + 1, codepoint => do
    let byte ← loadByte memory place
    if byte.toNat &&& 0xc0 ≠ 0x80 then .ok none
    else utf8Codepoint memory (place + 1) count (codepoint <<< 6 ||| (byte.toNat &&& 0x3f))

/-- `utf8_sequence_length` where the first byte has set `length` and `codepoint`. -/
def utf8SequenceChecked (memory : List UInt8) (place available length codepoint : ℕ) : Access ℕ := do
  if available < length then .ok 0
  else
    match ← utf8Codepoint memory (place + 1) (length - 1) codepoint with
    | none => .ok 0
    | some codepoint =>
      if (length = 3 ∧ codepoint < 0x800) ∨ (length = 4 ∧ codepoint < 0x10000) ∨
          (0xd800 ≤ codepoint ∧ codepoint ≤ 0xdfff) ∨ 0x10ffff < codepoint then .ok 0
      else .ok length

/-- `utf8_sequence_length` -/
def utf8SequenceLength (memory : List UInt8) (place available : ℕ) : Access ℕ := do
  let first ← loadByte memory place
  let first := first.toNat
  if first < 0x80 then .ok 1
  else if 0xc2 ≤ first ∧ first ≤ 0xdf then
    utf8SequenceChecked memory place available 2 (first &&& 0x1f)
  else if 0xe0 ≤ first ∧ first ≤ 0xef then
    utf8SequenceChecked memory place available 3 (first &&& 0x0f)
  else if 0xf0 ≤ first ∧ first ≤ 0xf4 then
    utf8SequenceChecked memory place available 4 (first &&& 0x07)
  else .ok 0

/-- The loop of `player_utf8_copy_prefix` with what is in the output, and what may remain of its rounds. -/
def utf8CopyLoop (memory : List UInt8) (inputLength inputByteLimit outputSize : ℕ) :
    ℕ → ℕ → List UInt8 → Access (List UInt8)
  | 0, _, _ => .error .endless
  | rounds + 1, inputOffset, output => do
    if inputOffset < inputLength ∧ inputOffset < inputByteLimit then
      let sequenceLength ← utf8SequenceLength memory inputOffset (inputLength - inputOffset)
      if sequenceLength = 0 ∨ inputByteLimit < inputOffset + sequenceLength ∨
          outputSize ≤ output.length + sequenceLength then
        return output
      let character ← loadBytes memory inputOffset sequenceLength
      utf8CopyLoop memory inputLength inputByteLimit outputSize rounds (inputOffset + sequenceLength)
        (output ++ character)
    else return output

/-- `player_utf8_copy_prefix` with what it has written to the output in the end; an output that is not there
has no size.  The memory of the input ends with the terminator. -/
def playerUtf8CopyPrefix (outputSize : ℕ) (input : Option CString) (inputByteLimit : ℕ) :
    Access (ℕ × List UInt8) := do
  if outputSize = 0 then return (0, [])
  match input with
  | none => return (0, [0])
  | some input =>
    let output ← utf8CopyLoop (input.bytes ++ [0]) input.strlen inputByteLimit outputSize
      (input.strlen + 1) 0 []
    return (output.length, output ++ [0])

/-! ## Well-formed text -/

/-- A byte behind the first of a character. -/
def Utf8Tail (byte : UInt8) : Prop := 0x80 ≤ byte.toNat ∧ byte.toNat ≤ 0xbf

/-- The well-formed byte sequences of one character, row by row of Table 3-7 of the Unicode Standard. -/
def Utf8Character : List UInt8 → Prop
  | [first] => first.toNat ≤ 0x7f
  | [first, second] => 0xc2 ≤ first.toNat ∧ first.toNat ≤ 0xdf ∧ Utf8Tail second
  | [first, second, third] =>
    ((first.toNat = 0xe0 ∧ 0xa0 ≤ second.toNat ∧ second.toNat ≤ 0xbf) ∨
      (0xe1 ≤ first.toNat ∧ first.toNat ≤ 0xec ∧ Utf8Tail second) ∨
      (first.toNat = 0xed ∧ 0x80 ≤ second.toNat ∧ second.toNat ≤ 0x9f) ∨
      (0xee ≤ first.toNat ∧ first.toNat ≤ 0xef ∧ Utf8Tail second)) ∧ Utf8Tail third
  | [first, second, third, fourth] =>
    ((first.toNat = 0xf0 ∧ 0x90 ≤ second.toNat ∧ second.toNat ≤ 0xbf) ∨
      (0xf1 ≤ first.toNat ∧ first.toNat ≤ 0xf3 ∧ Utf8Tail second) ∨
      (first.toNat = 0xf4 ∧ 0x80 ≤ second.toNat ∧ second.toNat ≤ 0x8f)) ∧
        Utf8Tail third ∧ Utf8Tail fourth
  | _ => False

/-- A sequence of well-formed characters. -/
inductive Utf8Text : List UInt8 → Prop
  | nil : Utf8Text []
  | character {bytes text : List UInt8} (h : Utf8Character bytes) (htext : Utf8Text text) :
      Utf8Text (bytes ++ text)

instance : DecidablePred Utf8Tail := fun byte =>
  inferInstanceAs (Decidable (0x80 ≤ byte.toNat ∧ byte.toNat ≤ 0xbf))

instance : DecidablePred Utf8Character
  | [] => isFalse id
  | [_] => inferInstanceAs (Decidable (_ ≤ _))
  | [_, _] => inferInstanceAs (Decidable (_ ∧ _ ∧ _))
  | [_, _, _] => inferInstanceAs (Decidable ((_ ∨ _ ∨ _ ∨ _) ∧ _))
  | [_, _, _, _] => inferInstanceAs (Decidable ((_ ∨ _ ∨ _) ∧ _ ∧ _))
  | _ :: _ :: _ :: _ :: _ :: _ => isFalse id

/-- The first byte of a character tells how many there are. -/
lemma Utf8Character.lead {first : UInt8} {tail : List UInt8} (h : Utf8Character (first :: tail)) :
    (first.toNat ≤ 0x7f ∧ tail.length = 0) ∨
      (0xc2 ≤ first.toNat ∧ first.toNat ≤ 0xdf ∧ tail.length = 1) ∨
      (0xe0 ≤ first.toNat ∧ first.toNat ≤ 0xef ∧ tail.length = 2) ∨
      (0xf0 ≤ first.toNat ∧ first.toNat ≤ 0xf4 ∧ tail.length = 3) := by
  match tail with
  | [] => exact .inl ⟨h, rfl⟩
  | [_] => exact .inr (.inl ⟨h.1, h.2.1, rfl⟩)
  | [_, _] =>
    obtain ⟨h, -⟩ := h
    refine .inr (.inr (.inl ⟨?_, ?_, rfl⟩)) <;> omega
  | [_, _, _] =>
    obtain ⟨h, -⟩ := h
    refine .inr (.inr (.inr ⟨?_, ?_, rfl⟩)) <;> omega
  | _ :: _ :: _ :: _ :: _ => exact h.elim

variable {bytes : List UInt8}

/-- Two characters at the front of one text are the same. -/
lemma Utf8Character.eq_of_prefix {bytes' text : List UInt8} (h : Utf8Character bytes)
    (h' : Utf8Character bytes') (hbytes : bytes <+: text) (hbytes' : bytes' <+: text) :
    bytes = bytes' := by
  cases bytes with
  | nil => exact h.elim
  | cons first tail =>
    cases bytes' with
    | nil => exact h'.elim
    | cons first' tail' =>
      cases text with
      | nil => exact absurd hbytes (by simp)
      | cons head text =>
        obtain ⟨rfl, htail⟩ := cons_prefix_cons.mp hbytes
        obtain ⟨rfl, htail'⟩ := cons_prefix_cons.mp hbytes'
        have hlead := h.lead
        have hlead' := h'.lead
        have hlen : tail.length = tail'.length := by omega
        rw [(prefix_of_prefix_length_le htail htail' hlen.le).eq_of_length hlen]

/-! ## One character -/

lemma land_tail (byte : UInt8) : byte.toNat &&& 0xc0 = 0x80 ↔ Utf8Tail byte := by
  rw [Unicode.land_c0 byte.toNat_lt, Utf8Tail]
  omega

lemma codepoint_next (codepoint : ℕ) (byte : UInt8) :
    codepoint <<< 6 ||| (byte.toNat &&& 0x3f) = codepoint * 64 + byte.toNat % 64 := by
  rw [Nat.and_two_pow_sub_one_eq_mod byte.toNat 6, Unicode.shiftLeft_or_of_lt 6 (n := 64) rfl (Nat.mod_lt _ (by decide))]

variable (front : List UInt8)

lemma loadByte_front (byte : UInt8) (rest : List UInt8) :
    loadByte (front ++ byte :: rest) front.length = .ok byte := by
  simp [loadByte]

/-- The loop over the bytes behind the first. -/
lemma utf8Codepoint_eq (tail : List UInt8) (front rest : List UInt8) (codepoint : ℕ) :
    utf8Codepoint (front ++ (tail ++ rest)) front.length tail.length codepoint =
      .ok (if ∀ byte ∈ tail, Utf8Tail byte then
        some (tail.foldl (fun codepoint byte => codepoint * 64 + byte.toNat % 64) codepoint) else none) := by
  induction tail generalizing front codepoint with
  | nil => simp [utf8Codepoint]
  | cons byte tail ih =>
    have hnext := ih (front ++ [byte]) (codepoint * 64 + byte.toNat % 64)
    rw [length_append, append_assoc, singleton_append, length_singleton] at hnext
    rw [length_cons, cons_append, utf8Codepoint, loadByte_front, ok_bind, codepoint_next, hnext]
    by_cases hbyte : Utf8Tail byte
    all_goals simp [land_tail, hbyte]

/-- What `utf8_sequence_length` finds at the front of a text: a character, or that there is none. -/
def FrontCharacter (text : List UInt8) (length : ℕ) : Prop :=
  (length = 0 ∧ ∀ bytes, Utf8Character bytes → ¬bytes <+: text) ∨
    (0 < length ∧ length ≤ text.length ∧ Utf8Character (text.take length))

/-- The check is right for a first byte that announces `length` bytes, if it is on all that there may be. -/
lemma utf8SequenceChecked_front {length codepoint : ℕ} {first : UInt8} (tail : List UInt8)
    (hpos : 0 < length) (hlead : ∀ more, Utf8Character (first :: more) → more.length + 1 = length)
    (hcheck : ∀ more : List UInt8, more.length + 1 = length →
      (Utf8Character (first :: more) ↔ (∀ byte ∈ more, Utf8Tail byte) ∧
        ∀ value, value = more.foldl (fun codepoint byte => codepoint * 64 + byte.toNat % 64) codepoint →
          ¬((length = 3 ∧ value < 0x800) ∨ (length = 4 ∧ value < 0x10000) ∨
            (0xd800 ≤ value ∧ value ≤ 0xdfff) ∨ 0x10ffff < value))) :
    ∃ found, utf8SequenceChecked (front ++ (first :: tail ++ [0])) front.length (tail.length + 1)
      length codepoint = .ok found ∧ FrontCharacter (first :: tail) found := by
  -- a character at the front is the bytes that the first announces
  have hnone (h : ¬Utf8Character ((first :: tail).take length) ∨ tail.length + 1 < length) :
      FrontCharacter (first :: tail) 0 := by
    refine .inl ⟨rfl, fun bytes hbytes hpfx => ?_⟩
    cases bytes with
    | nil => exact hbytes
    | cons head more =>
      obtain ⟨rfl, hmore⟩ := cons_prefix_cons.mp hpfx
      have hlen := hlead more hbytes
      have hle := hmore.length_le
      rcases h with h | h
      · have htake := prefix_iff_eq_take.mp hpfx
        rw [length_cons, hlen] at htake
        exact h (htake ▸ hbytes)
      · omega
  unfold utf8SequenceChecked
  by_cases hshort : tail.length + 1 < length
  · rw [if_pos hshort]
    exact ⟨0, rfl, hnone (.inr hshort)⟩
  rw [if_neg hshort]
  have htake : (first :: tail).take length = first :: tail.take (length - 1) := by
    rw [take_cons hpos]
  have hmore : (tail.take (length - 1)).length = length - 1 := by
    rw [length_take]
    omega
  have hread := utf8Codepoint_eq (tail.take (length - 1)) (front ++ [first])
    (tail.drop (length - 1) ++ [0]) codepoint
  rw [← append_assoc (take _ _), take_append_drop, hmore, length_append, length_singleton,
    append_assoc, singleton_append] at hread
  have hiff := hcheck (tail.take (length - 1)) (by omega)
  rw [cons_append, hread, ok_bind]
  by_cases htail : ∀ byte ∈ tail.take (length - 1), Utf8Tail byte
  · rw [if_pos htail]
    dsimp only
    split_ifs with hbad
    · refine ⟨0, rfl, hnone (.inl ?_)⟩
      rw [htake, hiff]
      exact fun h => h.2 _ rfl hbad
    · refine ⟨length, rfl, .inr ⟨hpos, by simpa using hshort, ?_⟩⟩
      rw [htake, hiff]
      exact ⟨htail, fun value hvalue => hvalue ▸ hbad⟩
  · rw [if_neg htail]
    refine ⟨0, rfl, hnone (.inl ?_)⟩
    rw [htake, hiff]
    exact fun h => htail h.1

lemma utf8SequenceLength_front (first : UInt8) (tail : List UInt8) :
    ∃ length, utf8SequenceLength (front ++ (first :: tail ++ [0])) front.length (tail.length + 1) =
      .ok length ∧ FrontCharacter (first :: tail) length := by
  unfold utf8SequenceLength
  rw [cons_append, loadByte_front, ok_bind, ← cons_append]
  dsimp only
  split_ifs with hone htwo hthree hfour
  · exact ⟨1, rfl, .inr ⟨by decide, by simp, Nat.le_of_lt_succ hone⟩⟩
  · rw [Nat.and_two_pow_sub_one_eq_mod first.toNat 5]
    refine utf8SequenceChecked_front front tail (by decide) (fun more h => ?_) fun more hmore => ?_
    · have hlead := h.lead
      omega
    · obtain ⟨second, rfl⟩ := length_eq_one_iff.mp (by omega : more.length = 1)
      simp [Utf8Character, Utf8Tail]
      omega
  · rw [Nat.and_two_pow_sub_one_eq_mod first.toNat 4]
    refine utf8SequenceChecked_front front tail (by decide) (fun more h => ?_) fun more hmore => ?_
    · have hlead := h.lead
      omega
    · obtain ⟨second, third, rfl⟩ := length_eq_two.mp (by omega : more.length = 2)
      simp [Utf8Character, Utf8Tail]
      omega
  · rw [Nat.and_two_pow_sub_one_eq_mod first.toNat 3]
    refine utf8SequenceChecked_front front tail (by decide) (fun more h => ?_) fun more hmore => ?_
    · have hlead := h.lead
      omega
    · obtain ⟨second, third, fourth, rfl⟩ := length_eq_three.mp (by omega : more.length = 3)
      simp [Utf8Character, Utf8Tail]
      omega
  · refine ⟨0, rfl, .inl ⟨rfl, fun bytes hbytes hpfx => ?_⟩⟩
    cases bytes with
    | nil => exact hbytes
    | cons head more =>
      obtain ⟨rfl, -⟩ := cons_prefix_cons.mp hpfx
      have hlead := hbytes.lead
      omega

/-! ## The copy -/

/-- The longest text at the front of some bytes that both limits leave room for. -/
structure LongestText (bytes : List UInt8) (limit size length : ℕ) : Prop where
  le_length : length ≤ bytes.length
  le_limit : length ≤ limit
  lt_size : length < size
  text : Utf8Text (bytes.take length)
  longest : ∀ other ≤ bytes.length, other ≤ limit → other < size → Utf8Text (bytes.take other) →
    other ≤ length

lemma Utf8Character.ne_nil (h : Utf8Character bytes) : bytes ≠ [] := by
  rintro rfl
  exact h

/-- A longest text begins with the character that is at the front. -/
lemma front_of_text {other : ℕ} (h : Utf8Text (bytes.take other)) (hpos : 0 < other)
    (hle : other ≤ bytes.length) :
    ∃ character text, Utf8Character character ∧ Utf8Text text ∧ bytes.take other = character ++ text ∧
      character <+: bytes := by
  generalize hbytes : bytes.take other = front at h
  cases h with
  | nil =>
    have hlen := congrArg length hbytes
    rw [length_take, length_nil] at hlen
    omega
  | character hcharacter htext =>
    exact ⟨_, _, hcharacter, htext, rfl, ⟨_ ++ bytes.drop other, by
      rw [← append_assoc, ← hbytes, take_append_drop]⟩⟩

lemma longestText_zero {limit size found : ℕ} (hsize : 0 < size)
    (hfound : FrontCharacter bytes found) (hstop : found = 0 ∨ limit < found ∨ size ≤ found) :
    LongestText bytes limit size 0 := by
  refine ⟨Nat.zero_le _, Nat.zero_le _, hsize, .nil, fun other hle hlimit hlt htext => ?_⟩
  by_contra hpos
  obtain ⟨character, text, hcharacter, -, htake, hpfx⟩ := front_of_text htext (by omega) hle
  rcases hfound with ⟨rfl, hnone⟩ | ⟨hsome, hroom, hfront⟩
  · exact hnone character hcharacter hpfx
  have hsame := hcharacter.eq_of_prefix hfront hpfx ( take_prefix _ _)
  have hlen := congrArg length htake
  have hlen' := congrArg length hsame
  rw [length_append, length_take] at hlen
  rw [length_take] at hlen'
  omega

/-- Behind the character at the front the longest text goes on. -/
lemma LongestText.character {limit size found length : ℕ}
    (h : LongestText (bytes.drop found) (limit - found) (size - found) length) (hle : found ≤ bytes.length)
    (hfound : Utf8Character (bytes.take found)) (hlimit : found ≤ limit) :
    LongestText bytes limit size (found + length) := by
  have hdrop := h.le_length
  have hlt := h.lt_size
  have hlim := h.le_limit
  rw [length_drop] at hdrop
  refine ⟨by omega, by omega, by omega, ?_, fun other hother hother' hother'' htext => ?_⟩
  · rw [take_add]
    exact .character hfound h.text
  rcases Nat.eq_zero_or_pos other with rfl | hpos
  · exact Nat.zero_le _
  obtain ⟨character, text, hcharacter, hmore, htake, hpfx⟩ := front_of_text htext hpos hother
  have hsame := hcharacter.eq_of_prefix hfound hpfx ( take_prefix _ _)
  have hlen := congrArg List.length htake
  rw [hsame, length_append, length_take, length_take] at hlen
  have hrest : (bytes.drop found).take (other - found) = text := by
    have hsplit := take_add (l := bytes) (i := found) (j := other - found)
    rw [Nat.add_sub_cancel' (by omega), htake, hsame] at hsplit
    exact (append_cancel_left hsplit).symm
  have hlongest := h.longest (other - found) (by rw [length_drop]; omega) (by omega) (by omega)
    (hrest ▸ hmore)
  omega

/-- The text at the front of what is left, behind what has been copied. -/
lemma utf8CopyLoop_longest (rounds : ℕ) (rest front : List UInt8) (limit size : ℕ)
    (hlimit : front.length ≤ limit) (hsize : front.length < size) (hrounds : rest.length < rounds) :
    ∃ length, utf8CopyLoop (front ++ (rest ++ [0])) (front.length + rest.length) limit size rounds
        front.length front = .ok (front ++ rest.take length) ∧
      LongestText rest (limit - front.length) (size - front.length) length := by
  induction rounds generalizing rest front with
  | zero => exact absurd hrounds (Nat.not_lt_zero _)
  | succ rounds ih =>
    have hdone (found : ℕ) (hfound : FrontCharacter rest found)
        (hstop : found = 0 ∨ limit - front.length < found ∨ size - front.length ≤ found) :
        ∃ length, (Except.ok front : Access _) = .ok (front ++ rest.take length) ∧
          LongestText rest (limit - front.length) (size - front.length) length :=
      ⟨0, by rw [take_zero, append_nil], longestText_zero (by omega) hfound hstop⟩
    unfold utf8CopyLoop
    cases rest with
    | nil =>
      rw [if_neg (by simp)]
      refine hdone 0 (.inl ⟨rfl, fun bytes hbytes hpfx => ?_⟩) (.inl rfl)
      exact hbytes.ne_nil (prefix_nil.mp hpfx)
    | cons first tail =>
      obtain ⟨found, hread, hfound⟩ := utf8SequenceLength_front front first tail
      rw [Nat.add_sub_cancel_left]
      generalize hrest : first :: tail = rest at *
      have hlen : rest.length = tail.length + 1 := by rw [← hrest, length_cons]
      split
      · rw [hlen, hread, ok_bind]
        split_ifs with hstop
        · exact hdone found hfound (by omega)
        obtain ⟨hpos, hroom, hcharacter⟩ := hfound.resolve_left fun h => hstop (.inl h.1)
        have htake : (front ++ rest.take found).length = front.length + found := by
          rw [length_append, length_take_of_le hroom]
        have hload : loadBytes (front ++ (rest ++ [0])) front.length found = .ok (rest.take found) := by
          rw [loadBytes_eq (by simp only [length_append]; omega), drop_left, take_append_of_le_length hroom]
        obtain ⟨length, hloop, hlongest⟩ := ih (rest.drop found) (front ++ rest.take found)
          (by omega) (by omega) (by rw [length_drop]; omega)
        rw [append_assoc, ← append_assoc (take _ _), take_append_drop, htake, length_drop, Nat.add_assoc,
          Nat.add_sub_cancel' hroom, hlen] at hloop
        rw [htake, ← Nat.sub_sub, ← Nat.sub_sub] at hlongest
        refine ⟨found + length, ?_, hlongest.character hroom hcharacter (by omega)⟩
        rw [hload, ok_bind, hloop, take_add, append_assoc]
      · rename_i hstop
        exact hdone found hfound (by omega)

/-- `player_utf8_copy_prefix` reads nothing behind the terminator of its input, copies the longest text that is
at the front of it within both limits, and terminates it. -/
theorem playerUtf8CopyPrefix_longest (outputSize : ℕ) (input : Option CString) (limit : ℕ) :
    ∃ length, playerUtf8CopyPrefix outputSize input limit = .ok (length,
        if outputSize = 0 then [] else (input.elim [] CString.bytes).take length ++ [0]) ∧
      (outputSize = 0 → length = 0) ∧
      (0 < outputSize → LongestText (input.elim [] CString.bytes) limit outputSize length) := by
  unfold playerUtf8CopyPrefix
  rcases Nat.eq_zero_or_pos outputSize with rfl | hpos
  · exact ⟨0, rfl, fun _ => rfl, fun h => absurd h (Nat.lt_irrefl 0)⟩
  rw [if_neg hpos.ne']
  have hsize (h : outputSize = 0) : False := hpos.ne' h
  cases input with
  | none =>
    exact ⟨0, by rw [if_neg hpos.ne']; rfl, fun _ => rfl, fun _ =>
      ⟨le_rfl, Nat.zero_le _, hpos, .nil, fun _ hother _ _ _ => hother⟩⟩
  | some input =>
    obtain ⟨length, hloop, hlongest⟩ := utf8CopyLoop_longest (input.bytes.length + 1) input.bytes [] limit
      outputSize (Nat.zero_le _) hpos (Nat.lt_succ_self _)
    rw [nil_append, nil_append, length_nil, Nat.zero_add] at hloop
    refine ⟨length, ?_, fun h => (hsize h).elim, fun _ => hlongest⟩
    rw [if_neg hpos.ne']
    dsimp only
    rw [CString.strlen, hloop, ok_bind, length_take_of_le hlongest.le_length]
    rfl

end NXCast

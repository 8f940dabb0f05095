import Mathlib.Algebra.Group.Nat.Defs
import NXCast.Framework.CString

/-!
# Files of identifiers

`iptv_write_id_file` and `iptv_load_favorites`: a file of channel identifiers, one in eight hexadecimal
digits on each line.  The reader takes the file in the pieces that `fgets` gives it and reads each with
`sscanf("%x")`; what it makes of a file that the writer has written is `loadFavorites_idFileText`.
-/

namespace NXCast

open List

/-! ## The writer -/

/-- A digit of `%x`. -/
def hexDigit (value : ℕ) : UInt8 :=
  if value < 10 then UInt8.ofNat (0x30 + value) else UInt8.ofNat (0x61 + (value - 10))

/-- The places of a number of 32 bits in base 16, highest first. -/
def hexPlaces (value : ℕ) : List ℕ :=
  [value / 0x10000000 % 16, value / 0x1000000 % 16, value / 0x100000 % 16, value / 0x10000 % 16,
    value / 0x1000 % 16, value / 0x100 % 16, value / 0x10 % 16, value % 16]

/-- `%08x` -/
def hexId (id : UInt32) : List UInt8 := (hexPlaces id.toNat).map hexDigit

/-- What `iptv_write_id_file` writes. -/
def idFileText (ids : List UInt32) : List UInt8 := ids.flatMap fun id => hexId id ++ [0x0A]

/-! ## The reader -/

/-- The pieces of a text as `fgets` reads them into a buffer of `size` bytes, behind `line`. -/
def fgetsFrom (size : ℕ) (line : List UInt8) : List UInt8 → List (List UInt8)
  | [] => if line = [] then [] else [line]
  | byte :: text =>
    if byte = 0x0A ∨ line.length + 2 ≥ size then (line ++ [byte]) :: fgetsFrom size [] text
    else fgetsFrom size (line ++ [byte]) text

/-- `isspace` -/
def isSpace (byte : UInt8) : Bool := decide (byte = 0x20 ∨ (0x09 ≤ byte ∧ byte ≤ 0x0D))

/-- The value of a hexadecimal digit. -/
def hexValue (byte : UInt8) : Option ℕ :=
  if 0x30 ≤ byte ∧ byte ≤ 0x39 then some (byte.toNat - 0x30)
  else if 0x61 ≤ byte ∧ byte ≤ 0x66 then some (byte.toNat - 0x61 + 10)
  else if 0x41 ≤ byte ∧ byte ≤ 0x46 then some (byte.toNat - 0x41 + 10)
  else none

/-- The hexadecimal digits a text begins with. -/
def hexDigits : List UInt8 → List ℕ
  | [] => []
  | byte :: text =>
    match hexValue byte with
    | some value => value :: hexDigits text
    | none => []

/-- The number that digits spell. -/
def hexNumber (digits : List ℕ) : ℕ := digits.foldl (fun value digit => value * 16 + digit) 0

/-- The marker of a hexadecimal number is skipped. -/
def dropMarker : List UInt8 → List UInt8
  | 0x30 :: marker :: text =>
    if marker = 0x78 ∨ marker = 0x58 then 0x30 :: text else 0x30 :: marker :: text
  | text => text

/-- `sscanf(line, "%x", &value)`: the digits are read as an `unsigned long`, which keeps the largest one
when they spell more, and cut to 32 bits. -/
def scanHex (line : List UInt8) : Option UInt32 :=
  let text := (CString.ofBuffer line).bytes.dropWhile isSpace
  let negative := text.head? = some 0x2D
  let text := if text.head? = some 0x2D ∨ text.head? = some 0x2B then text.tail else text
  match hexDigits (dropMarker text) with
  | [] => none
  | digits =>
    let value := min (hexNumber digits) (2 ^ 64 - 1)
    some (if negative then 0 - UInt32.ofNat value else UInt32.ofNat value)

/-- `iptv_load_favorites` of a file that can be read, with memory: a line that spells no identifier is
skipped, and a file that is not there holds none. -/
def iptvLoadFavorites (file : Option (List UInt8)) : List UInt32 :=
  (fgetsFrom 40 [] (file.getD [])).filterMap fun line => (scanHex line).filter (· ≠ 0)

/-! ## Round trip -/

lemma fgetsFrom_line {size : ℕ} {line : List UInt8} (text : List UInt8) :
    ∀ before : List UInt8, 0x0A ∉ line → before.length + line.length + 2 ≤ size →
      fgetsFrom size before (line ++ 0x0A :: text) =
        (before ++ line ++ [0x0A]) :: fgetsFrom size [] text := by
  induction line with
  | nil =>
    intro before _ _
    rw [nil_append, fgetsFrom, if_pos (.inl rfl), append_nil]
  | cons byte line ih =>
    intro before hline hlen
    rw [mem_cons, not_or] at hline
    rw [length_cons] at hlen
    rw [cons_append, fgetsFrom, if_neg]
    · rw [ih (before ++ [byte]) hline.2 (by rw [length_append, length_singleton]; omega)]
      simp
    · rintro (heq | hlong)
      · exact hline.1 heq.symm
      · omega

lemma hexValue_hexDigit : ∀ value < 16, hexValue (hexDigit value) = some value := by
  decide

lemma hexDigit_ne : ∀ value < 16, hexDigit value ≠ 0x0A ∧ hexDigit value ≠ 0 ∧
    isSpace (hexDigit value) = false ∧ hexDigit value ≠ 0x2D ∧ hexDigit value ≠ 0x2B ∧
      hexDigit value ≠ 0x78 ∧ hexDigit value ≠ 0x58 := by
  decide

lemma hexPlaces_lt (value : ℕ) : ∀ place ∈ hexPlaces value, place < 16 := by
  intro place hplace
  simp only [hexPlaces, mem_cons, not_mem_nil, or_false] at hplace
  omega

lemma hexNumber_hexPlaces {value : ℕ} (h : value < 2 ^ 32) : hexNumber (hexPlaces value) = value := by
  simp only [hexNumber, hexPlaces, foldl_cons, foldl_nil]
  omega

lemma hexDigits_map (places : List ℕ) (h : ∀ place ∈ places, place < 16) {text : List UInt8}
    (htext : hexDigits text = []) : hexDigits (places.map hexDigit ++ text) = places := by
  induction places with
  | nil => exact htext
  | cons place places ih =>
    rw [map_cons, cons_append, hexDigits, hexValue_hexDigit place (h place mem_cons_self)]
    exact congrArg _ (ih fun other hother => h other (.tail _ hother))

lemma exists_hexDigit {id : UInt32} {byte : UInt8} (h : byte ∈ hexId id) :
    ∃ place < 16, byte = hexDigit place := by
  obtain ⟨place, hplace, rfl⟩ := mem_map.mp h
  exact ⟨place, hexPlaces_lt id.toNat place hplace, rfl⟩

lemma scanHex_hexId (id : UInt32) {text : List UInt8} (htext : hexDigits text = [])
    (hnul : (0 : UInt8) ∉ text) : scanHex (hexId id ++ text) = some id := by
  have hlt : ∀ place ∈ hexPlaces id.toNat, place < 16 := hexPlaces_lt id.toNat
  obtain ⟨first, second, rest, hplaces⟩ : ∃ first second rest,
      hexPlaces id.toNat = first :: second :: rest := ⟨_, _, _, rfl⟩
  have hbytes : (0 : UInt8) ∉ hexId id ++ text := by
    rw [mem_append]
    rintro (hmem | hmem)
    · obtain ⟨place, hplace, heq⟩ := exists_hexDigit hmem
      exact (hexDigit_ne place hplace).2.1 heq.symm
    · exact hnul hmem
  have hfirst := hexDigit_ne first (hlt first (by simp [hplaces]))
  have hsnd := hexDigit_ne second (hlt second (by simp [hplaces]))
  have hline : hexId id ++ text =
      hexDigit first :: hexDigit second :: (rest.map hexDigit ++ text) := by
    simp [hexId, hplaces]
  have hdigs : hexDigits (hexId id ++ text) = hexPlaces id.toNat := hexDigits_map _ hlt htext
  have hmarker : dropMarker (hexId id ++ text) = hexId id ++ text := by
    rw [hline]
    unfold dropMarker
    split
    · rename_i marker text heq
      rw [if_neg]
      · exact heq.symm
      obtain ⟨-, rfl, -⟩ : _ ∧ hexDigit second = marker ∧ _ := by simpa using heq
      rintro (hx | hX)
      · exact hsnd.2.2.2.2.2.1 hx
      · exact hsnd.2.2.2.2.2.2 hX
    · rfl
  have hspace : (hexId id ++ text).dropWhile isSpace = hexId id ++ text := by
    rw [hline, dropWhile_cons_of_neg]
    rw [hfirst.2.2.1]
    decide
  have hhead : (hexId id ++ text).head? = some (hexDigit first) := by
    rw [hline]
    rfl
  unfold scanHex
  simp only [CString.bytes_ofBuffer hbytes, hspace, hhead, Option.some.injEq, hfirst.2.2.2.1,
    hfirst.2.2.2.2.1, or_self, if_false, hmarker, hdigs]
  have hvalue := hexNumber_hexPlaces (UInt32.toNat_lt id)
  rw [hplaces] at hvalue ⊢
  dsimp only
  rw [hvalue, Nat.min_eq_left (by have := UInt32.toNat_lt id; omega)]
  simp

/-- **Round trip.** The reader finds the identifiers that the writer has written. -/
lemma loadFavorites_idFileText {ids : List UInt32} (h : ∀ id ∈ ids, id ≠ 0) :
    iptvLoadFavorites (some (idFileText ids)) = ids := by
  unfold iptvLoadFavorites
  rw [Option.getD_some]
  induction ids with
  | nil => rfl
  | cons id ids ih =>
    have hline : (0x0A : UInt8) ∉ hexId id := by
      intro hmem
      obtain ⟨place, hplace, heq⟩ := exists_hexDigit hmem
      exact (hexDigit_ne place hplace).1 heq.symm
    have htext : idFileText (id :: ids) = hexId id ++ 0x0A :: idFileText ids := by
      simp [idFileText]
    rw [htext, fgetsFrom_line _ [] hline (by simp [hexId, hexPlaces]), nil_append,
      filterMap_cons, scanHex_hexId id rfl (by decide)]
    have hne := h id mem_cons_self
    rw [ih fun other hother => h other (.tail _ hother)]
    simp [Option.filter, hne]

end NXCast

import Mathlib.Data.List.TakeWhile
import Mathlib.Tactic.Common

/-!
# NUL-terminated strings

A `CString` is the text a `char *` names: the bytes before the terminator, with the absence
of NUL carried as a field.  `CString.ofBuffer` is how a buffer becomes one, cutting at the
first NUL the way `strlen` does.
-/

/-- The bytes of a NUL-terminated string, terminator excluded. -/
structure CString where
  bytes : List UInt8
  nul_free : (0 : UInt8) ∉ bytes
deriving DecidableEq

namespace CString

/-- The string a buffer holds: everything before its first NUL. -/
def ofBuffer (buffer : List UInt8) : CString where
  bytes := buffer.takeWhile (· ≠ 0)
  nul_free := fun h => by simpa using List.mem_takeWhile_imp h

/-- The C `strlen`. -/
def strlen (s : CString) : ℕ := s.bytes.length

lemma ext_bytes {s t : CString} (h : s.bytes = t.bytes) : s = t := by
  cases s
  cases t
  simp_all

lemma takeWhile_ne_zero {bytes : List UInt8} (h : (0 : UInt8) ∉ bytes) :
    bytes.takeWhile (· ≠ 0) = bytes :=
  List.takeWhile_eq_self_iff.mpr fun b hb => by
    have hne : b ≠ 0 := fun hz => h (hz ▸ hb)
    simpa using hne

lemma bytes_ofBuffer {buffer : List UInt8} (h : (0 : UInt8) ∉ buffer) :
    (ofBuffer buffer).bytes = buffer :=
  takeWhile_ne_zero h

@[simp] lemma ofBuffer_bytes (s : CString) : ofBuffer s.bytes = s :=
  ext_bytes (bytes_ofBuffer s.nul_free)

end CString

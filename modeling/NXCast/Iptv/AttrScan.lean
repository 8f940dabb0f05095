import NXCast.Framework.CString
import NXCast.Framework.Checked
import NXCast.Iptv.IdFile
import NXCast.Rtsp.Text

/-!
# The attribute scanners

`iptv_parse_attr` finds an attribute in a line of a playlist and `xmltv_attr` one in a tag of a guide.  Both
go on behind a name that is no attribute, wherever that is; at the end of the text the loop then steps over
the terminator.
-/

namespace NXCast

open Checked List

/-! ## The code -/

/-- The byte that a pointer names, which is what is left of the memory behind it. -/
def loadFront (memory : List UInt8) : Access UInt8 := loadByte memory 0

/-- Whether `strncasecmp` finds no difference within the length of the name. -/
def strncasecmpEqual (memory : List UInt8) : List UInt8 → Access Bool
  | [] => .ok true
  | byte :: name => do
    let found ← loadFront memory
    if tolower found ≠ tolower byte then return false
    strncasecmpEqual memory.tail name

/-- `while (isspace(*p)) ++p;` -/
def skipSpace : List UInt8 → Access (List UInt8)
  | [] => .error .read
  | byte :: memory => if isSpace byte then skipSpace memory else .ok (byte :: memory)

/-- The copy of the value up to its end, with what is in the output. -/
def copyValue (ends : UInt8 → Bool) (outSize : ℕ) : List UInt8 → List UInt8 → Access (List UInt8)
  | [], _ => .error .read
  | byte :: memory, out =>
    if byte ≠ 0 ∧ out.length + 1 < outSize ∧ ends byte = false then
      copyValue ends outSize memory (out ++ [byte])
    else .ok out

/-- The loop of a scanner from `p` with the byte before it: `stops` ends the text before its terminator, and a
value that is `bare` needs no quotes.  Nothing is found, or the value. -/
def attrScan (stops : UInt8 → Bool) (bare : Option (UInt8 → Bool)) (name : List UInt8) (outSize : ℕ) :
    ℕ → Option UInt8 → List UInt8 → Access (Option (List UInt8))
  | 0, _, _ => .error .endless
  | rounds + 1, before, p => do
    let byte ← loadFront p
    if byte = 0 ∨ stops byte then return none
    if ¬(← strncasecmpEqual p name) ∨ ¬before.all isSpace then
      return ← attrScan stops bare name outSize rounds (some byte) p.tail
    let p ← skipSpace (p.drop name.length)
    let mark ← loadFront p
    if mark ≠ 0x3D then return ← attrScan stops bare name outSize rounds (some mark) p.tail
    let p ← skipSpace p.tail
    let quote ← loadFront p
    if quote = 0x22 ∨ quote = 0x27 then return some (← copyValue (· = quote) outSize p.tail [])
    match bare with
    | some ends => return some (← copyValue ends outSize p [])
    | none => attrScan stops bare name outSize rounds (some quote) p.tail

/-- `iptv_parse_attr`: the output, if there is one. -/
def iptvParseAttr (line name : CString) (outSize : ℕ) : Access (Option (List UInt8)) :=
  if outSize = 0 then .ok none
  else do
    let found ← attrScan (fun _ => false) (some fun byte => isSpace byte || byte = 0x2C) name.bytes outSize
      (line.strlen + 1) none (line.bytes ++ [0])
    return some (found.getD [])

/-- `xmltv_attr`: the result and the output, if there is one. -/
def xmltvAttr (tag name : CString) (outSize : ℕ) : Access (Bool × Option (List UInt8)) :=
  if outSize = 0 then .ok (false, none)
  else do
    let found ← attrScan (· = 0x3E) none name.bytes outSize (tag.strlen + 1) none (tag.bytes ++ [0])
    return (decide (0 < (found.getD []).length), some (found.getD []))

/-! ## The turns of a scan -/

/-- What a turn of a scan comes to. -/
inductive AttrTurn where
  | returns
  | goesOn (byte : UInt8) (rest : List UInt8)
  | oversteps
deriving DecidableEq

variable (stops : UInt8 → Bool) (bare : Option (UInt8 → Bool)) (name : List UInt8)

/-- The turn at a place of the text, by what is in front of the terminator. -/
def attrTurn (before : Option UInt8) : List UInt8 → AttrTurn
  | [] => .returns
  | byte :: rest =>
    if stops byte then .returns
    else if ((byte :: rest).take name.length).map tolower ≠ name.map tolower ∨ ¬before.all isSpace then
      .goesOn byte rest
    else
      match ((byte :: rest).drop name.length).dropWhile isSpace with
      | [] => .oversteps
      | mark :: rest =>
        if mark ≠ 0x3D then .goesOn mark rest
        else if bare.isSome then .returns
        else
          match rest.dropWhile isSpace with
          | [] => .oversteps
          | quote :: rest => if quote = 0x22 ∨ quote = 0x27 then .returns else .goesOn quote rest

/-- The scan comes to a turn at which it steps over the terminator. -/
inductive AttrOversteps : Option UInt8 → List UInt8 → Prop
  | here {before : Option UInt8} {text : List UInt8} (h : attrTurn stops bare name before text = .oversteps) :
      AttrOversteps before text
  | later {before : Option UInt8} {text rest : List UInt8} {byte : UInt8}
      (h : attrTurn stops bare name before text = .goesOn byte rest) (hlater : AttrOversteps (some byte) rest) :
      AttrOversteps before text

variable {stops bare name}

lemma tolower_eq_zero {byte : UInt8} (h : tolower byte = 0) : byte = 0 := by
  have hall : ∀ n : Fin 256, tolower (UInt8.ofNat n) = 0 → UInt8.ofNat n = 0 := by decide +kernel
  have hbyte := hall ⟨byte.toNat, byte.toNat_lt⟩
  rw [UInt8.ofNat_toNat] at hbyte
  exact hbyte h

lemma strncasecmpEqual_eq (hname : 0 ∉ name) (text : List UInt8) :
    strncasecmpEqual (text ++ [0]) name =
      .ok (decide ((text.take name.length).map tolower = name.map tolower)) := by
  induction name generalizing text with
  | nil => simp [strncasecmpEqual]
  | cons byte name ih =>
    rw [mem_cons, not_or] at hname
    cases text with
    | nil =>
      have hne : tolower 0 ≠ tolower byte := fun h => hname.1 (tolower_eq_zero (h.symm.trans (by decide))).symm
      simp [strncasecmpEqual, loadFront, loadByte, hne]
      rfl
    | cons found text =>
      have hrest := ih hname.2 text
      by_cases hfound : tolower found = tolower byte
      · simp [strncasecmpEqual, loadFront, loadByte, hfound, hrest]
      · simp [strncasecmpEqual, loadFront, loadByte, hfound]
        rfl

lemma skipSpace_eq (text : List UInt8) :
    skipSpace (text ++ [0]) = .ok (text.dropWhile isSpace ++ [0]) := by
  induction text with
  | nil => rfl
  | cons byte text ih =>
    rw [cons_append, skipSpace, ih, dropWhile_cons]
    split <;> rfl

lemma copyValue_fits (ends : UInt8 → Bool) {outSize : ℕ} (text out : List UInt8)
    (h : out.length + 1 ≤ outSize) :
    ∃ value, copyValue ends outSize (text ++ [0]) out = .ok value ∧ value.length + 1 ≤ outSize := by
  induction text generalizing out with
  | nil => exact ⟨out, by simp [copyValue], h⟩
  | cons byte text ih =>
    rw [cons_append, copyValue]
    split
    · rename_i hgoes
      exact ih (out ++ [byte]) (by rw [length_append, length_singleton]; omega)
    · exact ⟨out, rfl, h⟩

/-- A scan ends with a value that fits, if there is one. -/
def AttrSound (outSize : ℕ) (scan : Access (Option (List UInt8))) : Prop :=
  ∃ found, scan = .ok found ∧ ∀ value, found = some value → value.length + 1 ≤ outSize

/-- **One turn.** -/
lemma attrScan_turn (stops : UInt8 → Bool) (bare : Option (UInt8 → Bool)) (hname : 0 ∉ name)
    {outSize : ℕ} (hsize : 0 < outSize) (rounds : ℕ)
    (before : Option UInt8) {text : List UInt8} (htext : 0 ∉ text) :
    match attrTurn stops bare name before text with
    | .returns => AttrSound outSize (attrScan stops bare name outSize (rounds + 1) before (text ++ [0]))
    | .goesOn byte rest => rest.length < text.length ∧ 0 ∉ rest ∧
        attrScan stops bare name outSize (rounds + 1) before (text ++ [0]) =
          attrScan stops bare name outSize rounds (some byte) (rest ++ [0])
    | .oversteps => attrScan stops bare name outSize (rounds + 1) before (text ++ [0]) =
        attrScan stops bare name outSize rounds (some 0) [] := by
  cases text with
  | nil => exact ⟨none, rfl, nofun⟩
  | cons byte rest =>
    have hload (byte : UInt8) (memory : List UInt8) : loadFront (byte :: memory) = .ok byte := rfl
    have hbyte : byte ≠ 0 := fun h => htext (h ▸ mem_cons_self)
    have hrest : 0 ∉ rest := fun h => htext (.tail _ h)
    have hvalue (ends : UInt8 → Bool) (value : List UInt8) :
        AttrSound outSize (copyValue ends outSize (value ++ [0]) [] >>= fun value => .ok (some value)) := by
      obtain ⟨out, hout, hfits⟩ := copyValue_fits ends value [] hsize
      exact ⟨some out, by rw [hout, ok_bind], fun _ h => Option.some.inj h ▸ hfits⟩
    generalize hrun : attrScan stops bare name outSize (rounds + 1) before (byte :: rest ++ [0]) = run
    rw [attrScan, cons_append, hload, ok_bind, ← cons_append, strncasecmpEqual_eq hname, ok_bind] at hrun
    simp only [attrTurn]
    by_cases hstop : stops byte = true
    · rw [if_pos (.inr hstop)] at hrun
      rw [if_pos hstop]
      exact hrun ▸ ⟨none, rfl, nofun⟩
    rw [if_neg (by tauto)] at hrun
    rw [if_neg hstop]
    by_cases hmatch : map tolower (take name.length (byte :: rest)) ≠ map tolower name ∨
        ¬before.all isSpace = true
    · rw [if_pos (by simpa using hmatch)] at hrun
      rw [if_pos hmatch]
      exact ⟨Nat.lt_succ_self _, hrest, hrun.symm⟩
    have hlength : name.length ≤ (byte :: rest).length := by
      have h := congrArg length (not_not.mp (not_or.mp hmatch).1)
      simp only [length_map, length_take] at h
      omega
    rw [if_neg (by simpa using hmatch), drop_append_of_le_length hlength, skipSpace_eq, ok_bind] at hrun
    rw [if_neg hmatch]
    have hsub : (drop name.length (byte :: rest)).dropWhile isSpace <:+ byte :: rest :=
      (dropWhile_suffix _).trans (drop_suffix _ _)
    generalize (drop name.length (byte :: rest)).dropWhile isSpace = after at hrun hsub
    cases after with
    | nil => exact hrun.symm
    | cons mark after =>
      rw [cons_append, hload, ok_bind] at hrun
      dsimp only
      have hafter : after <:+ byte :: rest := (suffix_cons mark after).trans hsub
      by_cases hmark : mark ≠ 0x3D
      · rw [if_pos hmark] at hrun
        rw [if_pos hmark]
        exact ⟨hsub.length_le, fun h => htext (hafter.mem h), hrun.symm⟩
      rw [if_neg hmark, tail_cons, skipSpace_eq, ok_bind] at hrun
      rw [if_neg hmark]
      have hlast := (dropWhile_suffix isSpace).trans hafter
      generalize after.dropWhile isSpace = value at hrun hlast
      cases value with
      | nil =>
        rw [nil_append, hload, ok_bind, if_neg (by decide)] at hrun
        cases bare with
        | none => exact hrun.symm
        | some ends => exact hrun ▸ hvalue ends []
      | cons quote value =>
        rw [cons_append, hload, ok_bind] at hrun
        have hmore := (suffix_cons quote value).trans hlast
        by_cases hquote : quote = 0x22 ∨ quote = 0x27
        · rw [if_pos hquote] at hrun
          have hsound : AttrSound outSize run := hrun ▸ hvalue _ value
          cases bare with
          | none => simpa [hquote] using hsound
          | some ends => exact hsound
        · rw [if_neg hquote] at hrun
          cases bare with
          | none =>
            have hle := hlast.length_le
            have hgoes : value.length < (byte :: rest).length ∧ 0 ∉ value ∧ run = _ :=
              ⟨hle, fun h => htext (hmore.mem h), hrun.symm⟩
            simpa [hquote] using hgoes
          | some ends => exact hrun ▸ hvalue ends (quote :: value)

/-- **The scan.** It is sound if and only if it does not come to a turn that steps over the terminator. -/
lemma attrScan_sound_iff (hname : 0 ∉ name) {outSize : ℕ} (hsize : 0 < outSize) {rounds : ℕ}
    {before : Option UInt8} {text : List UInt8} (htext : 0 ∉ text) (hrounds : text.length < rounds) :
    AttrSound outSize (attrScan stops bare name outSize rounds before (text ++ [0])) ↔
      ¬AttrOversteps stops bare name before text := by
  induction rounds generalizing before text with
  | zero => exact absurd hrounds (Nat.not_lt_zero _)
  | succ rounds ih =>
    have hturn := attrScan_turn stops bare hname hsize rounds before htext
    cases hnext : attrTurn stops bare name before text with
    | returns =>
      rw [hnext] at hturn
      refine ⟨fun _ hover => ?_, fun _ => hturn⟩
      cases hover with
      | here h | later h => exact nomatch hnext.symm.trans h
    | goesOn byte rest =>
      rw [hnext] at hturn
      obtain ⟨hlt, hrest, hrun⟩ := hturn
      rw [hrun, ih hrest (by omega)]
      refine not_congr ⟨.later hnext, fun hover => ?_⟩
      cases hover with
      | here h => exact nomatch hnext.symm.trans h
      | later h hlater =>
        cases hnext.symm.trans h
        exact hlater
    | oversteps =>
      rw [hnext] at hturn
      refine ⟨?_, fun h => absurd (.here hnext) h⟩
      rintro ⟨found, hfound, -⟩
      rw [hturn] at hfound
      cases rounds <;> cases hfound

/-- The scanners stay inside their texts and outputs, and end, if and only if their scans do not step over the
terminator. -/
theorem attrScanners_sound_iff (text name : CString) (outSize : ℕ) :
    ((∃ out, iptvParseAttr text name outSize = .ok out ∧
        ∀ value, out = some value → value.length + 1 ≤ outSize) ↔
      outSize = 0 ∨ ¬AttrOversteps (fun _ => false) (some fun byte => isSpace byte || byte = 0x2C)
        name.bytes none text.bytes) ∧
    ((∃ ok out, xmltvAttr text name outSize = .ok (ok, out) ∧
        ∀ value, out = some value → value.length + 1 ≤ outSize) ↔
      outSize = 0 ∨ ¬AttrOversteps (· = 0x3E) none name.bytes none text.bytes) := by
  rcases Nat.eq_zero_or_pos outSize with rfl | hsize
  · exact ⟨⟨fun _ => .inl rfl, fun _ => ⟨none, rfl, nofun⟩⟩,
      ⟨fun _ => .inl rfl, fun _ => ⟨false, none, rfl, nofun⟩⟩⟩
  have hscan (stops : UInt8 → Bool) (bare : Option (UInt8 → Bool)) :
      AttrSound outSize (attrScan stops bare name.bytes outSize (text.strlen + 1) none (text.bytes ++ [0])) ↔ _ :=
    attrScan_sound_iff name.nul_free hsize text.nul_free (Nat.lt_succ_self _)
  have hfits {found : Option (List UInt8)} :
      (∀ value, found = some value → value.length + 1 ≤ outSize) ↔ (found.getD []).length + 1 ≤ outSize := by
    cases found with
    | none =>
      simp
      omega
    | some value => simp
  unfold iptvParseAttr xmltvAttr
  rw [if_neg hsize.ne', if_neg hsize.ne', or_iff_right hsize.ne', or_iff_right hsize.ne', ← hscan, ← hscan]
  constructor
  · cases attrScan _ _ _ _ _ _ _ with
    | error stop => simp [AttrSound, Bind.bind, Except.bind]
    | ok found => simpa [AttrSound, Bind.bind, Except.bind, Pure.pure, Except.pure] using hfits.symm
  · cases attrScan _ _ _ _ _ _ _ with
    | error stop => simp [AttrSound, Bind.bind, Except.bind]
    | ok found => simpa [AttrSound, Bind.bind, Except.bind, Pure.pure, Except.pure] using hfits.symm

/-- A line that ends with the name that is looked for. -/
theorem attrScanners_overstep : iptvParseAttr (cstring "tvg-id") (cstring "tvg-id") 8 = .error .read ∧
    xmltvAttr (cstring "start") (cstring "start") 8 = .error .read := by
  decide +kernel

end NXCast

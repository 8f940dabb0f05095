import Mathlib.Data.List.Nodup
import NXCast.Plist.Text

/-!
# Property-list values and the functions that build them

`AirPlayPlistValue` is the opaque node of `plist.c` as a tree: a real is the bit pattern of
its `double`, a dictionary keeps its entries in insertion order.  Allocation is assumed to
succeed, so a constructor returns `none` only where the source refuses its arguments; the
`parent` link of a node, which keeps a child from being attached twice, has no counterpart in
a tree of values.

Since the struct is private to `plist.c`, the values a program can hold are those the
constructors build (`AirPlayPlistValue.Built`).  `built_iff_wellFormed` identifies them with
the trees whose parts respect the module's limits.
-/

namespace NXCast

open List Option

/-- `AirPlayPlistError`, without the `OK` of a successful call. -/
inductive AirPlayPlistError where
  | invalidArgument
  | invalidFormat
  | unsupportedType
  | limitExceeded
  | outOfMemory
deriving DecidableEq, Repr

/-- A property-list node. -/
inductive AirPlayPlistValue where
  | bool (value : Bool)
  | uint (value : UInt64)
  | real (bits : UInt64)
  | string (text : CString)
  | data (bytes : List UInt8)
  | array (items : List AirPlayPlistValue)
  | dict (entries : List (CString × AirPlayPlistValue))

/-! ## `size_t` arithmetic -/

/-- `SIZE_MAX` on the 64-bit targets of the program. -/
def sizeMax : ℕ := 2 ^ 64 - 1

/-- `plist_size_add` -/
def plistSizeAdd (left right : ℕ) : Option ℕ :=
  if right > sizeMax - left then none else some (left + right)

/-- `plist_size_multiply` -/
def plistSizeMultiply (left right : ℕ) : Option ℕ :=
  if left ≠ 0 ∧ right > sizeMax / left then none else some (left * right)

variable {right : ℕ}

lemma plistSizeAdd_eq_some {left : ℕ} (h : left + right ≤ sizeMax) :
    plistSizeAdd left right = some (left + right) :=
  if_neg (by omega)

lemma plistSizeMultiply_eq_some {left : ℕ} (h : left * right ≤ sizeMax) :
    plistSizeMultiply left right = some (left * right) := by
  refine if_neg ?_
  rintro ⟨hleft, hright⟩
  have hle : right ≤ sizeMax / left :=
    (Nat.le_div_iff_mul_le (Nat.pos_of_ne_zero hleft)).mpr (by rwa [Nat.mul_comm] at h)
  omega

lemma plistSizeMultiply_some {left result : ℕ}
    (h : plistSizeMultiply left right = some result) :
    result = left * right ∧ left * right ≤ sizeMax := by
  unfold plistSizeMultiply at h
  split at h
  · cases h
  rename_i hguard
  simp only [some.injEq] at h
  refine ⟨h.symm, ?_⟩
  by_cases hleft : left = 0
  · simp [hleft]
  have hle : right ≤ sizeMax / left := by
    by_contra hgt
    exact hguard ⟨hleft, Nat.lt_of_not_le hgt⟩
  calc left * right ≤ left * (sizeMax / left) := Nat.mul_le_mul_left _ hle
    _ ≤ sizeMax := Nat.mul_div_le _ _

/-! ## Constructors -/

/-- `plist_string_duplicate` -/
def plistStringDuplicate (text : CString) : Option CString :=
  if text.strlen > airplayPlistMaxStringBytes then none else some text

/-- `airplay_plist_new_bool` -/
def airplayPlistNewBool (value : Bool) : AirPlayPlistValue := .bool value

/-- `airplay_plist_new_uint` -/
def airplayPlistNewUint (value : UInt64) : AirPlayPlistValue := .uint value

/-- `airplay_plist_new_real`, on the bit pattern of the `double`. -/
def airplayPlistNewReal (bits : UInt64) : AirPlayPlistValue := .real bits

/-- `airplay_plist_new_string` -/
def airplayPlistNewString (text : CString) : Option AirPlayPlistValue :=
  match plistUtf8Measure text with
  | none => none
  | some _ => (plistStringDuplicate text).map .string

/-- `airplay_plist_new_data` -/
def airplayPlistNewData (bytes : List UInt8) : Option AirPlayPlistValue :=
  if bytes.length > airplayPlistMaxDataBytes then none else some (.data bytes)

/-- `airplay_plist_new_array` -/
def airplayPlistNewArray : AirPlayPlistValue := .array []

/-- `airplay_plist_new_dict` -/
def airplayPlistNewDict : AirPlayPlistValue := .dict []

/-- `airplay_plist_array_append` -/
def airplayPlistArrayAppend (array item : AirPlayPlistValue) : Option AirPlayPlistValue :=
  match array with
  | .array items =>
    if items.length ≥ airplayPlistMaxContainerItems ∨
        plistSizeMultiply (items.length + 1) 8 = none then none
    else some (.array (items ++ [item]))
  | _ => none

/-- `airplay_plist_get_string` -/
def airplayPlistGetString : AirPlayPlistValue → Option CString
  | .string text => some text
  | _ => none

/-- `airplay_plist_get_uint` -/
def airplayPlistGetUint : AirPlayPlistValue → Option UInt64
  | .uint value => some value
  | _ => none

/-- `airplay_plist_get_data` -/
def airplayPlistGetData : AirPlayPlistValue → Option (List UInt8)
  | .data bytes => some bytes
  | _ => none

/-- The items of an array: `airplay_plist_array_size` and `airplay_plist_array_get`. -/
def airplayPlistArrayItems : AirPlayPlistValue → Option (List AirPlayPlistValue)
  | .array items => some items
  | _ => none

/-- `plist_dict_find`: the position of a key, by `strcmp`. -/
def plistDictFind (entries : List (CString × AirPlayPlistValue)) (key : CString) : Option ℕ :=
  entries.findIdx? fun entry => decide (entry.1 = key)

/-- `airplay_plist_dict_get` -/
def airplayPlistDictGet (dict : AirPlayPlistValue) (key : CString) : Option AirPlayPlistValue :=
  match dict with
  | .dict entries => (plistDictFind entries key).bind fun index => (entries[index]?).map (·.2)
  | _ => none

/-- `airplay_plist_dict_set`: replace the value of a present key, or add an entry at the end. -/
def airplayPlistDictSet (dict : AirPlayPlistValue) (key : CString) (value : AirPlayPlistValue) :
    Option AirPlayPlistValue :=
  match dict with
  | .dict entries =>
    match plistUtf8Measure key with
    | none => none
    | some _ =>
      match plistStringDuplicate key with
      | none => none
      | some keyCopy =>
        match plistDictFind entries key with
        | some index => some (.dict (entries.modify index fun entry => (entry.1, value)))
        | none =>
          if entries.length ≥ airplayPlistMaxContainerItems ∨
              plistSizeMultiply (entries.length + 1) 16 = none then none
          else some (.dict (entries ++ [(keyCopy, value)]))
  | _ => none

namespace AirPlayPlistValue

/-- The values the module's constructors build. -/
inductive Built : AirPlayPlistValue → Prop where
  | newBool (value : Bool) : Built (airplayPlistNewBool value)
  | newUint (value : UInt64) : Built (airplayPlistNewUint value)
  | newReal (bits : UInt64) : Built (airplayPlistNewReal bits)
  | newString {text : CString} {node : AirPlayPlistValue}
      (h : airplayPlistNewString text = some node) : Built node
  | newData {bytes : List UInt8} {node : AirPlayPlistValue}
      (h : airplayPlistNewData bytes = some node) : Built node
  | newArray : Built airplayPlistNewArray
  | newDict : Built airplayPlistNewDict
  | arrayAppend {array item node : AirPlayPlistValue} (harray : Built array) (hitem : Built item)
      (h : airplayPlistArrayAppend array item = some node) : Built node
  | dictSet {dict value node : AirPlayPlistValue} {key : CString} (hdict : Built dict)
      (hvalue : Built value) (h : airplayPlistDictSet dict key value = some node) : Built node

/-! ## Measures of a tree -/

variable {entries : List (CString × AirPlayPlistValue)} {entry : CString × AirPlayPlistValue}

lemma sizeOf_snd_lt (h : entry ∈ entries) : sizeOf entry.2 < 1 + sizeOf entries := by
  have hlt := sizeOf_lt_of_mem h
  have hsnd : sizeOf entry.2 < sizeOf entry := by
    cases entry
    simp only [Prod.mk.sizeOf_spec]
    omega
  omega

/-- The nodes of a tree; a dictionary counts each key as one. -/
def nodeCount : AirPlayPlistValue → ℕ
  | .array items => 1 + (items.map nodeCount).sum
  | .dict entries => 1 + entries.length + (entries.map fun entry => nodeCount entry.2).sum
  | _ => 1
decreasing_by
  · rename_i h
    have := List.sizeOf_lt_of_mem h
    simp only [array.sizeOf_spec]
    omega
  · rename_i h
    simpa only [dict.sizeOf_spec] using sizeOf_snd_lt h

/-- The depth of the deepest node below the root. -/
def height : AirPlayPlistValue → ℕ
  | .array items => (items.map fun item => height item + 1).foldr max 0
  | .dict entries => (entries.map fun entry => height entry.2 + 1).foldr max 0
  | _ => 0
decreasing_by
  · rename_i h
    have := List.sizeOf_lt_of_mem h
    simp only [array.sizeOf_spec]
    omega
  · rename_i h
    simpa only [dict.sizeOf_spec] using sizeOf_snd_lt h

/-- Every string of a tree, as a value or as a key. -/
def texts : AirPlayPlistValue → List CString
  | .string text => [text]
  | .array items => (items.map texts).flatten
  | .dict entries => (entries.map fun entry => entry.1 :: texts entry.2).flatten
  | _ => []
decreasing_by
  · rename_i h
    have := List.sizeOf_lt_of_mem h
    simp only [array.sizeOf_spec]
    omega
  · rename_i h
    simpa only [dict.sizeOf_spec] using sizeOf_snd_lt h

/-! ## Well-formed trees -/

/-- Every string, data block and container respects its own limit, texts are UTF-8 and the
keys of a dictionary are pairwise distinct. -/
inductive WellFormed : AirPlayPlistValue → Prop where
  | bool (value : Bool) : WellFormed (.bool value)
  | uint (value : UInt64) : WellFormed (.uint value)
  | real (bits : UInt64) : WellFormed (.real bits)
  | string {text : CString} (h : (plistUtf8Measure text).isSome) : WellFormed (.string text)
  | data {bytes : List UInt8} (h : bytes.length ≤ airplayPlistMaxDataBytes) :
      WellFormed (.data bytes)
  | array {items : List AirPlayPlistValue} (hlen : items.length ≤ airplayPlistMaxContainerItems)
      (hitems : ∀ item ∈ items, WellFormed item) : WellFormed (.array items)
  | dict {entries : List (CString × AirPlayPlistValue)}
      (hlen : entries.length ≤ airplayPlistMaxContainerItems)
      (hnodup : (entries.map Prod.fst).Nodup)
      (hkeys : ∀ entry ∈ entries, (plistUtf8Measure entry.1).isSome)
      (hvalues : ∀ entry ∈ entries, WellFormed entry.2) : WellFormed (.dict entries)

lemma nodeCount_pos (v : AirPlayPlistValue) : 0 < v.nodeCount := by
  cases v <;> simp only [nodeCount] <;> omega

variable {items : List AirPlayPlistValue} {item : AirPlayPlistValue}

lemma height_item_lt (h : item ∈ items) : item.height + 1 ≤ (array items).height := by
  rw [height]
  induction items with
  | nil => cases h
  | cons first items ih =>
    rcases mem_cons.mp h with rfl | h
    · exact le_max_left _ _
    · exact (ih h).trans (le_max_right _ _)

lemma height_entry_lt (h : entry ∈ entries) : entry.2.height + 1 ≤ (dict entries).height := by
  rw [height]
  induction entries with
  | nil => cases h
  | cons first entries ih =>
    rcases mem_cons.mp h with rfl | h
    · exact le_max_left _ _
    · exact (ih h).trans (le_max_right _ _)

variable {bound : ℕ}

lemma foldr_max_le {α : Type} {l : List α} {f : α → ℕ}
    (h : ∀ a ∈ l, f a ≤ bound) : (l.map f).foldr max 0 ≤ bound := by
  induction l with
  | nil => simp
  | cons a l ih =>
    exact max_le (h a (by simp)) (ih fun b hb => h b (by simp [hb]))

lemma height_array_le_iff :
    (array items).height ≤ bound ↔ ∀ item ∈ items, item.height + 1 ≤ bound := by
  refine ⟨fun h item hitem => (height_item_lt hitem).trans h, fun h => ?_⟩
  rw [height]
  exact foldr_max_le h

lemma height_dict_le_iff :
    (dict entries).height ≤ bound ↔ ∀ entry ∈ entries, entry.2.height + 1 ≤ bound := by
  refine ⟨fun h entry hentry => (height_entry_lt hentry).trans h, fun h => ?_⟩
  rw [height]
  exact foldr_max_le h

/-- The strings of a well-formed tree are UTF-8 within the limit; that they hold no NUL is part
of `CString`. -/
lemma WellFormed.utf8_of_mem_texts {v : AirPlayPlistValue} (h : v.WellFormed) :
    ∀ text ∈ v.texts, ∃ chars : List Char, text.bytes = Unicode.utf8 chars ∧
      text.strlen ≤ airplayPlistMaxStringBytes := by
  have hmeasured : ∀ text : CString, (plistUtf8Measure text).isSome →
      ∃ chars : List Char, text.bytes = Unicode.utf8 chars ∧
        text.strlen ≤ airplayPlistMaxStringBytes := by
    intro text hmeas
    obtain ⟨⟨units, ascii⟩, hsome⟩ := isSome_iff_exists.mp hmeas
    obtain ⟨chars, hbytes, hlen, -⟩ := (plistUtf8Measure_eq_some_iff text units ascii).mp hsome
    exact ⟨chars, hbytes, hlen⟩
  induction h with
  | string htext =>
    intro text hmem
    rw [texts, mem_singleton] at hmem
    exact hmeasured text (hmem ▸ htext)
  | array _ _ ih =>
    intro text hmem
    rw [texts, mem_flatten] at hmem
    obtain ⟨_, hlist, hmem⟩ := hmem
    obtain ⟨item, hitem, rfl⟩ := mem_map.mp hlist
    exact ih item hitem text hmem
  | dict _ _ hkeys _ ih =>
    intro text hmem
    rw [texts, mem_flatten] at hmem
    obtain ⟨_, hlist, hmem⟩ := hmem
    obtain ⟨entry, hentry, rfl⟩ := mem_map.mp hlist
    rcases mem_cons.mp hmem with rfl | hmem
    · exact hmeasured _ (hkeys entry hentry)
    · exact ih entry hentry text hmem
  | _ => simp [texts]

/-! ## Dictionary lookup -/

variable {key : CString}

lemma plistDictFind_eq_none (h : key ∉ entries.map Prod.fst) : plistDictFind entries key = none :=
  by
  rw [plistDictFind, findIdx?_eq_none_iff]
  intro entry hentry
  rw [decide_eq_false_iff_not]
  exact fun heq => h (heq ▸ mem_map_of_mem hentry)

lemma plistDictFind_eq_none_iff :
    plistDictFind entries key = none ↔ key ∉ entries.map Prod.fst := by
  refine ⟨fun h hmem => ?_, plistDictFind_eq_none⟩
  obtain ⟨entry, hentry, rfl⟩ := mem_map.mp hmem
  rw [plistDictFind, findIdx?_eq_none_iff] at h
  simpa using h entry hentry

lemma airplayPlistDictGet_eq_none_iff :
    airplayPlistDictGet (.dict entries) key = none ↔ key ∉ entries.map Prod.fst := by
  rw [← plistDictFind_eq_none_iff, airplayPlistDictGet]
  cases hfind : plistDictFind entries key with
  | none => simp
  | some index =>
    have hlt := (findIdx?_eq_some_iff_findIdx_eq.mp hfind).1
    simp [getElem?_eq_getElem hlt]

lemma airplayPlistDictSet_of_absent (value : AirPlayPlistValue)
    (hlen : entries.length < airplayPlistMaxContainerItems) (hkey : (plistUtf8Measure key).isSome)
    (habsent : key ∉ entries.map Prod.fst) :
    airplayPlistDictSet (.dict entries) key value = some (.dict (entries ++ [(key, value)])) := by
  obtain ⟨⟨units, ascii⟩, hmeas⟩ := isSome_iff_exists.mp hkey
  obtain ⟨_, _, hstrlen, _⟩ := (plistUtf8Measure_eq_some_iff key units ascii).mp hmeas
  have hcopy : plistStringDuplicate key = some key := if_neg (Nat.not_lt.mpr hstrlen)
  have hsize : plistSizeMultiply (entries.length + 1) 16 ≠ none := by
    rw [plistSizeMultiply_eq_some]
    · simp
    simp only [airplayPlistMaxContainerItems] at hlen
    simp only [sizeMax]
    omega
  simp only [airplayPlistDictSet, hmeas, hcopy, plistDictFind_eq_none habsent]
  exact if_neg (by rintro (h | h) <;> [omega; exact hsize h])

lemma airplayPlistArrayAppend_of_lt (item : AirPlayPlistValue)
    (hlen : items.length < airplayPlistMaxContainerItems) :
    airplayPlistArrayAppend (.array items) item = some (.array (items ++ [item])) := by
  have hsize : plistSizeMultiply (items.length + 1) 8 ≠ none := by
    rw [plistSizeMultiply_eq_some]
    · simp
    simp only [airplayPlistMaxContainerItems] at hlen
    simp only [sizeMax]
    omega
  exact if_neg (by rintro (h | h) <;> [omega; exact hsize h])

variable {node : AirPlayPlistValue}

lemma airplayPlistNewString_eq_some_iff {text : CString} :
    airplayPlistNewString text = some node ↔
      (plistUtf8Measure text).isSome ∧ node = .string text := by
  unfold airplayPlistNewString
  cases hmeas : plistUtf8Measure text with
  | none => simp
  | some measured =>
    obtain ⟨units, ascii⟩ := measured
    obtain ⟨_, _, hstrlen, _⟩ := (plistUtf8Measure_eq_some_iff text units ascii).mp hmeas
    have hcopy : plistStringDuplicate text = some text := if_neg (Nat.not_lt.mpr hstrlen)
    simp [hcopy, eq_comm]

/-! ## The constructors build exactly the well-formed trees -/

lemma airplayPlistArrayAppend_eq_some {array : AirPlayPlistValue}
    (h : airplayPlistArrayAppend array item = some node) :
    ∃ items, array = .array items ∧ items.length < airplayPlistMaxContainerItems ∧
      node = .array (items ++ [item]) := by
  cases array with
  | array items =>
    simp only [airplayPlistArrayAppend] at h
    split at h
    · cases h
    rename_i hroom
    simp only [some.injEq] at h
    exact ⟨items, rfl, by omega, h.symm⟩
  | _ => simp [airplayPlistArrayAppend] at h

lemma WellFormed.arrayAppend {array : AirPlayPlistValue} (harray : array.WellFormed)
    (hitem : item.WellFormed) (h : airplayPlistArrayAppend array item = some node) :
    node.WellFormed := by
  obtain ⟨items, rfl, hroom, rfl⟩ := airplayPlistArrayAppend_eq_some h
  cases harray with
  | array hlen hitems =>
    refine .array (by simpa [Nat.succ_le_iff] using hroom) ?_
    intro other hother
    rcases mem_append.mp hother with hother | hother
    · exact hitems other hother
    · rw [mem_singleton.mp hother]
      exact hitem

variable {value : AirPlayPlistValue}

/-- A set that succeeds replaced the value of a present key or added a new entry. -/
lemma airplayPlistDictSet_eq_some {dict : AirPlayPlistValue}
    (h : airplayPlistDictSet dict key value = some node) :
    ∃ entries, dict = .dict entries ∧ (plistUtf8Measure key).isSome ∧
      ((∃ index, plistDictFind entries key = some index ∧
          node = .dict (entries.modify index fun entry => (entry.1, value))) ∨
        (key ∉ entries.map Prod.fst ∧ entries.length < airplayPlistMaxContainerItems ∧
          node = .dict (entries ++ [(key, value)]))) := by
  cases dict with
  | dict entries =>
    simp only [airplayPlistDictSet] at h
    split at h
    · cases h
    rename_i hmeas
    refine ⟨entries, rfl, by simp [hmeas], ?_⟩
    split at h
    · cases h
    rename_i keyCopy hcopy
    have hkeyCopy : keyCopy = key := by
      unfold plistStringDuplicate at hcopy
      split at hcopy
      · cases hcopy
      · simpa using hcopy.symm
    subst hkeyCopy
    split at h
    · rename_i index hfind
      simp only [some.injEq] at h
      exact .inl ⟨index, hfind, h.symm⟩
    rename_i hfind
    split at h
    · cases h
    rename_i hroom
    simp only [some.injEq] at h
    exact .inr ⟨plistDictFind_eq_none_iff.mp hfind, by omega, h.symm⟩
  | _ => simp [airplayPlistDictSet] at h

lemma map_fst_modify (entries : List (CString × AirPlayPlistValue)) (index : ℕ)
    (value : AirPlayPlistValue) :
    (entries.modify index fun entry => (entry.1, value)).map Prod.fst = entries.map Prod.fst := by
  apply ext_getElem?
  intro i
  rw [getElem?_map, getElem?_modify, getElem?_map]
  cases entries[i]? with
  | none => simp
  | some entry =>
    split <;> rfl

/-- After replacing a value, an entry has an old key, and either the new value or its own. -/
lemma mem_modify {index : ℕ} (h : entry ∈ entries.modify index fun entry => (entry.1, value)) :
    ∃ old ∈ entries, entry.1 = old.1 ∧ (entry.2 = value ∨ entry.2 = old.2) := by
  obtain ⟨i, hi, rfl⟩ := mem_iff_getElem.mp h
  rw [length_modify] at hi
  refine ⟨entries[i], getElem_mem hi, ?_⟩
  rw [getElem_modify]
  split
  · exact ⟨rfl, .inl rfl⟩
  · exact ⟨rfl, .inr rfl⟩

lemma WellFormed.dictSet {dict : AirPlayPlistValue} (hdict : dict.WellFormed)
    (hvalue : value.WellFormed) (h : airplayPlistDictSet dict key value = some node) :
    node.WellFormed := by
  obtain ⟨entries, rfl, hmeas, ⟨index, -, rfl⟩ | ⟨habsent, hroom, rfl⟩⟩ :=
    airplayPlistDictSet_eq_some h
  all_goals
    obtain ⟨hlen, hnodup, hkeys, hvalues⟩ : entries.length ≤ airplayPlistMaxContainerItems ∧
        (entries.map Prod.fst).Nodup ∧
        (∀ entry ∈ entries, (plistUtf8Measure entry.1).isSome) ∧
        ∀ entry ∈ entries, entry.2.WellFormed := by
      cases hdict with
      | dict hlen hnodup hkeys hvalues => exact ⟨hlen, hnodup, hkeys, hvalues⟩
  · refine .dict (by rwa [length_modify]) (by rwa [map_fst_modify]) ?_ ?_
    · intro entry hentry
      obtain ⟨old, hold, hfirst, -⟩ := mem_modify hentry
      rw [hfirst]
      exact hkeys old hold
    · intro entry hentry
      obtain ⟨old, hold, -, hsnd | hsnd⟩ := mem_modify hentry
      · rwa [hsnd]
      · rw [hsnd]
        exact hvalues old hold
  · refine .dict (by simpa [Nat.succ_le_iff] using hroom) ?_ ?_ ?_
    · rw [map_append]
      exact nodup_append'.mpr ⟨hnodup, by simp, by simpa [disjoint_singleton] using habsent⟩
    · intro entry hentry
      rcases mem_append.mp hentry with hentry | hentry
      · exact hkeys entry hentry
      · rw [mem_singleton.mp hentry]
        exact hmeas
    · intro entry hentry
      rcases mem_append.mp hentry with hentry | hentry
      · exact hvalues entry hentry
      · rw [mem_singleton.mp hentry]
        exact hvalue

lemma Built.wellFormed {v : AirPlayPlistValue} (h : v.Built) : v.WellFormed := by
  induction h with
  | newBool value => exact .bool value
  | newUint value => exact .uint value
  | newReal bits => exact .real bits
  | newString h =>
    obtain ⟨hmeas, rfl⟩ := airplayPlistNewString_eq_some_iff.mp h
    exact .string hmeas
  | newData h =>
    simp only [airplayPlistNewData] at h
    split at h
    · cases h
    rename_i hlen
    simp only [some.injEq] at h
    subst h
    exact .data (Nat.le_of_not_lt hlen)
  | newArray => exact .array (Nat.zero_le _) (by simp)
  | newDict => exact .dict (Nat.zero_le _) (by simp) (by simp) (by simp)
  | arrayAppend _ _ h iharray ihitem => exact iharray.arrayAppend ihitem h
  | dictSet _ _ h ihdict ihvalue => exact ihdict.dictSet ihvalue h

lemma built_array (hlen : items.length ≤ airplayPlistMaxContainerItems)
    (hitems : ∀ item ∈ items, item.Built) : (array items).Built := by
  induction items using reverseRecOn with
  | nil => exact .newArray
  | append_singleton items item ih =>
    simp only [length_append, length_singleton] at hlen
    have hpfx := ih (by omega) fun other hother => hitems other (by simp [hother])
    exact .arrayAppend hpfx (hitems item (by simp)) (airplayPlistArrayAppend_of_lt item (by omega))

lemma built_dict (hlen : entries.length ≤ airplayPlistMaxContainerItems)
    (hnodup : (entries.map Prod.fst).Nodup)
    (hkeys : ∀ entry ∈ entries, (plistUtf8Measure entry.1).isSome)
    (hvalues : ∀ entry ∈ entries, entry.2.Built) : (dict entries).Built := by
  induction entries using reverseRecOn with
  | nil => exact .newDict
  | append_singleton entries entry ih =>
    simp only [length_append, length_singleton] at hlen
    rw [map_append, nodup_append'] at hnodup
    have hpfx := ih (by omega) hnodup.1 (fun other hother => hkeys other (by simp [hother]))
      fun other hother => hvalues other (by simp [hother])
    have habsent : entry.1 ∉ entries.map Prod.fst := by
      simpa [disjoint_singleton] using hnodup.2.2
    exact .dictSet hpfx (hvalues entry (by simp))
      (airplayPlistDictSet_of_absent entry.2 (by omega) (hkeys entry (by simp)) habsent)

/-- **The constructors build exactly the well-formed trees.** -/
theorem built_iff_wellFormed (v : AirPlayPlistValue) : v.Built ↔ v.WellFormed := by
  refine ⟨Built.wellFormed, fun h => ?_⟩
  induction h with
  | bool value => exact .newBool value
  | uint value => exact .newUint value
  | real bits => exact .newReal bits
  | string h => exact .newString (airplayPlistNewString_eq_some_iff.mpr ⟨h, rfl⟩)
  | data h => exact .newData (if_neg (Nat.not_lt.mpr h))
  | array hlen _ ih => exact built_array hlen ih
  | dict hlen hnodup hkeys _ ih => exact built_dict hlen hnodup hkeys ih

end AirPlayPlistValue

end NXCast

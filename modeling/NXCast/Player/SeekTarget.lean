import NXCast.Dlna.EventServer

/-!
# Seek targets

`player/seek_target.c`: a position as text.  `playerSeekTargetParseMs` reads one, `H:M:S` with an
optional fraction where there is a colon and a number of seconds where there is none, and
`playerSeekTargetFormatHhmmss` writes one in whole seconds.

`SeekTarget` is the grammar of the texts with colons: the numerals themselves, with what they add up to
in milliseconds.  The reader's four guards against overflow together are the one bound on that sum
(`parseHhmmssMs_eq_some_iff`).  It reads no more than four digits of a fraction, and what stands behind
the fourth is never looked at: `Overlooked` are the texts it therefore takes for a target although they
are none.

`strtod` is a parameter, as `numeric`.
-/

namespace NXCast

open List TextSearch Decimal

/-- `INT_MAX` -/
def intMax : ℕ := 2 ^ 31 - 1
/-- `LLONG_MAX` -/
def llongMax : ℕ := 2 ^ 63 - 1

/-! ## The reader -/

/-- `skip_spaces` -/
def skipSpaces (text : List UInt8) : List UInt8 := text.dropWhile isspace

/-- What lies in front of `trim_end`. -/
def trimEnd (text : List UInt8) : List UInt8 := text.rdropWhile isspace

/-- The loop of `parse_unsigned_ll`. -/
def parseUnsignedLoop (value : ℕ) : List UInt8 → Option ℕ
  | [] => some value
  | byte :: rest =>
    if !isdigit byte then none
    else if value > (llongMax - (byte.toNat - 0x30)) / 10 then none
    else parseUnsignedLoop (value * 10 + (byte.toNat - 0x30)) rest

/-- `parse_unsigned_ll` -/
def parseUnsignedLl (text : List UInt8) : Option ℕ :=
  if text = [] then none else parseUnsignedLoop 0 text

/-- The first loop of `parse_fraction_ms`: the number read, its digits and whether it is rounded up. -/
def parseFractionLoop (millis digits : ℕ) : List UInt8 → Option (ℕ × ℕ × Bool)
  | [] => some (millis, digits, false)
  | byte :: rest =>
    if !isdigit byte then none
    else if digits < 3 then parseFractionLoop (millis * 10 + (byte.toNat - 0x30)) (digits + 1) rest
    -- the loop breaks here, with the rest unread
    else if digits = 3 then some (millis, digits, decide (0x35 ≤ byte.toNat))
    else parseFractionLoop millis (digits + 1) rest

/-- The second loop of `parse_fraction_ms`. -/
def padFraction (millis digits : ℕ) : ℕ :=
  if digits = 0 then millis else (· * 10)^[3 - digits] millis

/-- `parse_fraction_ms` -/
def parseFractionMs (text : List UInt8) : Option ℕ :=
  if text = [] then some 0
  else
    (parseFractionLoop 0 0 text).map fun (millis, digits, roundUp) =>
      padFraction millis digits + if roundUp then 1 else 0

/-- `parse_hhmmss_ms` -/
def parseHhmmssMs (text : List UInt8) : Option ℕ :=
  match TextSearch.cut 0x3a text with
  | none => none
  | some (hours, afterFirst) =>
    match TextSearch.cut 0x3a afterFirst with
    | none => none
    | some (minutes, afterSecond) =>
      if 0x3a ∈ afterSecond then none
      else
        let dot := TextSearch.cut 0x2e afterSecond
        match parseUnsignedLl hours, parseUnsignedLl minutes,
          parseUnsignedLl (dot.elim afterSecond Prod.fst), dot.elim (some 0) (parseFractionMs ·.2) with
        | some hour, some minute, some second, some fraction =>
          if hour > intMax / 3600000 then none
          else if minute > (intMax - hour * 3600000) / 60000 then none
          else if second > (intMax - (hour * 3600000 + minute * 60000)) / 1000 then none
          else if fraction > intMax - (hour * 3600000 + minute * 60000 + second * 1000) then none
          else some (hour * 3600000 + minute * 60000 + second * 1000 + fraction)
        | _, _, _, _ => none

/-- `player_seek_target_parse_ms` -/
def playerSeekTargetParseMs (numeric : List UInt8 → Option ℕ) (target : CString) : Option ℕ :=
  let start := skipSpaces target.bytes
  if start = [] then none
  else
    let text := trimEnd start
    if text = [] then none
    else if 0x3a ∈ text then parseHhmmssMs text
    else numeric text

/-! ## The writer -/

/-- `player_seek_target_format_hhmmss_alloc`, with the memory for its text. -/
def playerSeekTargetFormatHhmmss (position : ℤ) : CString :=
  let position := if position < 0 then 0 else position.toNat
  let total := position / 1000
  CString.ofBuffer (twoDigits (total / 3600) ++ 0x3a :: (twoDigits (total % 3600 / 60) ++
    0x3a :: twoDigits (total % 60)))

/-! ## The grammar -/

/-- A target `H:M:S` with an optional fraction. -/
structure SeekTarget where
  hours : List UInt8
  minutes : List UInt8
  seconds : List UInt8
  fraction : Option (List UInt8)
  /-- Each of the three has a digit. -/
  nonempty : hours ≠ [] ∧ minutes ≠ [] ∧ seconds ≠ []
  /-- They are written in digits. -/
  numerals : ∀ byte ∈ hours ++ minutes ++ seconds, Decimal.IsDigit byte
  /-- So is the fraction. -/
  decimals : ∀ digits ∈ fraction, ∀ byte ∈ digits, Decimal.IsDigit byte

open SeekTarget

namespace SeekTarget

variable (target : SeekTarget)

/-- How the fraction is written. -/
def fractionText : List UInt8 :=
  target.fraction.elim [] fun digits => 0x2e :: digits

/-- How the target is written. -/
def text : List UInt8 :=
  target.hours ++ 0x3a :: (target.minutes ++ 0x3a :: (target.seconds ++ target.fractionText))

/-- The whole seconds of the target. -/
def wholeSeconds : ℕ :=
  Decimal.value target.hours * 3600 + Decimal.value target.minutes * 60 + Decimal.value target.seconds

/-- The position in milliseconds, its fraction to the nearest one. -/
def milliseconds : ℕ :=
  target.wholeSeconds * 1000 + target.fraction.elim 0 (Decimal.scaled 3)

/-- The text is a target for this position, which an `int` holds. -/
def Denotes (text : List UInt8) (ms : ℕ) : Prop :=
  ∃ target : SeekTarget, target.text = text ∧ target.milliseconds = ms ∧ ms ≤ intMax

/-- The text goes on behind the fourth digit of a fraction with something that is no digit, and up to
there it is a target for a position an `int` holds. -/
def Overlooked (text : List UInt8) : Prop :=
  ∃ (target : SeekTarget) (digits rest : List UInt8),
    target.fraction = some digits ∧ digits.length = 4 ∧ target.milliseconds ≤ intMax ∧
      text = target.text ++ rest ∧ 0x3a ∉ rest ∧ ∃ byte ∈ rest, ¬Decimal.IsDigit byte

end SeekTarget

namespace SeekTarget

/-! ## Numerals -/

lemma isDigit_not {byte : UInt8} (h : Decimal.IsDigit byte) :
    byte ≠ 0x3a ∧ byte ≠ 0x2e ∧ byte ≠ 0 ∧ isspace byte = false := by
  unfold Decimal.IsDigit at h
  have hne : ∀ other : UInt8, other.toNat < 0x30 ∨ 0x39 < other.toNat → byte ≠ other := by
    rintro _ hother rfl
    omega
  refine ⟨hne _ (by decide), hne _ (by decide), hne _ (by decide), ?_⟩
  have hblank := hne 0x20 (by decide)
  simp only [isspace, hblank, decide_false, Bool.or_false, decide_eq_false_iff_not]
  omega

lemma not_mem_of_digits {text : List UInt8} (h : ∀ byte ∈ text, Decimal.IsDigit byte) :
    0x3a ∉ text ∧ 0x2e ∉ text ∧ 0 ∉ text :=
  ⟨fun hmem => (isDigit_not (h _ hmem)).1 rfl, fun hmem => (isDigit_not (h _ hmem)).2.1 rfl,
    fun hmem => (isDigit_not (h _ hmem)).2.2.1 rfl⟩

end SeekTarget

variable {text : List UInt8}

/-- The guard keeps the accumulated number within a `long long`, and refuses nothing that is. -/
lemma parseUnsignedLoop_eq_some_iff {value number : ℕ} (hvalue : value ≤ llongMax) :
    parseUnsignedLoop value text = some number ↔
      (∀ byte ∈ text, Decimal.IsDigit byte) ∧ valueFrom value text = number ∧
        number ≤ llongMax := by
  induction text generalizing value with
  | nil =>
    simp only [parseUnsignedLoop, Option.some_inj, not_mem_nil, false_imp_iff, implies_true,
      true_and, valueFrom, foldl_nil]
    constructor
    · rintro rfl
      exact ⟨rfl, hvalue⟩
    · exact And.left
  | cons byte text ih =>
    have hstep : valueFrom value (byte :: text) =
        valueFrom (value * 10 + (byte.toNat - 0x30)) text := rfl
    have hmax : 9 ≤ llongMax := by decide
    rw [parseUnsignedLoop, forall_mem_cons, hstep]
    by_cases hdigit : isdigit byte
    · have hrange := isdigit_iff.mp hdigit
      have hbounds := hrange
      unfold Decimal.IsDigit at hbounds
      rw [if_neg (by simp [hdigit])]
      split_ifs with hover
      · have hgrows := le_valueFrom (value * 10 + (byte.toNat - 0x30)) text
        constructor
        · simp
        · rintro ⟨-, rfl, hle⟩
          omega
      · rw [ih (by omega)]
        simp only [hrange, true_and]
    · have hnot : ¬Decimal.IsDigit byte := fun h => hdigit (isdigit_iff.mpr h)
      rw [if_pos (by simpa using hdigit)]
      simp [hnot]

/-- `parse_unsigned_ll` reads the numerals a `long long` holds. -/
lemma parseUnsignedLl_eq_some_iff {number : ℕ} :
    parseUnsignedLl text = some number ↔
      text ≠ [] ∧ (∀ byte ∈ text, Decimal.IsDigit byte) ∧ value text = number ∧
        number ≤ llongMax := by
  rw [parseUnsignedLl]
  split_ifs with hempty
  · simp [hempty]
  rw [parseUnsignedLoop_eq_some_iff (Nat.zero_le _)]
  simp only [ne_eq, hempty, not_false_eq_true, true_and]
  rfl

/-! ## Fractions -/

lemma parseFractionLoop_eq {millis digits : ℕ} (hdigs : digits ≤ 3) :
    parseFractionLoop millis digits text =
      if (text.take (4 - digits)).all isdigit then
        some (valueFrom millis (text.take (3 - digits)),
          min 3 (digits + text.length),
          (text.drop (3 - digits)).head?.elim false fun byte => decide (0x35 ≤ byte.toNat))
      else none := by
  induction text generalizing millis digits with
  | nil => simp [parseFractionLoop, valueFrom, hdigs]
  | cons byte text ih =>
    have htake : ∀ count, (byte :: text).take (count + 1) = byte :: text.take count := fun _ => rfl
    have hfour : 4 - digits = 3 - digits + 1 := by omega
    rw [parseFractionLoop, hfour, htake, all_cons]
    cases hdigit : isdigit byte
    · simp
    simp only [Bool.not_true, Bool.false_eq_true, if_false, Bool.true_and]
    by_cases hmore : digits < 3
    · have hthree : 3 - digits = 3 - (digits + 1) + 1 := by omega
      have hrest : 4 - (digits + 1) = 3 - digits := by omega
      have hcount : digits + (byte :: text).length = digits + 1 + text.length := by
        rw [length_cons]
        omega
      rw [if_pos hmore, ih (by omega), hrest, hcount]
      simp only [hthree, htake, drop_succ_cons]
      rfl
    · have hthree : digits = 3 := by omega
      subst hthree
      simp [valueFrom]

lemma padFraction_eq {millis digits : ℕ} (h : 0 < digits) :
    padFraction millis digits = millis * 10 ^ (3 - digits) := by
  rw [padFraction, if_neg (by omega)]
  generalize 3 - digits = count
  induction count generalizing millis with
  | zero => simp
  | succ count ih =>
    rw [Function.iterate_succ_apply, ih, Nat.pow_succ]
    ring

lemma all_isdigit_iff : text.all isdigit = true ↔ ∀ byte ∈ text, Decimal.IsDigit byte := by
  simp only [all_eq_true, isdigit_iff]

lemma parseFractionMs_eq :
    parseFractionMs text =
      if (text.take 4).all isdigit then some (scaled 3 (text.take 4)) else none := by
  rw [parseFractionMs]
  split_ifs with hempty hdigs hdigs
  · subst hempty
    rfl
  · subst hempty
    exact absurd rfl hdigs
  · rw [parseFractionLoop_eq (by omega), if_pos hdigs, Option.map_some]
    congr 1
    have hread := all_isdigit_iff.mp hdigs
    by_cases hlong : 3 < text.length
    · -- a fourth digit rounds the three before it
      obtain ⟨digit, hdigit⟩ : ∃ digit, text.drop 3 = digit :: text.drop 4 :=
        ⟨text[3], drop_eq_getElem_cons hlong⟩
      have hfour : text.take 4 = text.take 3 ++ [digit] := by
        rw [take_add (i := 3) (j := 1), hdigit]
        rfl
      have hrange := hread digit (by simp [hfour])
      have hscaled : scaled 3 (text.take 4) = (value (text.take 4) + 5) / 10 := by
        have hlen : (text.take 4).length = 3 + 1 := by
          rw [length_take]
          omega
        have hrounded : scaled 3 (text.take 4 ++ []) = (value (text.take 4) + 5) / 10 :=
          scaled_long hlen (by simp)
        rwa [append_nil] at hrounded
      have hone : value [digit] = digit.toNat - 0x30 := by simp [value, valueFrom]
      have hmin : min 3 (0 + text.length) = 3 := by omega
      have hvalue : valueFrom 0 (text.take 3) = value (text.take 3) := rfl
      rw [hscaled, hfour, value_append, hone, Nat.sub_zero, hmin, hdigit, hvalue]
      simp only [padFraction_eq (show 0 < 3 by decide), Nat.sub_self, Nat.pow_zero, Nat.mul_one,
        head?_cons, Option.elim_some, length_singleton, Nat.pow_one]
      unfold Decimal.IsDigit at hrange
      by_cases hround : 0x35 ≤ digit.toNat
      · simp only [hround, decide_true, if_true]
        omega
      · simp only [hround, decide_false, Bool.false_eq_true, if_false]
        omega
    · have hshort : text.length ≤ 3 := by omega
      have hpositive : 0 < text.length := length_pos_of_ne_nil hempty
      have hmin : min 3 (0 + text.length) = text.length := by omega
      have htake : text.take 4 = text := take_of_length_le (by omega)
      have hthree : text.take 3 = text := take_of_length_le hshort
      have hdrop : text.drop 3 = [] := drop_of_length_le hshort
      have hvalue : valueFrom 0 text = value text := rfl
      rw [htake, Nat.sub_zero, hthree, hdrop, hmin, scaled_short hshort, hvalue,
        ← padFraction_eq hpositive]
      rfl
  · rw [parseFractionLoop_eq (by omega), if_neg hdigs]
    rfl

/-! ## The whole target -/

lemma guarded_sum (hour minute second fraction : ℕ) :
    (if hour > intMax / 3600000 then none
      else if minute > (intMax - hour * 3600000) / 60000 then none
      else if second > (intMax - (hour * 3600000 + minute * 60000)) / 1000 then none
      else if fraction > intMax - (hour * 3600000 + minute * 60000 + second * 1000) then none
      else some (hour * 3600000 + minute * 60000 + second * 1000 + fraction)) =
    if hour * 3600000 + minute * 60000 + second * 1000 + fraction ≤ intMax then
      some (hour * 3600000 + minute * 60000 + second * 1000 + fraction) else none := by
  split_ifs <;> first | rfl | omega

/-- What `parse_hhmmss_ms` does with the pieces between the colons. -/
lemma parseHhmmssMs_of_cut {hours minutes tail : List UInt8} (hhours : 0x3a ∉ hours)
    (hminutes : 0x3a ∉ minutes) (htail : 0x3a ∉ tail) {ms : ℕ} :
    parseHhmmssMs (hours ++ 0x3a :: (minutes ++ 0x3a :: tail)) = some ms ↔
      ∃ hour minute second fraction, parseUnsignedLl hours = some hour ∧
        parseUnsignedLl minutes = some minute ∧
        parseUnsignedLl ((cut 0x2e tail).elim tail Prod.fst) = some second ∧
        (cut 0x2e tail).elim (some 0) (parseFractionMs ·.2) = some fraction ∧
        hour * 3600000 + minute * 60000 + second * 1000 + fraction = ms ∧ ms ≤ intMax := by
  rw [parseHhmmssMs, cut_append_cons hhours]
  dsimp only
  rw [cut_append_cons hminutes]
  dsimp only
  rw [if_neg htail]
  generalize parseUnsignedLl hours = hour
  generalize parseUnsignedLl minutes = minute
  generalize parseUnsignedLl ((cut 0x2e tail).elim tail Prod.fst) = second
  generalize (cut 0x2e tail).elim (some 0) (fun piece => parseFractionMs piece.2) = fraction
  constructor
  · intro hparse
    split at hparse
    · next hour minute second fraction =>
      rw [guarded_sum] at hparse
      split_ifs at hparse with hle
      obtain rfl := Option.some.inj hparse
      exact ⟨hour, minute, second, fraction, rfl, rfl, rfl, rfl, rfl, hle⟩
    · cases hparse
  · rintro ⟨hour, minute, second, fraction, rfl, rfl, rfl, rfl, rfl, hle⟩
    dsimp only
    rw [guarded_sum, if_pos hle]

lemma exists_pieces_of_parseHhmmssMs {ms : ℕ} (h : parseHhmmssMs text = some ms) :
    ∃ hours minutes tail, text = hours ++ 0x3a :: (minutes ++ 0x3a :: tail) ∧
      0x3a ∉ hours ∧ 0x3a ∉ minutes ∧ 0x3a ∉ tail := by
  rw [parseHhmmssMs] at h
  split at h
  · cases h
  next hours afterFirst hfirst =>
  split at h
  · cases h
  next minutes afterSecond hsnd =>
  split_ifs at h with hthird
  obtain ⟨rfl, hhours⟩ := cut_eq_some_iff.mp hfirst
  obtain ⟨rfl, hminutes⟩ := cut_eq_some_iff.mp hsnd
  exact ⟨hours, minutes, afterSecond, rfl, hhours, hminutes, hthird⟩

namespace SeekTarget

variable (target : SeekTarget)

lemma digits_of_numerals :
    (∀ byte ∈ target.hours, Decimal.IsDigit byte) ∧ (∀ byte ∈ target.minutes, Decimal.IsDigit byte) ∧
      ∀ byte ∈ target.seconds, Decimal.IsDigit byte := by
  have h := target.numerals
  simp only [mem_append] at h
  exact ⟨fun byte hbyte => h byte (.inl (.inl hbyte)), fun byte hbyte => h byte (.inl (.inr hbyte)),
    fun byte hbyte => h byte (.inr hbyte)⟩

lemma milliseconds_eq :
    target.milliseconds = value target.hours * 3600000 + value target.minutes * 60000 +
      value target.seconds * 1000 + target.fraction.elim 0 (scaled 3) := by
  rw [milliseconds, wholeSeconds]
  ring

lemma cut_dot {rest : List UInt8} (hrest : target.fraction = none → rest = []) :
    cut 0x2e (target.seconds ++ (target.fractionText ++ rest)) =
      target.fraction.map fun digits => (target.seconds, digits ++ rest) := by
  have hseconds := (not_mem_of_digits target.digits_of_numerals.2.2).2.1
  rw [fractionText]
  cases hfrac : target.fraction with
  | none =>
    rw [hrest hfrac]
    simpa using cut_eq_none.mpr hseconds
  | some digits => exact cut_append_cons hseconds _

end SeekTarget

/-- **What is read.**  A target for a position an `int` holds, with four digits of fraction at most; behind
the fourth there may be anything but a colon. -/
lemma parseHhmmssMs_eq_some_iff {ms : ℕ} :
    parseHhmmssMs text = some ms ↔
      ∃ (target : SeekTarget) (rest : List UInt8), text = target.text ++ rest ∧ 0x3a ∉ rest ∧
        (rest ≠ [] → ∃ digits, target.fraction = some digits ∧ digits.length = 4) ∧
        (∀ digits ∈ target.fraction, digits.length ≤ 4) ∧ target.milliseconds = ms ∧ ms ≤ intMax := by
  constructor
  · intro hparse
    obtain ⟨hours, minutes, tail, rfl, hhours, hminutes, htail⟩ := exists_pieces_of_parseHhmmssMs hparse
    obtain ⟨hour, minute, second, fraction, hhour, hminute, hsnd, hfrac, hsum, hle⟩ :=
      (parseHhmmssMs_of_cut hhours hminutes htail).mp hparse
    obtain ⟨hhoursne, hhoursdigits, hhour, -⟩ := parseUnsignedLl_eq_some_iff.mp hhour
    obtain ⟨hminutesne, hminutesdigits, hminute, -⟩ := parseUnsignedLl_eq_some_iff.mp hminute
    obtain ⟨hsecondsne, hsecondsdigits, hsnd, -⟩ := parseUnsignedLl_eq_some_iff.mp hsnd
    have hnumerals : ∀ byte ∈ hours ++ minutes ++ (cut 0x2e tail).elim tail Prod.fst,
        Decimal.IsDigit byte := by
      intro byte hbyte
      rcases mem_append.mp hbyte with hbyte | hbyte
      · rcases mem_append.mp hbyte with hbyte | hbyte
        · exact hhoursdigits byte hbyte
        · exact hminutesdigits byte hbyte
      · exact hsecondsdigits byte hbyte
    cases hdot : cut 0x2e tail with
    | none =>
      rw [hdot] at hfrac hnumerals hsecondsne hsnd
      refine ⟨⟨hours, minutes, tail, none, ⟨hhoursne, hminutesne, hsecondsne⟩, hnumerals, nofun⟩, [], ?_,
        not_mem_nil, absurd rfl, nofun, ?_, hle⟩
      · simp [text, fractionText]
      rw [milliseconds_eq, hhour, hminute]
      obtain rfl := Option.some.inj hfrac
      rw [← hsum, ← hsnd]
      rfl
    | some pieces =>
      obtain ⟨seconds, digits⟩ := pieces
      rw [hdot] at hfrac hnumerals hsecondsne hsnd
      obtain ⟨rfl, -⟩ := cut_eq_some_iff.mp hdot
      rw [Option.elim_some, parseFractionMs_eq] at hfrac
      split_ifs at hfrac with hfour
      have hcolons : 0x3a ∉ digits := fun hmem =>
        htail (mem_append_right _ (.tail _ hmem))
      refine ⟨⟨hours, minutes, seconds, some (digits.take 4), ⟨hhoursne, hminutesne, hsecondsne⟩, hnumerals,
        fun other hother => Option.some.inj hother ▸ all_isdigit_iff.mp hfour⟩, digits.drop 4, ?_,
        fun hmem => hcolons (mem_of_mem_drop hmem), fun hne => ⟨_, rfl, ?_⟩, ?_, ?_, hle⟩
      · simp [text, fractionText]
      · have hlen := length_pos_of_ne_nil hne
        rw [length_drop] at hlen
        rw [length_take]
        omega
      · rintro _ ⟨⟩
        exact length_take_le _ _
      · rw [milliseconds_eq, hhour, hminute]
        rw [← hsum, ← hsnd, ← Option.some.inj hfrac]
        rfl
  · rintro ⟨target, rest, rfl, hcolon, hbehind, hfour, hsum, hle⟩
    obtain ⟨hhours, hminutes, hseconds⟩ := target.digits_of_numerals
    have hnone : target.fraction = none → rest = [] := by
      intro hfrac
      by_contra hne
      obtain ⟨digits, hsome, -⟩ := hbehind hne
      rw [hfrac] at hsome
      cases hsome
    have hfrac : 0x3a ∉ target.fractionText := by
      rw [fractionText]
      cases hdigs : target.fraction with
      | none => exact not_mem_nil
      | some digits =>
        rw [Option.elim_some, mem_cons, not_or]
        exact ⟨by decide, (not_mem_of_digits (target.decimals digits hdigs)).1⟩
    have htext : target.text ++ rest = target.hours ++ 0x3a :: (target.minutes ++ 0x3a ::
        (target.seconds ++ (target.fractionText ++ rest))) := by
      simp [text]
    have htail : 0x3a ∉ target.seconds ++ (target.fractionText ++ rest) := by
      rw [mem_append, mem_append, not_or, not_or]
      exact ⟨(not_mem_of_digits hseconds).1, hfrac, hcolon⟩
    have hsecondstext : (target.fraction.map fun digits => (target.seconds, digits ++ rest)).elim
        (target.seconds ++ (target.fractionText ++ rest)) Prod.fst = target.seconds := by
      rw [fractionText]
      cases hdigs : target.fraction with
      | none =>
        rw [hnone hdigs]
        simp
      | some digits => rfl
    have hfractionvalue : (target.fraction.map fun digits => (target.seconds, digits ++ rest)).elim
        (some 0) (parseFractionMs ·.2) = some (target.fraction.elim 0 (scaled 3)) := by
      cases hdigs : target.fraction with
      | none => rfl
      | some digits =>
        have htake : (digits ++ rest).take 4 = digits := by
          by_cases hrest : rest = []
          · rw [hrest, append_nil]
            exact take_of_length_le (hfour digits hdigs)
          obtain ⟨other, hother, hlen⟩ := hbehind hrest
          rw [hdigs] at hother
          obtain rfl := Option.some.inj hother
          rw [← hlen, take_left]
        rw [Option.map_some, Option.elim_some, Option.elim_some, parseFractionMs_eq, htake,
          if_pos (all_isdigit_iff.mpr (target.decimals digits hdigs))]
    have hmax : intMax ≤ llongMax := by decide
    rw [milliseconds_eq] at hsum
    have hhour := parseUnsignedLl_eq_some_iff.mpr
      ⟨target.nonempty.1, hhours, rfl, show value target.hours ≤ llongMax by omega⟩
    have hminute := parseUnsignedLl_eq_some_iff.mpr
      ⟨target.nonempty.2.1, hminutes, rfl, show value target.minutes ≤ llongMax by omega⟩
    have hsnd := parseUnsignedLl_eq_some_iff.mpr
      ⟨target.nonempty.2.2, hseconds, rfl, show value target.seconds ≤ llongMax by omega⟩
    rw [htext, parseHhmmssMs_of_cut (not_mem_of_digits hhours).1
      (not_mem_of_digits hminutes).1 htail, target.cut_dot hnone, hsecondstext]
    exact ⟨_, _, _, _, hhour, hminute, hsnd, hfractionvalue, hsum, hle⟩

/-! ## What is accepted -/

namespace SeekTarget

variable {target : SeekTarget}

lemma tail_eq_of_text_eq {other : SeekTarget} {rest : List UInt8}
    (h : other.text = target.text ++ rest) :
    other.seconds ++ other.fractionText = target.seconds ++ (target.fractionText ++ rest) := by
  have hcut : ∀ target : SeekTarget, ∀ rest : List UInt8,
      ((cut 0x3a (target.text ++ rest)).bind fun pieces => cut 0x3a pieces.2).map
        Prod.snd = some (target.seconds ++ (target.fractionText ++ rest)) := by
    intro target rest
    obtain ⟨hhours, hminutes, -⟩ := target.digits_of_numerals
    have htext : target.text ++ rest = target.hours ++ 0x3a :: (target.minutes ++ 0x3a ::
        (target.seconds ++ (target.fractionText ++ rest))) := by
      simp [text]
    rw [htext, cut_append_cons (not_mem_of_digits hhours).1, Option.bind_some,
      cut_append_cons (not_mem_of_digits hminutes).1, Option.map_some]
  have hother := hcut other []
  rw [append_nil, append_nil, h, hcut target rest] at hother
  exact (Option.some.inj hother).symm

/-- A target with another fraction. -/
def withFraction (target : SeekTarget) (digits : List UInt8)
    (h : ∀ byte ∈ digits, Decimal.IsDigit byte) : SeekTarget :=
  { target with fraction := some digits, decimals := fun _ hother => Option.some.inj hother ▸ h }

lemma text_withFraction {front digits rest : List UInt8} {h : ∀ byte ∈ digits, Decimal.IsDigit byte}
    (hfrac : target.fraction = some front) (happend : digits ++ rest = front) :
    (target.withFraction digits h).text ++ rest = target.text := by
  rw [text, text, fractionText, fractionText, hfrac, ← happend]
  simp [withFraction]

lemma milliseconds_withFraction {front back digits : List UInt8}
    {h : ∀ byte ∈ digits, Decimal.IsDigit byte} (hfrac : target.fraction = some (front ++ back))
    (hfront : front.length = 4) (hback : ∀ byte ∈ back, Decimal.IsDigit byte)
    (hdigs : digits = front) :
    (target.withFraction digits h).milliseconds = target.milliseconds := by
  have hlong : scaled 3 (front ++ back) = (value front + 5) / 10 :=
    scaled_long hfront hback
  have hshort : scaled 3 (front ++ []) = (value front + 5) / 10 :=
    scaled_long hfront (by simp)
  rw [append_nil] at hshort
  rw [milliseconds, milliseconds, hfrac]
  simp only [withFraction, wholeSeconds, Option.elim_some, hdigs, hshort, hlong]

/-- Every target for a position an `int` holds is read as that position. -/
lemma parse_of_denotes {text : List UInt8} {ms : ℕ} (h : Denotes text ms) :
    parseHhmmssMs text = some ms := by
  obtain ⟨target, rfl, hms, hle⟩ := h
  rw [parseHhmmssMs_eq_some_iff]
  cases hfrac : target.fraction with
  | none =>
    refine ⟨target, [], by simp, not_mem_nil, absurd rfl, ?_, hms, hle⟩
    rw [hfrac]
    exact nofun
  | some digits =>
    have hdigs := target.decimals digits hfrac
    by_cases hlong : digits.length ≤ 4
    · refine ⟨target, [], by simp, not_mem_nil, absurd rfl, ?_, hms, hle⟩
      rw [hfrac]
      rintro _ ⟨⟩
      exact hlong
    have hfour : (digits.take 4).length = 4 := by
      rw [length_take]
      omega
    have hfront : ∀ byte ∈ digits.take 4, Decimal.IsDigit byte := fun byte hbyte =>
      hdigs byte (mem_of_mem_take hbyte)
    have hback : ∀ byte ∈ digits.drop 4, Decimal.IsDigit byte := fun byte hbyte =>
      hdigs byte (mem_of_mem_drop hbyte)
    refine ⟨target.withFraction (digits.take 4) hfront, digits.drop 4,
      (text_withFraction hfrac (take_append_drop 4 digits)).symm,
      (not_mem_of_digits hback).1, fun _ => ⟨_, rfl, hfour⟩, ?_, ?_, hle⟩
    · rintro _ ⟨⟩
      exact hfour.le
    · have hsplit : target.fraction = some (digits.take 4 ++ digits.drop 4) := by
        rw [hfrac, take_append_drop]
      rw [milliseconds_withFraction hsplit hfour hback rfl, hms]

lemma denotes_of_parse {text : List UInt8} {ms : ℕ} (h : parseHhmmssMs text = some ms)
    (hseen : ¬Overlooked text) : Denotes text ms := by
  obtain ⟨target, rest, rfl, hcolon, hbehind, -, hms, hle⟩ := parseHhmmssMs_eq_some_iff.mp h
  by_cases hrest : rest = []
  · exact ⟨target, by rw [hrest, append_nil], hms, hle⟩
  obtain ⟨digits, hfrac, hfour⟩ := hbehind hrest
  have hback : ∀ byte ∈ rest, Decimal.IsDigit byte := by
    intro byte hbyte
    by_contra hnot
    exact hseen ⟨target, digits, rest, hfrac, hfour, hms ▸ hle, rfl, hcolon, byte, hbyte, hnot⟩
  have hdigs : ∀ byte ∈ digits ++ rest, Decimal.IsDigit byte := by
    intro byte hbyte
    rcases mem_append.mp hbyte with hbyte | hbyte
    · exact target.decimals digits hfrac byte hbyte
    · exact hback byte hbyte
  let whole := target.withFraction (digits ++ rest) hdigs
  have hsame : whole.withFraction digits (target.decimals digits hfrac) = target := by
    simp only [whole, withFraction, ← hfrac]
  refine ⟨whole, ?_, ?_, hle⟩
  · rw [← text_withFraction (h := target.decimals digits hfrac) rfl rfl, hsame]
  · rw [← milliseconds_withFraction (h := target.decimals digits hfrac) rfl hfour hback rfl, hsame, hms]

lemma Overlooked.misread {text : List UInt8} (h : Overlooked text) :
    ∃ ms, parseHhmmssMs text = some ms ∧ ¬Denotes text ms := by
  obtain ⟨target, digits, rest, hfrac, hfour, hle, rfl, hcolon, byte, hbyte, hnot⟩ := h
  refine ⟨target.milliseconds, ?_, ?_⟩
  · rw [parseHhmmssMs_eq_some_iff]
    refine ⟨target, rest, rfl, hcolon, fun _ => ⟨digits, hfrac, hfour⟩, ?_, rfl, hle⟩
    rw [hfrac]
    rintro _ ⟨⟩
    exact hfour.le
  rintro ⟨other, htext, -, -⟩
  have htail := congrArg (cut 0x2e) (tail_eq_of_text_eq htext)
  rw [← append_nil other.fractionText, other.cut_dot fun _ => rfl,
    target.cut_dot fun hnone => absurd (hfrac ▸ hnone) nofun, hfrac] at htail
  cases hother : other.fraction with
  | none =>
    rw [hother] at htail
    cases htail
  | some decimals =>
    rw [hother, Option.map_some, Option.map_some, append_nil] at htail
    have hdecimals : decimals = digits ++ rest := (Prod.mk.inj (Option.some.inj htail)).2
    exact hnot (other.decimals decimals hother byte (hdecimals ▸ mem_append_right _ hbyte))

end SeekTarget

/-! ## Whole strings -/

/-- The string between the blanks at its ends. -/
def trimmed (target : CString) : List UInt8 := trimEnd (skipSpaces target.bytes)

lemma mem_trimmed {target : CString} {byte : UInt8} (hmem : byte ∈ target.bytes)
    (hblank : isspace byte = false) : byte ∈ trimmed target := by
  have hdrop : ∀ text : List UInt8, byte ∈ text → byte ∈ text.dropWhile isspace := by
    intro text htext
    rw [← takeWhile_append_dropWhile (p := isspace) (l := text), mem_append] at htext
    rcases htext with htaken | hleft
    · rw [mem_takeWhile_imp htaken] at hblank
      cases hblank
    · exact hleft
  rw [trimmed, trimEnd, rdropWhile, mem_reverse]
  exact hdrop _ (mem_reverse.mpr (hdrop _ hmem))

lemma trimmed_of_unblank {target : CString} (h : ∀ byte ∈ target.bytes, isspace byte = false) :
    trimmed target = target.bytes := by
  have hdrop : ∀ text : List UInt8, (∀ byte ∈ text, isspace byte = false) →
      text.dropWhile isspace = text := by
    intro text htext
    rw [dropWhile_eq_self_iff]
    intro hlen
    simp [htext _ (getElem_mem hlen)]
  rw [trimmed, trimEnd, skipSpaces, hdrop _ h, rdropWhile,
    hdrop _ fun byte hbyte => h byte (mem_reverse.mp hbyte), reverse_reverse]

/-- A string with a colon is read as `H:M:S`. -/
lemma playerSeekTargetParseMs_of_colon (numeric : List UInt8 → Option ℕ) {target : CString}
    (h : 0x3a ∈ target.bytes) :
    playerSeekTargetParseMs numeric target = parseHhmmssMs (trimmed target) := by
  have hcolon : 0x3a ∈ trimmed target := mem_trimmed h rfl
  have htrimmed : trimEnd (skipSpaces target.bytes) ≠ [] := ne_nil_of_mem hcolon
  have hstart : skipSpaces target.bytes ≠ [] := by
    intro hempty
    rw [hempty] at htrimmed
    exact htrimmed rfl
  rw [playerSeekTargetParseMs]
  rw [if_neg hstart, if_neg htrimmed]
  exact if_pos hcolon

/-! ## What is written -/

lemma twoDigits_spec (value : ℕ) :
    twoDigits value ≠ [] ∧ (∀ byte ∈ twoDigits value, Decimal.IsDigit byte) ∧
      Decimal.value (twoDigits value) = value := by
  rw [twoDigits]
  split_ifs with hsmall
  · refine ⟨cons_ne_nil _ _, ?_, ?_⟩
    · rw [forall_mem_cons]
      exact ⟨by decide, isDigit_of_mem_digits value⟩
    · rw [← singleton_append, Decimal.value_append, Decimal.value_digits]
      simp [Decimal.value, Decimal.valueFrom]
  · exact ⟨digits_ne_nil value, isDigit_of_mem_digits value, value_digits value⟩

/-- The target that is written for a number of seconds. -/
def SeekTarget.ofSeconds (total : ℕ) : SeekTarget where
  hours := twoDigits (total / 3600)
  minutes := twoDigits (total % 3600 / 60)
  seconds := twoDigits (total % 60)
  fraction := none
  nonempty := ⟨(twoDigits_spec _).1, (twoDigits_spec _).1, (twoDigits_spec _).1⟩
  numerals := by
    intro byte hbyte
    rcases List.mem_append.mp hbyte with hbyte | hbyte
    · rcases List.mem_append.mp hbyte with hbyte | hbyte
      all_goals exact (twoDigits_spec _).2.1 byte hbyte
    · exact (twoDigits_spec _).2.1 byte hbyte
  decimals := nofun

lemma SeekTarget.milliseconds_ofSeconds (total : ℕ) :
    (ofSeconds total).milliseconds = total * 1000 := by
  rw [milliseconds, wholeSeconds]
  simp only [ofSeconds, (twoDigits_spec _).2.2, Option.elim_none]
  omega

lemma SeekTarget.mem_text_ofSeconds {total : ℕ} {byte : UInt8}
    (h : byte ∈ (ofSeconds total).text) : Decimal.IsDigit byte ∨ byte = 0x3a := by
  have hnumerals := (ofSeconds total).numerals byte
  simp only [text, fractionText, mem_append, mem_cons] at h hnumerals
  have hnone : (ofSeconds total).fraction = none := rfl
  rw [hnone, Option.elim_none] at h
  tauto

lemma bytes_format (position : ℤ) :
    (playerSeekTargetFormatHhmmss position).bytes = (ofSeconds (position.toNat / 1000)).text := by
  have hpositive : (if position < 0 then 0 else position.toNat) = position.toNat := by
    split_ifs <;> omega
  have htext : (ofSeconds (position.toNat / 1000)).text =
      twoDigits (position.toNat / 1000 / 3600) ++ 0x3a :: (twoDigits (position.toNat / 1000 % 3600 / 60) ++
        0x3a :: twoDigits (position.toNat / 1000 % 60)) := by
    simp [text, fractionText, ofSeconds]
  have hnul : (0 : UInt8) ∉ (ofSeconds (position.toNat / 1000)).text := by
    intro hmem
    rcases mem_text_ofSeconds hmem with hdigit | hcolon
    · exact (isDigit_not hdigit).2.2.1 rfl
    · exact absurd hcolon (by decide)
  rw [playerSeekTargetFormatHhmmss]
  rw [hpositive, ← htext, CString.bytes_ofBuffer hnul]

/-- **Round trip.**  A position that was written is read back in whole seconds. -/
lemma parse_format {numeric : List UInt8 → Option ℕ} {position : ℤ} (hle : position ≤ intMax) :
    playerSeekTargetParseMs numeric (playerSeekTargetFormatHhmmss position) =
      some (position.toNat / 1000 * 1000) := by
  have hcolon : 0x3a ∈ (playerSeekTargetFormatHhmmss position).bytes := by
    rw [bytes_format, text]
    exact mem_append_right _ mem_cons_self
  have hunblank : ∀ byte ∈ (playerSeekTargetFormatHhmmss position).bytes, isspace byte = false := by
    intro byte hbyte
    rw [bytes_format] at hbyte
    rcases mem_text_ofSeconds hbyte with hdigit | rfl
    · exact (isDigit_not hdigit).2.2.2
    · rfl
  rw [playerSeekTargetParseMs_of_colon _ hcolon, trimmed_of_unblank hunblank, bytes_format]
  apply parse_of_denotes
  exact ⟨_, rfl, milliseconds_ofSeconds _, by omega⟩

/-- **The grammar of seek targets.**  A string with a colon is read as what it denotes, and only if it
denotes a position, exactly if nothing behind the fourth digit of its fraction was overlooked.  A position
that was written is read back in whole seconds. -/
theorem playerSeekTarget_law (numeric : List UInt8 → Option ℕ) :
    (∀ target : CString, 0x3a ∈ target.bytes →
      ((∀ ms, playerSeekTargetParseMs numeric target = some ms ↔ SeekTarget.Denotes (trimmed target) ms) ↔
        ¬SeekTarget.Overlooked (trimmed target))) ∧
    ∀ position : ℤ, 0 ≤ position → position ≤ intMax →
      playerSeekTargetParseMs numeric (playerSeekTargetFormatHhmmss position) =
        some (position.toNat / 1000 * 1000) := by
  refine ⟨fun target hcolon => ?_, fun position _ hle => parse_format hle⟩
  rw [playerSeekTargetParseMs_of_colon _ hcolon]
  constructor
  · intro hgrammar hoverlooked
    obtain ⟨ms, hparse, hnot⟩ := hoverlooked.misread
    exact hnot ((hgrammar ms).mp hparse)
  · intro hseen ms
    exact ⟨fun hparse => SeekTarget.denotes_of_parse hparse hseen, SeekTarget.parse_of_denotes⟩

/-- At `" 1:02:03.45 "`, and at a position of one and a half seconds. -/
theorem playerSeekTarget_law_read :
    (((∀ ms, playerSeekTargetParseMs (fun _ => none) (cstring " 1:02:03.45 ") = some ms ↔
        SeekTarget.Denotes (trimmed (cstring " 1:02:03.45 ")) ms) ↔
      ¬SeekTarget.Overlooked (trimmed (cstring " 1:02:03.45 "))) ∧
    playerSeekTargetParseMs (fun _ => none) (playerSeekTargetFormatHhmmss 1500) = some 1000) :=
  ⟨(playerSeekTarget_law fun _ => none).1 (cstring " 1:02:03.45 ") (by decide),
    (playerSeekTarget_law fun _ => none).2 1500 (by decide) (by decide)⟩

/-- The target of `"0:0:0.1234"`. -/
def SeekTarget.overlooked : SeekTarget where
  hours := asciiBytes "0"
  minutes := asciiBytes "0"
  seconds := asciiBytes "0"
  fraction := some (asciiBytes "1234")
  nonempty := by decide
  numerals := by decide +kernel
  decimals := by decide +kernel

/-- `"0:0:0.1234x"` is read, and is no target. -/
theorem playerSeekTarget_overlooks :
    ¬∀ (numeric : List UInt8 → Option ℕ) (target : CString), 0x3a ∈ target.bytes →
      ∀ ms, playerSeekTargetParseMs numeric target = some ms ↔ SeekTarget.Denotes (trimmed target) ms := by
  intro hgrammar
  have hoverlooked : SeekTarget.Overlooked (trimmed (cstring "0:0:0.1234x")) :=
    ⟨SeekTarget.overlooked, asciiBytes "1234", asciiBytes "x", rfl, rfl, by decide, by decide, by decide,
      0x78, by decide, by decide⟩
  have hcolon : 0x3a ∈ (cstring "0:0:0.1234x").bytes := by decide
  obtain ⟨ms, hparse, hnot⟩ := hoverlooked.misread
  rw [← playerSeekTargetParseMs_of_colon (fun _ => none) hcolon] at hparse
  exact hnot ((hgrammar (fun _ => none) _ hcolon ms).mp hparse)

end NXCast

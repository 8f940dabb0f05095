import NXCast.Http.HttpServer

/-!
# How requests are framed

Which calls a connection makes of the handler.  A request is framed when its bytes are a header and
the body that the header declares, and when its method and its path are the first words of its first
line.  The reader frames some streams for every way in which `recv` cuts them, and these are described
here by the bytes alone: the length it counts has to be the declared one, and nothing may follow the
body that `recv` could deliver with it.
-/

namespace NXCast

open List TextSearch Option

/-! ## Framed requests -/

/-- A byte that is no white space. -/
def isWordByte (byte : UInt8) : Bool := !isspace byte

/-- The first line of a header. -/
def requestLine (header : List UInt8) : List UInt8 := (crlfLines header).head?.getD []

/-- The first word of a line. -/
def firstWord (line : List UInt8) : List UInt8 := (line.dropWhile isspace).takeWhile isWordByte

/-- What follows the first word of a line. -/
def afterWord (line : List UInt8) : List UInt8 := (line.dropWhile isspace).dropWhile isWordByte

/-- The field of a header line with a name. -/
def headerField (name line : List UInt8) : Option (List UInt8) :=
  if sameText (line.take name.length) name ∧ (line)[name.length]? = some 0x3a then
    some (((line.drop (name.length + 1)).dropWhile isblank).rdropWhile isblank)
  else none

/-- The length that a header declares for the body; none for a field that is no number. -/
def declaredLength (header : List UInt8) : Option ℕ :=
  match ((crlfLines header).tail).findSome? (headerField (asciiBytes "Content-Length")) with
  | none => some 0
  | some value => if value ≠ [] ∧ value.all isdigit then some (Decimal.value value) else none

/-- The bytes are a header and its body, and the words are those of the request line. -/
def FramedRequest (ctx : HttpRequestContext) : Prop :=
  ∃ h n, findHeaderEnd ctx.request = some h ∧ declaredLength (ctx.request.take h) = some n ∧
    ctx.request.length = h + n ∧ ctx.method = firstWord (requestLine (ctx.request.take h)) ∧
    ctx.rawPath = firstWord (afterWord (requestLine (ctx.request.take h)))

/-- Every text fits its buffer with the terminator. -/
structure ContainedRequest (ctx : HttpRequestContext) : Prop where
  request : ctx.request.length < httpServerRequestBufferSize
  method : ctx.method.length < httpMethodSize
  rawPath : ctx.rawPath.length < httpPathSize
  path : ctx.path.length < httpPathSize
  host : ctx.host.length < httpHostSize

/-- A connection makes one call at most, with a framed request of what was sent. -/
def FramedCalls (port : UInt16) (stream : List UInt8) (answers : List RecvAnswer) : Prop :=
  (handleClient port stream answers).length ≤ 1 ∧
    ∀ ctx ∈ handleClient port stream answers,
      ctx.request <+: stream ∧ FramedRequest ctx ∧ ContainedRequest ctx

/-! ## Streams that are framed -/

/-- How much of a stream the buffer takes. -/
def receivable (stream : List UInt8) : ℕ := min (httpServerRequestBufferSize - 1) stream.length

/-- The first `len` bytes of a stream can be taken for a request: they hold a header that ends at `h`
and all that is counted for it, and there are two words. -/
structure Taken (stream : List UInt8) (h : ℕ) (total : UInt64) (len : ℕ) : Prop where
  header : findHeaderEnd stream = some h
  counted : httpExpectedTotal (stream.take h) = some total
  all : max h total.toNat ≤ len
  bounded : len ≤ receivable stream
  scanned : (parseRequestLine (httpString (stream.take len))).isSome

/-- The words of a request line that are scanned as they are. -/
structure PlainWords (line : List UInt8) : Prop where
  method : firstWord line ≠ []
  methodFits : (firstWord line).length < httpMethodSize
  methodText : 0 ∉ firstWord line
  path : firstWord (afterWord line) ≠ []
  pathFits : (firstWord (afterWord line)).length < httpPathSize
  pathText : 0 ∉ firstWord (afterWord line)

/-- What can be taken is counted to the end of the declared body, nothing is received behind it, and
the words are plain. -/
def PlainStream (stream : List UInt8) : Prop :=
  ∀ h total len, Taken stream h total len →
    ∃ n, declaredLength (stream.take h) = some n ∧ max h total.toNat = h + n ∧
      receivable stream = h + n ∧ PlainWords (requestLine (stream.take h))

/-! ## Lines of a header -/

lemma crlfLines_ne_nil (text : List UInt8) (h : text ≠ []) : crlfLines text ≠ [] := by
  unfold crlfLines
  split
  · exact absurd rfl h
  · exact cons_ne_nil _ _
  · split <;> exact cons_ne_nil _ _

variable {line : List UInt8} {byte : UInt8} {text : List UInt8}

lemma crlfLines_cons {more : List (List UInt8)} (h : byte = 0x0d → text.head? ≠ some 0x0a)
    (htext : crlfLines text = line :: more) :
    crlfLines (byte :: text) = (byte :: line) :: more := by
  rw [crlfLines.eq_3 _ _ fun rest hbyte hrest => h hbyte (by rw [hrest, head?_cons]), htext]

lemma crlf_induction {motive : List UInt8 → Prop} (nil : motive [])
    (ends : ∀ text, motive text → motive (0x0d :: 0x0a :: text))
    (cons : ∀ byte text, (byte = 0x0d → text.head? ≠ some 0x0a) → motive text →
      motive (byte :: text)) (text : List UInt8) : motive text := by
  induction text using crlfLines.induct with
  | case1 => exact nil
  | case2 text ih => exact ends text ih
  | case3 byte text hne hnil ih =>
    refine cons byte text (fun hbyte hhead => ?_) ih
    obtain ⟨rest, rfl⟩ := head?_eq_some_iff.mp hhead
    exact hne rest hbyte rfl
  | case4 byte text hne line lines hlines ih =>
    refine cons byte text (fun hbyte hhead => ?_) ih
    obtain ⟨rest, rfl⟩ := head?_eq_some_iff.mp hhead
    exact hne rest hbyte rfl

lemma head_append_ne (h : byte = 0x0d → text.head? ≠ some 0x0a) (rest : List UInt8) :
    byte = 0x0d → (text ++ 0x0d :: rest).head? ≠ some 0x0a := by
  intro hbyte
  cases text with
  | nil =>
    rw [nil_append, head?_cons]
    decide
  | cons first text => exact h hbyte

lemma crlfLines_append (text rest : List UInt8) :
    crlfLines (text ++ 0x0d :: 0x0a :: rest) =
      crlfLines (text ++ [0x0d, 0x0a]) ++ crlfLines rest := by
  induction text using crlf_induction with
  | nil => rfl
  | ends text ih =>
    rw [cons_append, cons_append, cons_append, cons_append, crlfLines,
      crlfLines, ih, cons_append]
  | cons byte text hbyte ih =>
    obtain ⟨line, more, hlines⟩ := exists_cons_of_ne_nil
      (crlfLines_ne_nil (text ++ [0x0d, 0x0a]) (by simp))
    rw [hlines, cons_append] at ih
    rw [cons_append, cons_append, crlfLines_cons (head_append_ne hbyte _) ih,
      crlfLines_cons (head_append_ne hbyte _) hlines, cons_append]

lemma crlfLines_head (text rest : List UInt8) :
    ∃ line lines more, crlfLines (text ++ 0x0d :: 0x0a :: rest) = line :: lines ∧
      text ++ 0x0d :: 0x0a :: rest = line ++ 0x0d :: more := by
  induction text using crlf_induction with
  | nil => exact ⟨[], crlfLines rest, 0x0a :: rest, rfl, rfl⟩
  | ends text ih =>
    exact ⟨[], crlfLines (text ++ 0x0d :: 0x0a :: rest), 0x0a :: (text ++ 0x0d :: 0x0a :: rest),
      rfl, rfl⟩
  | cons byte text hbyte ih =>
    obtain ⟨line, lines, more, hlines, htext⟩ := ih
    refine ⟨byte :: line, lines, more, ?_, by rw [cons_append, htext, cons_append]⟩
    rw [cons_append, crlfLines_cons (head_append_ne hbyte _) hlines]

/-! ## A header inside a stream -/

lemma findHeaderEnd_take {stream : List UInt8} {len h : ℕ} :
    findHeaderEnd (stream.take len) = some h ↔ findHeaderEnd stream = some h ∧ h ≤ len := by
  have hne : asciiBytes "\r\n\r\n" ≠ [] := by decide
  have hlen : (asciiBytes "\r\n\r\n").length = 4 := by decide
  rw [findHeaderEnd, findHeaderEnd, map_eq_some_iff, map_eq_some_iff]
  constructor
  · rintro ⟨i, hi, rfl⟩
    obtain ⟨hi, hle⟩ := (first_take hne).mp hi
    exact ⟨⟨i, hi, rfl⟩, by omega⟩
  · rintro ⟨⟨i, hi, rfl⟩, hle⟩
    exact ⟨i, (first_take hne).mpr ⟨hi, by omega⟩, rfl⟩

lemma header_eq {stream : List UInt8} {h : ℕ} (hend : findHeaderEnd stream = some h) :
    h ≤ stream.length ∧ ∃ text, stream.take h = text ++ asciiBytes "\r\n\r\n" := by
  rw [findHeaderEnd, map_eq_some_iff] at hend
  obtain ⟨i, hi, rfl⟩ := hend
  obtain ⟨⟨rest, hrest⟩, -⟩ := (first_eq_some_iff (by decide)).mp hi
  have hlength : (asciiBytes "\r\n\r\n").length = 4 := by decide
  have hlen := congrArg length hrest
  rw [length_append, hlength, length_drop] at hlen
  refine ⟨by omega, stream.take i, ?_⟩
  rw [take_add, ← hrest, take_append_of_le_length (Nat.le_of_eq hlength.symm),
    take_of_length_le (Nat.le_of_eq hlength)]

lemma takeWhile_append_nil_cons (lines more : List (List UInt8)) :
    (lines ++ [] :: more).takeWhile (· ≠ []) = lines.takeWhile (· ≠ []) := by
  rw [takeWhile_append]
  split_ifs with hlen
  · rw [takeWhile_cons, if_neg (by simp), append_nil]
    exact (( takeWhile_prefix _).eq_of_length hlen).symm
  · rfl

lemma headerLines_append (text more : List UInt8) :
    (crlfLines (httpString (text ++ asciiBytes "\r\n\r\n" ++ more))).takeWhile (· ≠ []) =
      (crlfLines (httpString (text ++ asciiBytes "\r\n\r\n"))).takeWhile (· ≠ []) := by
  have hends : asciiBytes "\r\n\r\n" = 0x0d :: 0x0a :: [0x0d, 0x0a] := by decide
  rw [httpString, httpString, takeWhile_append]
  split_ifs with hlen
  · have hall := ( takeWhile_prefix _).eq_of_length hlen
    rw [hall, hends, append_assoc, cons_append, cons_append, crlfLines_append,
      crlfLines_append text [0x0d, 0x0a]]
    exact (takeWhile_append_nil_cons _ _).trans (takeWhile_append_nil_cons _ []).symm
  · rfl

variable {stream : List UInt8} {h len : ℕ}

/-- The length counted for a request does not depend on what has been received behind its header. -/
lemma httpExpectedTotal_take (hend : findHeaderEnd stream = some h) (hle : h ≤ len) :
    httpExpectedTotal (stream.take len) = httpExpectedTotal (stream.take h) := by
  obtain ⟨-, text, htext⟩ := header_eq hend
  have hsplit : stream.take len = stream.take h ++ (stream.drop h).take (len - h) := by
    rw [← take_add, Nat.add_sub_cancel' hle]
  rw [httpExpectedTotal, httpExpectedTotal, findHeaderEnd_take.mpr ⟨hend, hle⟩,
    findHeaderEnd_take.mpr ⟨hend, le_rfl⟩, map_some, map_some, parseContentLength,
    parseContentLength, httpGetHeaderValue, httpGetHeaderValue, hsplit, htext, headerLines_append]

variable {total : UInt64}

lemma httpExpectedTotal_eq_some (hcnt : httpExpectedTotal (stream.take len) = some total) :
    ∃ h, findHeaderEnd stream = some h ∧ h ≤ len ∧
      httpExpectedTotal (stream.take h) = some total := by
  have hfound := hcnt
  rw [httpExpectedTotal, map_eq_some_iff] at hfound
  obtain ⟨h, hend, -⟩ := hfound
  obtain ⟨hend, hle⟩ := findHeaderEnd_take.mp hend
  exact ⟨h, hend, hle, (httpExpectedTotal_take hend hle).symm.trans hcnt⟩

/-! ## What is received -/

/-- A `recv` never writes beyond the buffer, nor past the stream. -/
lemma recvChunk_le (stream : List UInt8) (hlen : len ≤ receivable stream) (size : ℕ) :
    len + recvChunk stream len size ≤ receivable stream := by
  unfold recvChunk receivable at *
  omega

/-- The reader ends between what is counted and what can be received. -/
structure Received (stream : List UInt8) (len : ℕ) (total : UInt64) : Prop where
  counted : httpExpectedTotal (stream.take len) = some total
  all : total.toNat ≤ len
  bounded : len ≤ receivable stream

variable {expectedTotal : Option UInt64}

lemma recvDone_eq_some {final : ℕ}
    (hdone : recvDone len expectedTotal = some final) :
    final = len ∧ ∃ total, expectedTotal = some total ∧ total.toNat ≤ len := by
  unfold recvDone at hdone
  split at hdone
  · cases hdone
  rw [bind_eq_some_iff] at hdone
  obtain ⟨total, htotal, hdone⟩ := hdone
  split at hdone
  · cases hdone
  · rename_i hall
    exact ⟨(some.inj hdone).symm, total, htotal, Nat.le_of_not_lt hall⟩

lemma httpExpectedTotal_mono {more : ℕ} (hcnt : httpExpectedTotal (stream.take len) = some total)
    (hle : len ≤ more) : httpExpectedTotal (stream.take more) = some total := by
  obtain ⟨h, hend, hh, hcnt⟩ := httpExpectedTotal_eq_some hcnt
  rw [httpExpectedTotal_take hend (hh.trans hle), hcnt]

lemma recvLoop_received (answers : List RecvAnswer) {final : ℕ}
    (hlen : len ≤ receivable stream)
    (hcnt : ∀ total, expectedTotal = some total → httpExpectedTotal (stream.take len) = some total)
    (hloop : recvLoop stream answers len expectedTotal = some final) :
    ∃ total, Received stream final total := by
  have hdone : ∀ {len : ℕ} {expectedTotal : Option UInt64}, len ≤ receivable stream →
      (∀ total, expectedTotal = some total → httpExpectedTotal (stream.take len) = some total) →
      recvDone len expectedTotal = some final → ∃ total, Received stream final total := by
    intro len expectedTotal hlen hcnt hdone
    obtain ⟨rfl, total, htotal, hall⟩ := recvDone_eq_some hdone
    exact ⟨total, hcnt total htotal, hall, hlen⟩
  induction answers generalizing len expectedTotal with
  | nil => exact hdone hlen hcnt hloop
  | cons answer answers ih =>
    unfold recvLoop at hloop
    split at hloop
    · exact hdone hlen hcnt hloop
    cases answer with
    | chunk size =>
      have hmore := recvChunk_le stream hlen size
      dsimp only at hloop
      split at hloop
      · exact hdone hlen hcnt hloop
      split at hloop
      · split at hloop
        · exact ih hmore (by exact nofun) hloop
        rename_i total htotal
        split at hloop
        · cases hloop
        have hnow : ∀ now, some total = some now → httpExpectedTotal
            (stream.take (len + recvChunk stream len size)) = some now :=
          fun now hnow => hnow ▸ htotal
        split at hloop
        · exact hdone hmore hnow hloop
        · exact ih hmore hnow hloop
      · have hnow := fun now hnow =>
          httpExpectedTotal_mono (hcnt now hnow) (Nat.le_add_right len (recvChunk stream len size))
        split at hloop
        · exact hdone hmore hnow hloop
        · exact ih hmore hnow hloop
    | interrupted => exact ih hlen hcnt hloop
    | timedOut => exact hdone hlen hcnt hloop
    | failed => cases hloop

variable {answers : List RecvAnswer}

lemma recvFullHttpRequest_received {request : List UInt8}
    (hrecv : recvFullHttpRequest stream answers = some request) :
    ∃ len total, Received stream len total ∧ request = stream.take len := by
  rw [recvFullHttpRequest, map_eq_some_iff] at hrecv
  obtain ⟨len, hloop, rfl⟩ := hrecv
  obtain ⟨total, hreceived⟩ := recvLoop_received answers (Nat.zero_le _) (by exact nofun) hloop
  exact ⟨len, total, hreceived, rfl⟩

/-- One `recv` can bring all that is received. -/
lemma recvFullHttpRequest_chunk (hrecv : Received stream len total) :
    recvFullHttpRequest stream [.chunk (len - 1)] = some (stream.take len) := by
  obtain ⟨hcnt, hall, hbounded⟩ := hrecv
  have hpos : len ≠ 0 := by
    rintro rfl
    have hnone : httpExpectedTotal [] = none := by decide +kernel
    cases hcnt
  have hcap : len < httpServerRequestBufferSize := by
    unfold receivable httpServerRequestBufferSize at *
    omega
  have hchunk : recvChunk stream 0 (len - 1) = len := by
    unfold recvChunk receivable httpServerRequestBufferSize at *
    omega
  rw [recvFullHttpRequest, recvLoop, if_neg (by decide)]
  simp only [hchunk, if_neg hpos, Nat.zero_add, hcnt]
  rw [if_neg (by omega), if_pos hall, recvDone, if_neg hpos, bind_some,
    if_neg (Nat.not_lt.mpr hall), map_some]

/-! ## The words of the request line -/

lemma words_eq (line : List UInt8) :
    line = line.takeWhile isspace ++ (firstWord line ++ afterWord line) := by
  rw [firstWord, afterWord, takeWhile_append_dropWhile, takeWhile_append_dropWhile]

lemma isspace_of_head_afterWord (line : List UInt8) (hhead : (afterWord line).head? = some byte) :
    isspace byte := by
  have hnot := head?_dropWhile_not isWordByte (line.dropWhile isspace)
  rw [← afterWord, hhead] at hnot
  exact (Bool.not_eq_false' (b := isspace byte)).mp hnot

lemma isspace_of_mem_takeWhile (line : List UInt8) (hmem : byte ∈ line.takeWhile isspace) :
    isspace byte := mem_takeWhile_imp hmem

lemma isWordByte_of_mem_firstWord (hmem : byte ∈ firstWord line) : isWordByte byte :=
  mem_takeWhile_imp hmem

lemma ne_zero_of_isspace (hspace : isspace byte) : byte ≠ 0 := by
  rintro rfl
  exact absurd hspace (by decide)

lemma scanToken_word (width : ℕ) {spaces word rest : List UInt8}
    (hspaces : ∀ byte ∈ spaces, isspace byte) (hword : ∀ byte ∈ word, isWordByte byte)
    (hne : word ≠ []) (hfits : word.length ≤ width)
    (hrest : ∀ byte, rest.head? = some byte → isspace byte) :
    scanToken width (spaces ++ (word ++ rest)) = some (word, rest) := by
  have hdrop : (spaces ++ (word ++ rest)).dropWhile isspace = word ++ rest := by
    rw [dropWhile_append_of_pos hspaces]
    obtain ⟨byte, word, rfl⟩ := exists_cons_of_ne_nil hne
    have hbyte : isspace byte = false := by
      have h := hword byte mem_cons_self
      rwa [isWordByte, Bool.not_eq_true'] at h
    rw [cons_append, dropWhile_cons, hbyte, if_neg Bool.false_ne_true]
  have htake : ((word ++ rest).takeWhile fun byte => !isspace byte) = word := by
    rw [takeWhile_append_of_pos (p := fun byte => !isspace byte) hword]
    cases rest with
    | nil => rw [takeWhile_nil, append_nil]
    | cons byte rest =>
      have hbyte := hrest byte head?_cons
      rw [takeWhile_cons, hbyte, Bool.not_true, if_neg Bool.false_ne_true, append_nil]
  unfold scanToken
  dsimp only
  rw [hdrop, htake, take_of_length_le hfits, if_neg hne, drop_left]

lemma scanToken_eq_some {width : ℕ} {token rest : List UInt8}
    (hscan : scanToken width text = some (token, rest)) :
    token ≠ [] ∧ token.length ≤ width ∧ (∀ byte ∈ token, byte ∈ text) ∧
      ∀ byte ∈ rest, byte ∈ text := by
  unfold scanToken at hscan
  dsimp only at hscan
  split at hscan
  · cases hscan
  rename_i hne
  obtain ⟨rfl, rfl⟩ := Prod.mk.inj (some.inj hscan)
  refine ⟨hne, length_take_le _ _, fun byte hbyte => ?_, fun byte hbyte => ?_⟩
  · exact (dropWhile_sublist _).subset
      ((takeWhile_sublist _).subset (mem_of_mem_take hbyte))
  · exact (dropWhile_sublist _).subset (mem_of_mem_drop hbyte)

lemma httpString_append (h : 0 ∉ text) (rest : List UInt8) :
    httpString (text ++ rest) = text ++ httpString rest :=
  takeWhile_append_of_pos fun byte hbyte => by
    simp only [decide_eq_true_eq]
    rintro rfl
    exact h hbyte

lemma not_mem_words (hplain : PlainWords line) :
    0 ∉ line.takeWhile isspace ++ (firstWord line ++
      ((afterWord line).takeWhile isspace ++ firstWord (afterWord line))) := by
  simp only [mem_append, not_or]
  exact ⟨fun h => ne_zero_of_isspace (isspace_of_mem_takeWhile _ h) rfl, hplain.methodText,
    fun h => ne_zero_of_isspace (isspace_of_mem_takeWhile _ h) rfl, hplain.pathText⟩

lemma isspace_of_head_httpString (hhead : (httpString text).head? = some byte) :
    text.head? = some byte := by
  cases text with
  | nil => cases hhead
  | cons first text =>
    rw [httpString, takeWhile_cons] at hhead
    split at hhead
    · exact hhead
    · cases hhead

lemma parseRequestLine_plain (hplain : PlainWords line) (more : List UInt8) :
    parseRequestLine (httpString (line ++ 0x0d :: more)) =
      some (firstWord line, firstWord (afterWord line)) := by
  have hsplit : httpString (line ++ 0x0d :: more) =
      line.takeWhile isspace ++ (firstWord line ++ ((afterWord line).takeWhile isspace ++
        (firstWord (afterWord line) ++
          httpString (afterWord (afterWord line) ++ 0x0d :: more)))) := by
    have hline := words_eq line
    rw [words_eq (afterWord line)] at hline
    have htext : line ++ 0x0d :: more = line.takeWhile isspace ++ (firstWord line ++
        ((afterWord line).takeWhile isspace ++ firstWord (afterWord line))) ++
          (afterWord (afterWord line) ++ 0x0d :: more) := by
      conv_lhs => rw [hline]
      simp only [append_assoc]
    rw [htext, httpString_append (not_mem_words hplain)]
    simp only [append_assoc]
  have hlast : ∀ byte, (httpString (afterWord (afterWord line) ++ 0x0d :: more)).head? = some byte →
      isspace byte := by
    intro byte hbyte
    have hhead := isspace_of_head_httpString hbyte
    cases hafter : afterWord (afterWord line) with
    | nil =>
      rw [hafter, nil_append, head?_cons] at hhead
      rw [← some.inj hhead]
      decide
    | cons first rest =>
      rw [hafter, cons_append, head?_cons] at hhead
      exact isspace_of_head_afterWord (afterWord line) (by rw [hafter, head?_cons, hhead])
  have hmiddle : ∀ byte, ((afterWord line).takeWhile isspace ++ (firstWord (afterWord line) ++
      httpString (afterWord (afterWord line) ++ 0x0d :: more))).head? = some byte →
      isspace byte := by
    intro byte hbyte
    obtain ⟨first, path, hfirst⟩ := exists_cons_of_ne_nil hplain.path
    refine isspace_of_head_afterWord line ?_
    rw [words_eq (afterWord line), ← hbyte, hfirst]
    cases (afterWord line).takeWhile isspace <;> rfl
  have hmethod := scanToken_word (httpMethodSize - 1)
    (fun byte h => isspace_of_mem_takeWhile line h)
    (fun byte h => isWordByte_of_mem_firstWord h) hplain.method
    (Nat.le_sub_one_of_lt hplain.methodFits) hmiddle
  have hpath := scanToken_word (httpPathSize - 1)
    (fun byte h => isspace_of_mem_takeWhile (afterWord line) h)
    (fun byte h => isWordByte_of_mem_firstWord h) hplain.path
    (Nat.le_sub_one_of_lt hplain.pathFits) hlast
  rw [hsplit, parseRequestLine, hmethod, bind_eq_bind, bind_some]
  dsimp only
  rw [hpath, Option.bind_some, Option.pure_def]

lemma plainWords_of_parseRequestLine (text : List UInt8)
    (hscan : parseRequestLine (httpString text) = some (firstWord line, firstWord (afterWord line)))
      :
    PlainWords line := by
  have htext : (0 : UInt8) ∉ httpString text := fun h => by
    simpa using mem_takeWhile_imp h
  obtain ⟨⟨method, rest⟩, hmethod, hscan⟩ := bind_eq_some_iff.mp hscan
  obtain ⟨⟨rawPath, more⟩, hpath, hscan⟩ := bind_eq_some_iff.mp hscan
  obtain ⟨rfl, rfl⟩ := Prod.mk.inj (some.inj hscan)
  obtain ⟨hmethodNe, hmethodFits, hmethodText, hrest⟩ := scanToken_eq_some hmethod
  obtain ⟨hpathNe, hpathFits, hpathText, -⟩ := scanToken_eq_some hpath
  exact
    { method := hmethodNe
      methodFits := Nat.lt_of_le_pred (by decide) hmethodFits
      methodText := fun h => htext (hmethodText 0 h)
      path := hpathNe
      pathFits := Nat.lt_of_le_pred (by decide) hpathFits
      pathText := fun h => htext (hrest 0 (hpathText 0 h)) }

lemma requestLine_header (hend : findHeaderEnd stream = some h) (hle : h ≤ len) :
    ∃ more, stream.take len = requestLine (stream.take h) ++ 0x0d :: more := by
  obtain ⟨-, text, htext⟩ := header_eq hend
  have hends : asciiBytes "\r\n\r\n" = 0x0d :: 0x0a :: [0x0d, 0x0a] := by decide
  obtain ⟨line, lines, more, hlines, hhead⟩ := crlfLines_head text [0x0d, 0x0a]
  rw [hends] at htext
  have hline : requestLine (stream.take h) = line := by
    rw [requestLine, htext, hlines, head?_cons, getD_some]
  refine ⟨more ++ (stream.drop h).take (len - h), ?_⟩
  rw [hline, ← cons_append, ← append_assoc, ← hhead, ← htext, ← take_add,
    Nat.add_sub_cancel' hle]

/-! ## The buffers -/

lemma httpGetHeaderValue_length {request value : List UInt8} {header : String} {outSize : ℕ}
    (hsize : 0 < outSize) (hvalue : httpGetHeaderValue request header outSize = some value) :
    value.length < outSize := by
  rw [httpGetHeaderValue, map_eq_some_iff] at hvalue
  obtain ⟨line, -, rfl⟩ := hvalue
  refine Nat.lt_of_le_of_lt ( rdropWhile_prefix isblank _).length_le ?_
  exact Nat.lt_of_le_of_lt (length_take_le _ _) (Nat.sub_one_lt_of_lt hsize)

lemma normalizePathLoop_length (source : List UInt8) (previousWasSlash : Bool) {path : List UInt8}
    (hpath : path.length < httpPathSize) :
    (normalizePathLoop source previousWasSlash path).length < httpPathSize := by
  induction source generalizing previousWasSlash path with
  | nil => exact hpath
  | cons byte source ih =>
    rw [normalizePathLoop]
    split
    · exact hpath
    rename_i hroom
    split
    · exact ih previousWasSlash hpath
    · refine ih _ ?_
      rw [length_append, length_singleton]
      omega

lemma normalizePath_length (rawPath : List UInt8) :
    (normalizePath rawPath).length < httpPathSize := by
  have hempty : ([] : List UInt8).length < httpPathSize := by decide
  have hroot : (asciiBytes "/").length < httpPathSize := by decide
  have hlast : ∀ source, (if normalizePathLoop source false [] = [] then asciiBytes "/"
      else normalizePathLoop source false []).length < httpPathSize := by
    intro source
    split
    · exact hroot
    · exact normalizePathLoop_length source false hempty
  exact hlast _

lemma handleClient_mem {port : UInt16} {ctx : HttpRequestContext}
    (hcall : ctx ∈ handleClient port stream answers) :
    ∃ len total, Received stream len total ∧ ctx.request = stream.take len ∧
      parseRequestLine (httpString ctx.request) = some (ctx.method, ctx.rawPath) ∧
      ContainedRequest ctx := by
  unfold handleClient at hcall
  split at hcall
  · exact absurd hcall not_mem_nil
  rename_i request hrecv
  split at hcall
  · exact absurd hcall not_mem_nil
  rename_i method rawPath hscan
  obtain ⟨len, total, hreceived, rfl⟩ := recvFullHttpRequest_received hrecv
  rw [mem_singleton] at hcall
  subst hcall
  have hwords := hscan
  obtain ⟨⟨method', rest⟩, hmethod, hwords⟩ := bind_eq_some_iff.mp hwords
  obtain ⟨⟨rawPath', more⟩, hpath, hwords⟩ := bind_eq_some_iff.mp hwords
  obtain ⟨rfl, rfl⟩ := Prod.mk.inj (some.inj hwords)
  refine ⟨len, total, hreceived, rfl, hscan, ?_, ?_, ?_, normalizePath_length _, ?_⟩
  · refine Nat.lt_of_le_of_lt (length_take_le _ _)
      (Nat.lt_of_le_of_lt hreceived.bounded (Nat.lt_of_le_of_lt (min_le_left _ _) ?_))
    decide
  · exact Nat.lt_of_le_of_lt (scanToken_eq_some hmethod).2.1 (by decide)
  · exact Nat.lt_of_le_of_lt (scanToken_eq_some hpath).2.1 (by decide)
  cases hhost : httpGetHeaderValue (httpString (stream.take len)) "Host" httpHostSize with
  | none =>
    have hdigs : (Decimal.digits port.toNat).length ≤ 5 :=
      Decimal.length_digits_le (by decide) (by have := port.toNat_lt; omega)
    have hpfx : (asciiBytes "localhost:").length = 10 := by decide
    rw [getD_none, length_append, hpfx, httpHostSize]
    omega
  | some host =>
    exact httpGetHeaderValue_length (by decide) hhost

lemma mem_handleClient (port : UInt16) {method rawPath : List UInt8}
    (hrecv : Received stream len total)
    (hscan : parseRequestLine (httpString (stream.take len)) = some (method, rawPath)) :
    ∃ ctx ∈ handleClient port stream [.chunk (len - 1)],
      ctx.request = stream.take len ∧ ctx.method = method ∧ ctx.rawPath = rawPath := by
  unfold handleClient
  simp only [recvFullHttpRequest_chunk hrecv, hscan]
  exact ⟨_, .head _, rfl, rfl, rfl⟩

lemma Taken.received (htaken : Taken stream h total len) : Received stream len total :=
  ⟨(httpExpectedTotal_take htaken.header ((le_max_left _ _).trans htaken.all)).trans htaken.counted,
    (le_max_right _ _).trans htaken.all, htaken.bounded⟩

lemma length_take_receivable (hbounded : len ≤ receivable stream) :
    (stream.take len).length = len := by
  rw [length_take]
  exact Nat.min_eq_left (hbounded.trans (min_le_right _ _))

lemma Taken.framed {port : UInt16} (htaken : Taken stream h total len)
    (hcalls : ∀ answers, FramedCalls port stream answers) :
    (∃ n, declaredLength (stream.take h) = some n ∧ len = h + n) ∧
      PlainWords (requestLine (stream.take h)) := by
  obtain ⟨⟨method, rawPath⟩, hscan⟩ := isSome_iff_exists.mp htaken.scanned
  obtain ⟨ctx, hctx, hreq, rfl, rfl⟩ := mem_handleClient port htaken.received hscan
  obtain ⟨-, ⟨h', n, hend, hdeclared, hlen, hmethod, hpath⟩, -⟩ := (hcalls _).2 ctx hctx
  have hle : h ≤ len := (le_max_left _ _).trans htaken.all
  rw [hreq] at hend hdeclared hlen hmethod hpath
  rw [findHeaderEnd_take.mpr ⟨htaken.header, hle⟩] at hend
  obtain rfl := some.inj hend
  rw [take_take, Nat.min_eq_left hle] at hdeclared hmethod hpath
  rw [length_take_receivable htaken.bounded] at hlen
  refine ⟨⟨n, hdeclared, hlen⟩, plainWords_of_parseRequestLine (stream.take len) ?_⟩
  rw [hscan, hmethod, hpath]

lemma Taken.resize {len' : ℕ} (htaken : Taken stream h total len)
    (hplain : PlainWords (requestLine (stream.take h))) (hall : max h total.toNat ≤ len')
    (hbounded : len' ≤ receivable stream) : Taken stream h total len' := by
  refine ⟨htaken.header, htaken.counted, hall, hbounded, ?_⟩
  obtain ⟨more, hmore⟩ := requestLine_header htaken.header ((le_max_left _ _).trans hall)
  rw [hmore, parseRequestLine_plain hplain, isSome_some]

lemma Received.taken (hrecv : Received stream len total)
    (hscan : (parseRequestLine (httpString (stream.take len))).isSome) :
    ∃ h, Taken stream h total len := by
  obtain ⟨h, hend, hle, hcnt⟩ := httpExpectedTotal_eq_some hrecv.counted
  exact ⟨h, hend, hcnt, max_le hle hrecv.all, hrecv.bounded, hscan⟩

lemma handleClient_length (port : UInt16) (stream : List UInt8) (answers : List RecvAnswer) :
    (handleClient port stream answers).length ≤ 1 := by
  unfold handleClient
  split
  · exact Nat.zero_le _
  · split
    · exact Nat.zero_le _
    · exact le_rfl

/-! ## Main results -/

/-- **Framing.** A stream has framed calls in every way in which it is received if and only if it is a
plain one; and nothing is written beyond a buffer, neither by a `recv` nor for a header. -/
theorem request_framing (port : UInt16) (stream : List UInt8) :
    ((∀ answers, FramedCalls port stream answers) ↔ PlainStream stream) ∧
      (∀ requestLen size, requestLen < httpServerRequestBufferSize →
        requestLen + recvChunk stream requestLen size < httpServerRequestBufferSize) ∧
      ∀ (header : String) (outSize : ℕ) (value : List UInt8), 0 < outSize →
        httpGetHeaderValue stream header outSize = some value → value.length < outSize := by
  refine ⟨⟨fun hcalls h total len htaken => ?_, fun hplain answers => ?_⟩,
    fun requestLen size hlen => ?_, fun header outSize value => httpGetHeaderValue_length⟩
  · obtain ⟨⟨n, hdeclared, rfl⟩, hwords⟩ := htaken.framed hcalls
    have hcounted := htaken.resize hwords le_rfl (htaken.all.trans htaken.bounded)
    have hlast := htaken.resize hwords (htaken.all.trans htaken.bounded) le_rfl
    obtain ⟨⟨n', hdeclared', hn'⟩, -⟩ := hcounted.framed hcalls
    obtain ⟨⟨n'', hdeclared'', hn''⟩, -⟩ := hlast.framed hcalls
    obtain rfl := some.inj (hdeclared.symm.trans hdeclared')
    obtain rfl := some.inj (hdeclared.symm.trans hdeclared'')
    exact ⟨n, hdeclared, hn', hn'', hwords⟩
  · refine ⟨handleClient_length port stream answers, fun ctx hctx => ?_⟩
    obtain ⟨len, total, hreceived, hrequest, hscan, hcontained⟩ := handleClient_mem hctx
    have hscanned : (parseRequestLine (httpString (stream.take len))).isSome := by
      rw [← hrequest, hscan, Option.isSome_some]
    obtain ⟨h, htaken⟩ := hreceived.taken hscanned
    obtain ⟨n, hdeclared, hcounted, hlast, hwords⟩ := hplain h total len htaken
    have hle : h ≤ len := (le_max_left _ _).trans htaken.all
    have hlen : len = h + n :=
      le_antisymm (hlast ▸ htaken.bounded) (hcounted ▸ htaken.all)
    obtain ⟨more, hmore⟩ := requestLine_header htaken.header hle
    rw [hrequest, hmore, parseRequestLine_plain hwords] at hscan
    obtain ⟨hmethod, hpath⟩ := Prod.mk.inj (some.inj hscan)
    have htake : ctx.request.take h = stream.take h := by
      rw [hrequest, List.take_take, Nat.min_eq_left hle]
    refine ⟨hrequest ▸ List.take_prefix _ _, ⟨h, n, ?_, htake ▸ hdeclared, ?_, ?_, ?_⟩, hcontained⟩
    · exact hrequest ▸ findHeaderEnd_take.mpr ⟨htaken.header, hle⟩
    · rw [hrequest, length_take_receivable htaken.bounded, hlen]
    · rw [htake, hmethod]
    · rw [htake, hpath]
  · unfold recvChunk
    omega

/-- A length that is too large for the sum is answered with the header alone. -/
theorem request_framing_overflow :
    ¬∀ answers, FramedCalls 8080
      (asciiBytes "POST / HTTP/1.1\r\nContent-Length: 18446744073709551615\r\n\r\n") answers := by
  intro hcalls
  have htaken : Taken
      (asciiBytes "POST / HTTP/1.1\r\nContent-Length: 18446744073709551615\r\n\r\n") 57 56 57 :=
    ⟨by decide +kernel, by decide +kernel, by decide, by decide +kernel, by decide +kernel⟩
  obtain ⟨⟨n, hdeclared, hlength⟩, -⟩ := htaken.framed hcalls
  have hdeclared' : declaredLength
      ((asciiBytes "POST / HTTP/1.1\r\nContent-Length: 18446744073709551615\r\n\r\n").take 57) =
      some 18446744073709551615 := by decide +kernel
  have hn := some.inj (hdeclared'.symm.trans hdeclared)
  omega

end NXCast

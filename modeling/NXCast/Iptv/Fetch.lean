import NXCast.Framework.CString
import Mathlib.Data.List.Induction

/-!
# Downloads to a cache file

`iptv_fetch_to_file` downloads to a temporary file and puts it in the place of the cache: it removes the old
file and renames the new one.  Every read of the network, question for a cancellation and file operation is
answered from outside.
-/

namespace NXCast

open List

/-- The answer of `avio_read`. -/
inductive FetchRead where
  | eof
  | failed (text : String)
  | data (bytes : List UInt8)

/-- The answers of one round of the loop; `fwrite` takes `written` bytes. -/
structure FetchRound where
  cancelled : Bool
  read : FetchRead
  written : ℕ

/-- What `iptv_fetch_to_file` is answered. -/
structure FetchAnswers where
  cancelled : Bool
  opened : Option String
  cancelledOpening : Bool
  created : Option ℕ
  rounds : List FetchRound
  closed : Bool
  removed : Bool
  renamed : Bool

/-- The cache, and the result with its error text. -/
structure FetchResult where
  ok : Bool
  destination : Option (List UInt8)
  error : String
deriving DecidableEq

/-- The loop of `iptv_fetch_to_file` with the bytes that have been written: whether all have come, and the
error text; nothing while it has not ended. -/
def fetchLoop (maximumSize : ℕ) : List FetchRound → List UInt8 → Option (Bool × List UInt8 × String)
  | [], _ => none
  | round :: rounds, content =>
    if round.cancelled then some (false, content, "download cancelled")
    else
      match round.read with
      | .eof => some (decide (0 < content.length), content, "")
      | .failed text => some (false, content, text)
      | .data bytes =>
        if bytes.length = 0 then fetchLoop maximumSize rounds content
        else if maximumSize < content.length ∨ maximumSize - content.length < bytes.length then
          some (false, content, "download exceeds cache size limit")
        else if round.written ≠ bytes.length then
          some (false, content ++ bytes.take round.written, "failed to write cache file")
        else fetchLoop maximumSize rounds (content ++ bytes)

/-- The temporary file, once it is closed. -/
def fetchTemporary (maximumSize : ℕ) (answers : FetchAnswers) : Option (Bool × List UInt8 × String) :=
  match answers.created with
  | some errno => some (false, [], s!"cannot create cache file: errno={errno}")
  | none =>
    (fetchLoop maximumSize answers.rounds []).map fun (ok, content, error) =>
      if answers.closed then (ok, content, error) else (false, content, "failed to close cache file")

/-- `iptv_fetch_to_file` -/
def iptvFetchToFile (url destination : CString) (maximumSize : ℕ) (answers : FetchAnswers)
    (cache : Option (List UInt8)) : Option FetchResult :=
  if url.strlen = 0 ∨ destination.strlen = 0 ∨ maximumSize = 0 then
    some ⟨false, cache, "invalid download arguments"⟩
  else if 640 ≤ destination.strlen + 4 then some ⟨false, cache, "cache path is too long"⟩
  else
    match if answers.cancelled then some "Immediate exit requested" else answers.opened with
    | some text =>
      some ⟨false, cache,
        if answers.cancelledOpening then if answers.cancelled then "download cancelled" else "" else text⟩
    | none =>
      (fetchTemporary maximumSize answers).map fun (ok, content, error) =>
        if ok then
          if answers.renamed then ⟨true, some content, ""⟩
          else ⟨false, if answers.removed then none else cache, "failed to install cache file"⟩
        else ⟨false, cache, if error = "" then "empty response" else error⟩

/-! ## What has been received -/

/-- The bytes of a round. -/
def FetchRound.bytes (round : FetchRound) : List UInt8 :=
  match round.read with
  | .data bytes => bytes
  | _ => []

/-- A round whose bytes are written. -/
def FetchRound.Stores (round : FetchRound) : Prop :=
  round.cancelled = false ∧ ∃ bytes, round.read = .data bytes ∧ (bytes = [] ∨ round.written = bytes.length)

/-- All of the text has come and has been written: the rounds before the end of it. -/
def FetchReceived (maximumSize : ℕ) (rounds : List FetchRound) (content : List UInt8) : Prop :=
  ∃ stored last rest, rounds = stored ++ last :: rest ∧ (∀ round ∈ stored, round.Stores) ∧
    last.cancelled = false ∧ last.read = .eof ∧ content = stored.flatMap FetchRound.bytes ∧
    0 < content.length ∧ content.length ≤ maximumSize

lemma fetchLoop_true {maximumSize : ℕ} {rounds : List FetchRound} {content all : List UInt8} {error : String}
    (hroom : content.length ≤ maximumSize)
    (h : fetchLoop maximumSize rounds content = some (true, all, error)) :
    ∃ stored last rest, rounds = stored ++ last :: rest ∧ (∀ round ∈ stored, round.Stores) ∧
      last.cancelled = false ∧ last.read = .eof ∧ all = content ++ stored.flatMap FetchRound.bytes ∧
      0 < all.length ∧ all.length ≤ maximumSize := by
  induction rounds generalizing content with
  | nil => cases h
  | cons round rounds ih =>
    rw [fetchLoop] at h
    split at h
    · cases h
    rename_i hgoes
    rw [Bool.not_eq_true] at hgoes
    split at h
    · rename_i hread
      simp only [Option.some.injEq, Prod.mk.injEq, decide_eq_true_eq] at h
      obtain ⟨hpos, rfl, -⟩ := h
      exact ⟨[], round, rounds, rfl, by simp, hgoes, hread, by simp, hpos, hroom⟩
    · cases h
    rename_i bytes hread
    have hbytes : round.bytes = bytes := by simp [FetchRound.bytes, hread]
    split_ifs at h with hempty hlimit hwrote
    · obtain ⟨stored, last, rest, rfl, hstore, hlast, heof, hall, hsize⟩ := ih hroom h
      have hnil := length_eq_zero_iff.mp hempty
      refine ⟨round :: stored, last, rest, rfl, forall_mem_cons.mpr ⟨⟨hgoes, bytes, hread, .inl hnil⟩,
        hstore⟩, hlast, heof, ?_, hsize⟩
      rw [hall, flatMap_cons, hbytes, hnil, nil_append]
    · cases h
    · cases h
    · rw [not_not] at hwrote
      obtain ⟨stored, last, rest, rfl, hstore, hlast, heof, hall, hsize⟩ :=
        ih (by rw [length_append]; omega) h
      refine ⟨round :: stored, last, rest, rfl, forall_mem_cons.mpr ⟨⟨hgoes, bytes, hread,
        .inr hwrote⟩, hstore⟩, hlast, heof, ?_, hsize⟩
      rw [hall, flatMap_cons, hbytes, append_assoc]

lemma fetchLoop_stored {maximumSize : ℕ} {stored : List FetchRound} {last : FetchRound}
    (rest : List FetchRound) {content : List UInt8} (hstore : ∀ round ∈ stored, round.Stores)
    (hlast : last.cancelled = false) (heof : last.read = .eof)
    (hpos : 0 < (content ++ stored.flatMap FetchRound.bytes).length)
    (hsize : (content ++ stored.flatMap FetchRound.bytes).length ≤ maximumSize) :
    fetchLoop maximumSize (stored ++ last :: rest) content =
      some (true, content ++ stored.flatMap FetchRound.bytes, "") := by
  induction stored generalizing content with
  | nil =>
    rw [flatMap_nil, append_nil] at *
    rw [nil_append, fetchLoop]
    simp [hlast, heof, hpos]
  | cons round stored ih =>
    obtain ⟨⟨hgoes, bytes, hread, hwrote⟩, hstore⟩ := forall_mem_cons.mp hstore
    have hbytes : round.bytes = bytes := by simp [FetchRound.bytes, hread]
    rw [flatMap_cons, hbytes, ← append_assoc] at hpos hsize ⊢
    have hnext := ih hstore hpos hsize
    rw [cons_append, fetchLoop, hgoes, if_neg Bool.false_ne_true, hread]
    dsimp only
    split_ifs with hempty hlimit hshort
    · rwa [length_eq_zero_iff.mp hempty, append_nil] at hnext ⊢
    · simp only [length_append] at hsize
      omega
    · rcases hwrote with rfl | hwrote
      · exact absurd rfl hempty
      · exact absurd hwrote hshort
    · exact hnext

/-! ## The cache -/

/-- What is promised of a download: it keeps the cache, or the cache is the bytes that were received. -/
def KeepsCache (maximumSize : ℕ) (rounds : List FetchRound) (cache : Option (List UInt8))
    (result : FetchResult) : Prop :=
  (result.ok = false → result.destination = cache) ∧
    (result.ok = true → ∃ content, FetchReceived maximumSize rounds content ∧ result.destination = some content)

/-- The old cache is removed and the new one does not come into its place. -/
structure CacheLost (url destination : CString) (maximumSize : ℕ) (answers : FetchAnswers)
    (cache : Option (List UInt8)) : Prop where
  url : url.strlen ≠ 0
  path : destination.strlen ≠ 0 ∧ destination.strlen + 4 < 640
  started : answers.cancelled = false ∧ answers.opened = none ∧ answers.created = none
  received : ∃ content, FetchReceived maximumSize answers.rounds content
  installing : answers.closed = true ∧ answers.removed = true ∧ answers.renamed = false
  cached : cache ≠ none

/-- A download keeps the cache if and only if it does not come to remove it before a renaming that fails. -/
theorem iptvFetchToFile_keeps_iff (url destination : CString) (maximumSize : ℕ) (answers : FetchAnswers)
    (cache : Option (List UInt8)) :
    (∀ result, iptvFetchToFile url destination maximumSize answers cache = some result →
        KeepsCache maximumSize answers.rounds cache result) ↔
      ¬CacheLost url destination maximumSize answers cache := by
  constructor
  · rintro h ⟨hurl, hpath, ⟨hgoes, hopened, hcreated⟩, ⟨content, stored, last, rest, hrounds, hstored, hlast,
      heof, hall, hpos, hsize⟩, ⟨hclosed, hremoved, hrenamed⟩, hcached⟩
    have hloop : fetchLoop maximumSize (stored ++ last :: rest) [] = _ :=
      fetchLoop_stored rest hstored hlast heof (by rwa [nil_append, ← hall]) (by rwa [nil_append, ← hall])
    have hlost : iptvFetchToFile url destination maximumSize answers cache =
        some ⟨false, none, "failed to install cache file"⟩ := by
      rw [iptvFetchToFile, if_neg (by omega), if_neg (by omega)]
      simp [fetchTemporary, hgoes, hopened, hcreated, hrounds, hloop, hclosed, hremoved, hrenamed]
    exact hcached ((h _ hlost).1 rfl).symm
  intro hkept result hresult
  have hfailed {error : String} (h : some ⟨false, cache, error⟩ = some result) :
      KeepsCache maximumSize answers.rounds cache result := by
    cases h
    exact ⟨fun _ => rfl, nofun⟩
  unfold iptvFetchToFile at hresult
  split at hresult
  · exact hfailed hresult
  rename_i hargs
  split at hresult
  · exact hfailed hresult
  rename_i hpath
  split at hresult
  · exact hfailed hresult
  rename_i hopened
  obtain ⟨⟨ok, content, error⟩, htemporary, hresult⟩ := Option.map_eq_some_iff.mp hresult
  cases ok with
  | false => exact hfailed (congrArg some hresult)
  | true =>
    unfold fetchTemporary at htemporary
    split at htemporary
    · cases htemporary
    rename_i hcreated
    obtain ⟨⟨ok, content', error'⟩, hloop, htemporary⟩ := Option.map_eq_some_iff.mp htemporary
    dsimp only at htemporary hresult
    split_ifs at htemporary with hclosed
    · cases htemporary
      have hgoes : answers.cancelled = false ∧ answers.opened = none := by
        split at hopened
        · cases hopened
        · rename_i hgoes
          exact ⟨by simpa using hgoes, hopened⟩
      have hreceived : FetchReceived maximumSize answers.rounds content := fetchLoop_true (Nat.zero_le _) hloop
      rw [if_pos rfl] at hresult
      split at hresult
      · cases hresult
        exact ⟨nofun, fun _ => ⟨content, hreceived, rfl⟩⟩
      rename_i hrenamed
      cases hresult
      refine ⟨fun _ => ?_, nofun⟩
      dsimp only
      split_ifs with hremoved
      · by_contra hcached
        exact hkept ⟨fun h => hargs (.inl h), ⟨fun h => hargs (.inr (.inl h)), by omega⟩,
          ⟨hgoes.1, hgoes.2, hcreated⟩, ⟨content, hreceived⟩,
          ⟨hclosed, hremoved, by simpa using hrenamed⟩, Ne.symm hcached⟩
      · rfl
    · cases htemporary

/-- The second file operation of the installation fails. -/
theorem iptvFetchToFile_loses : ∃ result, iptvFetchToFile (.ofBuffer [0x75]) (.ofBuffer [0x64]) 1
        ⟨false, none, false, none, [⟨false, .data [0x31], 1⟩, ⟨false, .eof, 0⟩], true, true, false⟩
        (some [0x30]) = some result ∧ result.ok = false ∧ result.destination ≠ some [0x30] :=
  ⟨⟨false, none, "failed to install cache file"⟩, by decide +kernel, rfl, by decide⟩

end NXCast

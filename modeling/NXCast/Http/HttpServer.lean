import Mathlib.Data.UInt
import NXCast.Dlna.EventServer

/-!
# The HTTP server

`http_server.c`, one connection: the request is received into a buffer of fixed size until the body
that its header declares is there, the request line is scanned, and the handler is called.

What a connection sends is a stream of bytes, of which each `recv` takes some.  The buffer holds the
first `request_len` bytes of the stream, so the reader's state is that number.
-/

namespace NXCast

/-! ## Limits -/

/-- `HTTP_SERVER_REQUEST_BUFFER_SIZE` -/
def httpServerRequestBufferSize : ℕ := 16384

/-- The size of `content_length_str`. -/
def httpContentLengthSize : ℕ := 32

/-- The size of `method`. -/
def httpMethodSize : ℕ := 16

/-- The size of `raw_path` and of `path`. -/
def httpPathSize : ℕ := 256

/-- The size of `host`. -/
def httpHostSize : ℕ := 128

/-! ## Header -/

/-- The string that a buffer holds. -/
def httpString (buffer : List UInt8) : List UInt8 := buffer.takeWhile (· ≠ 0)

/-- A blank or a tab. -/
def isblank (byte : UInt8) : Bool := byte = 0x20 || byte = 0x09

/-- `get_header_value` -/
def httpGetHeaderValue (request : List UInt8) (header : String) (outSize : ℕ) :
    Option (List UInt8) :=
  let name := asciiBytes header
  (((crlfLines request).takeWhile (· ≠ [])).find? (eventHeaderLine name)).map fun line =>
    (((line.drop (name.length + 1)).dropWhile isblank).take (outSize - 1)).rdropWhile isblank

/-- The C `strtoul` to base ten on 64 bits, with what it leaves. -/
def strtoul (text : List UInt8) : UInt64 × List UInt8 :=
  let signed := text.dropWhile isspace
  let negative := signed.head? = some 0x2d
  let unsigned := if negative ∨ signed.head? = some 0x2b then signed.tail else signed
  let digits := unsigned.takeWhile isdigit
  if digits = [] then (0, text)
  else
    let value := Decimal.value digits
    (if value ≥ 2 ^ 64 then 2 ^ 64 - 1 else if negative then -UInt64.ofNat value
      else UInt64.ofNat value, unsigned.drop digits.length)

/-- `find_header_end` -/
def findHeaderEnd (request : List UInt8) : Option ℕ :=
  (TextSearch.first (asciiBytes "\r\n\r\n") request).map (· + 4)

/-- `parse_content_length` -/
def parseContentLength (request : List UInt8) : Option UInt64 := do
  let value ← httpGetHeaderValue request "Content-Length" httpContentLengthSize
  let (parsed, rest) := strtoul value
  if rest ≠ [] then none else some parsed

/-- `expected_total`, once the header is there. -/
def httpExpectedTotal (received : List UInt8) : Option UInt64 :=
  (findHeaderEnd received).map fun headerLen =>
    UInt64.ofNat headerLen + (parseContentLength (httpString received)).getD 0

/-! ## Request line -/

/-- A `%s` of `sscanf` with a width. -/
def scanToken (width : ℕ) (text : List UInt8) : Option (List UInt8 × List UInt8) :=
  let text := text.dropWhile isspace
  let token := (text.takeWhile fun byte => !isspace byte).take width
  if token = [] then none else some (token, text.drop token.length)

/-- `parse_request_line` -/
def parseRequestLine (request : List UInt8) : Option (List UInt8 × List UInt8) := do
  let (method, rest) ← scanToken (httpMethodSize - 1) request
  let (rawPath, _) ← scanToken (httpPathSize - 1) rest
  return (method, rawPath)

/-- The loop of `normalize_path`. -/
def normalizePathLoop : List UInt8 → Bool → List UInt8 → List UInt8
  | [], _, path => path
  | byte :: source, previousWasSlash, path =>
    if byte = 0x3f ∨ path.length + 1 ≥ httpPathSize then path
    else if byte = 0x2f ∧ previousWasSlash then normalizePathLoop source previousWasSlash path
    else normalizePathLoop source (byte = 0x2f) (path ++ [byte])

/-- `normalize_path` -/
def normalizePath (rawPath : List UInt8) : List UInt8 :=
  let source :=
    if sameText (rawPath.take 7) (asciiBytes "http://") ∨
        sameText (rawPath.take 8) (asciiBytes "https://") then
      let authority := (TextSearch.first (asciiBytes "://") rawPath).elim []
        fun schemeSep => (rawPath.drop (schemeSep + 3)).dropWhile (· ≠ 0x2f)
      if authority = [] then asciiBytes "/" else authority
    else if rawPath = [] then asciiBytes "/" else rawPath
  let path := normalizePathLoop source false []
  if path = [] then asciiBytes "/" else path

/-! ## Receiving -/

/-- What `recv` does: it takes some bytes, at least one if there are any, is interrupted, times out or
fails.  At the end of the stream it takes none. -/
inductive RecvAnswer where
  | chunk (size : ℕ)
  | interrupted
  | timedOut
  | failed

/-- How many bytes a `recv` takes that is asked for what the buffer has left. -/
def recvChunk (stream : List UInt8) (requestLen size : ℕ) : ℕ :=
  min (size + 1) (min (httpServerRequestBufferSize - 1 - requestLen) (stream.length - requestLen))

/-- The checks behind the loop of `recv_full_http_request`. -/
def recvDone (requestLen : ℕ) (expectedTotal : Option UInt64) : Option ℕ :=
  if requestLen = 0 then none
  else expectedTotal.bind fun expected => if requestLen < expected.toNat then none else some requestLen

/-- The loop of `recv_full_http_request`. -/
def recvLoop (stream : List UInt8) : List RecvAnswer → ℕ → Option UInt64 → Option ℕ
  | [], requestLen, expectedTotal => recvDone requestLen expectedTotal
  | answer :: answers, requestLen, expectedTotal =>
    if requestLen ≥ httpServerRequestBufferSize - 1 then recvDone requestLen expectedTotal
    else
      match answer with
      | .chunk size =>
        let chunk := recvChunk stream requestLen size
        if chunk = 0 then recvDone requestLen expectedTotal
        else
          match expectedTotal with
          | none =>
            match httpExpectedTotal (stream.take (requestLen + chunk)) with
            | none => recvLoop stream answers (requestLen + chunk) none
            | some expected =>
              if expected.toNat ≥ httpServerRequestBufferSize then none
              else if requestLen + chunk ≥ expected.toNat then
                recvDone (requestLen + chunk) (some expected)
              else recvLoop stream answers (requestLen + chunk) (some expected)
          | some expected =>
            if requestLen + chunk ≥ expected.toNat then
              recvDone (requestLen + chunk) (some expected)
            else recvLoop stream answers (requestLen + chunk) (some expected)
      | .interrupted => recvLoop stream answers requestLen expectedTotal
      | .timedOut => recvDone requestLen expectedTotal
      | .failed => none

/-- `recv_full_http_request` -/
def recvFullHttpRequest (stream : List UInt8) (answers : List RecvAnswer) : Option (List UInt8) :=
  (recvLoop stream answers 0 none).map stream.take

/-! ## A connection -/

/-- `HttpRequestContext`, but for the client's address. -/
structure HttpRequestContext where
  method : List UInt8
  rawPath : List UInt8
  path : List UInt8
  host : List UInt8
  request : List UInt8

/-- The calls of the handler that `handle_client` makes for a connection. -/
def handleClient (port : UInt16) (stream : List UInt8) (answers : List RecvAnswer) :
    List HttpRequestContext :=
  match recvFullHttpRequest stream answers with
  | none => []
  | some request =>
    match parseRequestLine (httpString request) with
    | none => []
    | some (method, rawPath) =>
      [{ method
         rawPath
         path := normalizePath rawPath
         host := (httpGetHeaderValue (httpString request) "Host" httpHostSize).getD
            (asciiBytes "localhost:" ++ Decimal.digits port.toNat)
         request }]

end NXCast

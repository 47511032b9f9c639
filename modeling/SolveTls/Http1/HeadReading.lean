import SolveTls.Http1.Request

/-! The two loops that read a request head from a connection, one chunk at a time. -/

namespace SolveTls

open Search

namespace ClientConnection

/-- Limit header bytes, independent of TLS and network fragmentation. -/
def readHttp1Head (data : Bytes) (reads : List (Except Exn Bytes)) : Except Exn Bytes :=
  match checkHeadSize data true with
  | .error raised => .error raised
  | .ok () =>
    match find? headEnd data with
    | some position => .ok (data.take (position + headEnd.length))
    | none =>
      match reads with
      | [] => .error (.connection "Connection closed")
      | .error raised :: _ => .error raised
      | .ok chunk :: rest => readHttp1Head (data ++ chunk) rest

/-- The head of an HTTP/1.1 request, beginning with the first read. -/
def readFirstHead : List (Except Exn Bytes) → Except Exn Bytes
  | [] => .error (.connection "Connection closed")
  | .error raised :: _ => .error raised
  | .ok buffered :: rest => readHttp1Head buffered rest

end ClientConnection

namespace Redirect

/-- The peer has closed its side: without any octets there was no request. -/
def headAtEof (data : Bytes) : Except Exn Bytes :=
  if data = [] then .ok [] else .error (badRequest "Request head was not terminated")

/-- `_read_head`; an empty chunk stands for the end of the stream. -/
def readHead (data : Bytes) : List (Except Exn Bytes) → Except Exn Bytes
  | [] => headAtEof data
  | .error raised :: _ => .error raised
  | .ok chunk :: rest =>
    if chunk = [] then headAtEof data
    else
      match checkHeadSize (data ++ chunk) true with
      | .error raised => .error raised
      | .ok () =>
        match find? headEnd (data ++ chunk) with
        | some position => .ok ((data ++ chunk).take (position + headEnd.length))
        | none => readHead (data ++ chunk) rest

end Redirect

end SolveTls

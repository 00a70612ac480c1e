import AuditTrail.Text.Utf8

/-!
# Bodies in transit

A body comes whole or as a stream of frames. It is read by polling it for one item at a time.
-/

namespace AuditTrail.Http

/-- What a stream holds, in order: data, trailers, an error, or a moment at which nothing is there
yet. -/
inductive Item where
  | data (bytes : Bytes)
  | trailers
  | error (message : String)
  | pending
  deriving DecidableEq, Repr

/-- A body. The size of a whole one is known, that of a stream is not. -/
inductive Stream where
  | whole (bytes : Bytes)
  | items (xs : List Item)
  deriving DecidableEq, Repr

namespace Stream

def empty : Stream := whole []

def ofText (s : String) : Stream := whole (Utf8.encode s)

/-- One poll: the next item, or `none` at the end, and the rest of the body. A whole body is one
item unless it is empty. -/
def poll : Stream → Option Item × Stream
  | whole [] => (none, whole [])
  | whole bytes => (some (.data bytes), whole [])
  | items [] => (none, items [])
  | items (x :: xs) => (some x, items xs)

/-- The size in octets: the least, and the largest if it is known. -/
def size : Stream → Nat × Option Nat
  | whole bytes => (bytes.length, some bytes.length)
  | items _ => (0, none)

/-- Whether the body is known to have ended without a poll. -/
def isEnded : Stream → Bool
  | whole bytes => bytes.isEmpty
  | items _ => false

/-- Everything that polling brings until the end. -/
def toItems : Stream → List Item
  | whole [] => []
  | whole bytes => [.data bytes]
  | items xs => xs

/-- The data up to the end or the first error, and that error. -/
def readItems : List Item → List Bytes × Option String
  | [] => ([], none)
  | .data bytes :: xs =>
    let (chunks, e) := readItems xs
    (bytes :: chunks, e)
  | .error message :: _ => ([], some message)
  | .trailers :: xs | .pending :: xs => readItems xs

/-- The chunks of data of a body, and the error that ends them. -/
def read (s : Stream) : List Bytes × Option String :=
  readItems s.toItems

end Stream
end AuditTrail.Http

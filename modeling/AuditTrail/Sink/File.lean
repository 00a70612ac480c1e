import AuditTrail.Entry.Record
import AuditTrail.Failure
import AuditTrail.Sink.Page

/-!
# The sink in a file

A file of lines, one entry on each. Reading passes over blank lines and over lines that are no
entries, and tells the numbers of the latter.
-/

namespace AuditTrail.Sink

/-- What there is under the path of the sink. -/
inductive File where
  /-- No file in a directory that exists. -/
  | missing
  | content (bytes : Bytes)
  /-- No directory to put a file into. -/
  | noDirectory
  /-- A directory in the place of the file. -/
  | directory
  deriving DecidableEq, Repr

namespace File

/-! ## Lines -/

/-- The lines of a text: each ends at a line feed, which may have a carriage return before it; text
after the last line feed is a line too. -/
def lines : List Char → List (List Char)
  | [] => []
  | '\n' :: cs => [] :: lines cs
  | '\r' :: '\n' :: cs => [] :: lines cs
  | c :: cs =>
    match lines cs with
    | [] => [[c]]
    | l :: ls => (c :: l) :: ls

/-- What a line holds. -/
inductive Line where
  | blank
  | entry (e : Entry)
  | malformed

def readLine (cs : List Char) : Line :=
  if cs.all Text.isBlank then .blank
  else match Entry.parse? (Utf8.encodeChars cs) with
    | some e => .entry e
    | none => .malformed

/-- The entries of some lines. -/
def entriesOf (ls : List (List Char)) : List Entry :=
  ls.filterMap fun l => match readLine l with
    | .entry e => some e
    | _ => none

/-- The numbers of the malformed lines; the first line has the number `n`. -/
def malformedFrom (n : Nat) : List (List Char) → List Nat
  | [] => []
  | l :: ls =>
    match readLine l with
    | .malformed => n :: malformedFrom (n + 1) ls
    | _ => malformedFrom (n + 1) ls

/-- The line of an entry. -/
def lineOf (e : Entry) : Bytes :=
  Utf8.encodeChars (e.chars ++ ['\n'])

/-! ## The file -/

/-- Adds octets at the end of the file. -/
def extend (file : File) (bytes : Bytes) : File × Except Failure Unit :=
  match file with
  | missing => (content bytes, .ok ())
  | content old => (content (old ++ bytes), .ok ())
  | noDirectory => (noDirectory, .error (.io (.system .notFound)))
  | directory => (directory, .error (.io (.system .isDirectory)))

/-- Adds the lines of a batch. -/
def append (file : File) (batch : List Entry) : File × Except Failure Unit :=
  file.extend (batch.flatMap lineOf)

/-- The text of the file; a missing file is empty. -/
def text : File → Except Failure (List Char)
  | missing | noDirectory => .ok []
  | directory => .error (.io (.system .isDirectory))
  | content bytes =>
    match Utf8.decodeChars? bytes with
    | some cs => .ok cs
    | none => .error (.io (.data "stream did not contain valid UTF-8"))

/-- A page, and the numbers of the malformed lines passed over. -/
def query (file : File) (f : Filter) : Except Failure (Page × List Nat) := do
  let cs ← file.text
  let ls := lines cs
  return (Page.select f (entriesOf ls), malformedFrom 1 ls)

/-- Removes the file. -/
def remove (file : File) : File × Bool :=
  match file with
  | content _ => (missing, true)
  | file => (file, false)

def bytes? : File → Option Bytes
  | content bytes => some bytes
  | _ => none

end File
end AuditTrail.Sink

import AuditTrail.Sink.File
import AuditTrail.Sink.Memory

/-!
# The sinks to choose from

A service stores its entries in memory or in a file. Either answers at once.
-/

namespace AuditTrail.Sink

inductive Store where
  | memory (m : Memory)
  | file (f : File)

namespace Store

def append : Store → List Entry → Store × Except Failure Unit
  | memory m, batch =>
    let (m, r) := m.append batch
    (memory m, r)
  | file f, batch =>
    let (f, r) := f.append batch
    (file f, r)

/-- A page, and what the operators read of the lines passed over. -/
def query : Store → Filter → Except Failure (Page × List Log.Event)
  | memory m, f => .ok (m.query f, [])
  | .file x, f => (x.query f).map fun (page, skipped) => (page, skipped.map .lineSkipped)

/-- All entries that can be read from the sink, in their stored order. -/
def entries : Store → Except Failure (List Entry)
  | memory m => .ok m.entries
  | file f => f.text.map fun cs => File.entriesOf (File.lines cs)

/-- The sink for the pipeline. -/
def sink : AuditTrail.Sink Store Entry :=
  ⟨fun s batch =>
    match s.append batch with
    | (s, .ok ()) => (s, 0, .stored)
    | (s, .error cause) => (s, 0, .refused cause)⟩

end Store
end AuditTrail.Sink

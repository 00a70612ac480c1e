import AuditTrail.Http.Routes
import AuditTrail.Pipeline.Timed
import AuditTrail.Sink.Store

/-!
# The service

Answers requests, and sends the entries of the audited ones down the pipeline. What happens in the
pipeline never changes an answer.
-/

namespace AuditTrail

open Time (Instant)
open Pipeline (Setting Timed)

/-- A running service. -/
structure Service where
  config : Config
  app : Http.AppRoutes
  pipeline : Timed Sink.Store Entry
  /-- What the operators have read, in order. -/
  journal : List Log.Event

namespace Service

def setting (s : Service) : Setting Sink.Store Entry :=
  Timed.settingOf s.config Sink.Store.sink

/-- A service with a sink, unless its pipeline cannot run with the configuration. -/
def start (config : Config) (app : Http.AppRoutes) (store : Sink.Store) :
    Except Failure Service :=
  match config.problem? with
  | some f => .error f
  | none =>
    let cfg := Timed.settingOf config Sink.Store.sink
    .ok ⟨config, app, (Timed.start cfg store).settle cfg, [Timed.startEvent config]⟩

/-- Does something to the pipeline and lets its tasks run until all of them wait. -/
def onPipeline {α : Type} (s : Service)
    (f : Setting Sink.Store Entry → Timed Sink.Store Entry → Timed Sink.Store Entry × α) :
    Service × α :=
  let (t, a) := f s.setting s.pipeline
  let t := t.settle s.setting
  ({ s with
      pipeline := t
      journal := s.journal ++ t.logsAfter s.config s.pipeline.trace.length }, a)

/-- Offers an entry to the pipeline. -/
def send (s : Service) (e : Entry) : Service × Bool :=
  s.onPipeline fun cfg t => t.send cfg e

/-- Shuts the pipeline down and waits for it. -/
def shutdown (s : Service) : Service :=
  let (s, ()) := s.onPipeline fun cfg t =>
    let (t, call) := t.callShutdown cfg
    (t.await cfg call, ())
  s

/-- Answers a request that arrives at `now`; the body of the reply is still to be read. -/
def answer (s : Service) (now : Instant) (r : Http.Request) : Service × Http.Reply :=
  let (reply, events) := Http.audited (Http.route s.app s.pipeline.sink.query now) now r
  ({ s with journal := s.journal ++ events }, reply)

/-- Reads the body of a reply, at most `limit` chunks of it, and drops it; an entry that this
completes is sent. -/
def read (s : Service) (body : Http.Tee) (limit : Option Nat) : Service × Http.Tee.Reading :=
  let (reading, entries) := body.consume limit
  (entries.foldl (fun s e => (s.send e).1) s, reading)

end Service
end AuditTrail

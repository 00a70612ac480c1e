import AuditTrail.CommandLine
import AuditTrail.Log.Filter
import AuditTrail.Server

/-!
# The program

Reads the command line and the environment, starts the service and stops it in good order. Nothing
but this module touches the world.
-/

namespace AuditTrail.Program

/-- The variables that the program looks at. -/
def variableNames : List String :=
  CommandLine.OptionName.all.map (·.variableName)
    ++ (Log.Setup.levelVariable :: Config.allVariables).flatMap Variable.names
    ++ [Log.Setup.formatVariable]

def environment : IO Environment := do
  let found ← variableNames.filterMapM fun name => do
    return (← IO.getEnv name).map fun text => (name, Utf8.encode text)
  return ⟨found⟩

/-- The sink that the options ask for. -/
def store (o : CommandLine.ServeOptions) : Sink.Store :=
  match o.sink with
  | .memory => .memory .empty
  | .file => .file .missing

/-- Writes what passes the filter. -/
def report (setup : Log.Setup) (events : List Log.Event) : IO Unit :=
  (events.filterMap setup.line?).forM fun line => IO.eprintln line

def serve (env : Environment) (o : CommandLine.ServeOptions) : IO UInt32 := do
  let setup := Log.Setup.ofEnvironment env
  let (config, warnings) := Config.ofEnvironment env
  report setup warnings
  match Service.start config (fun _ => none) (store o) with
  | .error f =>
    IO.eprintln f.message
    return 1
  | .ok service =>
    IO.eprintln ("listening on " ++ Server.Address.render ⟨o.host, o.port⟩)
    let (service, result) := Server.runStopped service (.ok ())
    report setup service.journal
    match result with
    | .ok () => return 0
    | .error f =>
      IO.eprintln f.message
      return 1

end AuditTrail.Program

def main (args : List String) : IO UInt32 := do
  let env ← AuditTrail.Program.environment
  match AuditTrail.CommandLine.parse args env with
  | .ok o => AuditTrail.Program.serve env o
  | .error r =>
    IO.eprintln r.message
    return r.exitStatus.toUInt32

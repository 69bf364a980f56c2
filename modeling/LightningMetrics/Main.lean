import LightningMetrics.Exporter.Program

set_option autoImplicit false

namespace LightningMetrics

/-- The paths among these that can be read. -/
def readablePaths (paths : List String) : IO (List String) :=
  paths.filterM fun path => do
    match ← (IO.FS.readBinFile path).toBaseIO with
    | .ok _ => return true
    | .error _ => return false

/-- Why log files cannot be written in the directory, if that is so. -/
def logFault? (directory : Option String) : IO (Option String) := do
  let some directory := directory | return none
  match ← (IO.FS.createDirAll directory).toBaseIO with
  | .ok _ => return none
  | .error fault => return some ("failed to create log directory: " ++ toString fault)

end LightningMetrics

open LightningMetrics in
def main (arguments : List String) : IO UInt32 := do
  let names := Exporter.filterVariable :: Setting.all.map (·.environmentName)
  let given ← names.mapM fun name => return (name, ← IO.getEnv name)
  let environment (name : String) : Option String := (given.lookup name).join
  let config := (CommandLine.parse arguments environment).toOption
  let paths := config.toList.flatMap fun config =>
    [config.node.macaroonPath, config.node.certificatePath]
  let readable ← readablePaths paths
  let fault ← logFault? (config.bind fun config => config.log.directory)
  let world : Exporter.World :=
    { environment
      readable := readable.contains
      logFault? := fun _ => fault
      listenFault? := fun _ => none
      link := .down
      info := .silence
      htlcEvents := .silence
      payments := .silence }
  let ending := Exporter.run arguments world
  if let some complaint := ending.complaint? then IO.eprintln complaint
  if let some text := ending.logged? then IO.println ("lnmon exited err=" ++ text)
  return UInt32.ofNat (ending.exitCode?.getD 0)

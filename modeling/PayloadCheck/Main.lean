import PayloadCheck.Command.Run
import Std.Time.DateTime.Timestamp

/-!
# The program

Gathers what surrounds a run (the files that the command line and the payload name, the settings of
the environment, the standard input, the present moment), runs the command line, and writes what
comes out. Paths that leave the working folder are not followed. No database can be reached from
here: opening a pool is refused.
-/

namespace PayloadCheck.Command

open PayloadCheck.Report PayloadCheck.Text PayloadCheck.Time

/-- The settings that are looked up in the environment. -/
def settingNames : List String :=
  ["DB_HOST", "DB_PORT", "DB_NAME", "DB_USER", "DB_PASSWORD", "LOG_LEVEL"]

/-- The environment, as far as it matters. -/
def currentEnvironment : IO Environment :=
  settingNames.filterMapM fun name => do return (← IO.getEnv name).map fun s => (name, s)

/-- Reads what is left of a stream. -/
partial def readRest (stream : IO.FS.Stream) (before : String) : IO String := do
  let line ← stream.getLine
  if line.isEmpty then return before else readRest stream (before ++ line)

/-- Adds the file under a path to a folder, and the folders that the path passes through. A file
that is no text is as long as it is, and blank. -/
def gather (folder : Folder) (path : String) : IO Folder := do
  let cwd ← IO.currentDir
  let parts := Location.partsOf path
  let mut folder := folder
  for n in List.range (parts.length + 1) do
    if ← (cwd / joinTexts "/" (parts.take n)).isDir then
      folder := { folder with folders := parts.take n :: folder.folders }
  try
    let bytes ← IO.FS.readBinFile path
    let text := match String.fromUTF8? bytes with
      | some s => s
      | none => String.ofList (List.replicate bytes.size ' ')
    return folder.put parts text
  catch _ => return folder

/-- The moment from which the clock counts. -/
def epoch : Moment := .midnight ⟨1970, 1, 1⟩

/-- The present moment. -/
def present : IO Moment := do
  let stamp ← Std.Time.Timestamp.now
  let micro := stamp.toNanosecondsSinceUnixEpoch.val / 1000
  return (Moment.ofTicks? (epoch.ticks + micro)).getD epoch

/-- The paths that an invocation names. -/
def namedPaths (o : CheckOptions) : List String :=
  [trim o.rules, trim o.data] ++ o.envFile.toList ++ o.metricsFile.toList

/-- What surrounds a run of the words. -/
def surroundings (words : List String) : IO Surroundings := do
  let mut folder : Folder := {}
  let mut input := ""
  if let .ok { task := .check o, .. } := Invocation.ofWords words then
    for path in namedPaths o do
      folder ← gather folder path
    if o.data == "-" then input ← readRest (← IO.getStdin) ""
    let payload := if o.data == "-" then some input
      else ((folder.readText (trim o.data)).toOption)
    for path in (payload.map markedPaths).getD [] do
      folder ← gather folder path
  return {
    folder, input
    environment := ← currentEnvironment
    server := ⟨fun _ => some "no database server"⟩
    database := ⟨fun _ _ => .error "no database server"⟩
    now := ← present }

/-- Writes what a run leaves behind and gives its exit code. -/
def writeRun (words : List String) (run : Run) : IO UInt32 := do
  for r in recordsOf run.level run.events do
    if let some line := r.line? run.form then IO.eprintln line
  for line in run.complaints do
    IO.eprintln line
  IO.print run.output
  if let .ok { task := .check { metricsFile := some path, .. }, .. } := Invocation.ofWords words then
    if let .ok (some text) := run.folder.textAt? path then
      if run.output != "" then IO.FS.writeFile path text
  match run.ending with
  | .ok code => return UInt32.ofNat code
  | .error fault =>
    IO.eprintln s!"{fault.label}: {fault.message}"
    return 1

end PayloadCheck.Command

/-- Runs the command line. -/
def main (words : List String) : IO UInt32 := do
  let around ← PayloadCheck.Command.surroundings words
  PayloadCheck.Command.writeRun words (PayloadCheck.Command.run around words)

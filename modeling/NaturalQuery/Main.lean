import NaturalQuery.Cli
import Std.Time.Format

/-!
The executable: it gathers what a run of the command sees (its arguments, the variables it may
read, the `.env` file of the working directory, the local time zone rule from `TZ` and the
current time), runs the command, and prints what the run produced. Log lines go to standard
error after the run's own error output.
-/

open NaturalQuery NaturalQuery.Time

def gatherEnvironment (names : List String) : IO Environment := do
  let mut env : Environment := []
  for name in names.eraseDups do
    if let some value ← IO.getEnv name then
      env := env.set name value
  pure env

def readEnvFile : IO (Option String) := do
  try
    pure (some (← IO.FS.readFile ".env"))
  catch _ =>
    pure none

def currentReading : IO WallTime := do
  let t ← Std.Time.Timestamp.now
  let nanos : Int := t.toNanosecondsSinceUnixEpoch.val
  pure (WallTime.ofMicros (nanos.fdiv 1000 + epochOrdinal * microsPerDay))

def main (args : List String) : IO UInt32 := do
  let envFile ← readEnvFile
  let names := settingNames ++ settingNames.map foldName ++
    (envFile.map EnvFile.mentionedNames).getD []
  let env ← gatherEnvironment names
  let zone := SystemZone.ofSetting ((← IO.getEnv "TZ").getD "UTC")
  let clock ← currentReading
  match Cli.run ⟨args, env, envFile, zone, clock⟩ with
  | .ok report =>
    IO.print report.stdout
    IO.eprint report.stderr
    for line in report.logs do
      IO.eprintln line
    pure report.exitCode.toUInt32
  | .error failure =>
    IO.eprintln failure.message
    pure 1

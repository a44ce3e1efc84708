import Canvasflow.CommandLine.Run
import Std.Time.Format

/-!
# The command line program

Reads the settings and the scene, lets the frames pass at their pace, and prints and stores what a
run leaves. What a run does is defined in `Canvasflow.CommandLine`; here are only the files, the
clock and the console.
-/

namespace Canvasflow.CommandLine

open Canvasflow.Scene

/-- The words that explain the options. -/
def usage : String :=
  "usage: canvasflow [-h] [--file FILE] [--set ID KEY VALUE] [--click X Y] [--ticks TICKS]\n" ++
  "                  [--save SAVE] [--debug]"

/-- The text of the time now. -/
def currentTime : IO String := do
  let time ← Std.Time.PlainDateTime.now
  return ((time.toDateTimeString).take 26).toString

/-- The text of a file, if it can be read. -/
def fileText? (path : String) : IO (Option String) := do
  try
    return some (← IO.FS.readFile path)
  catch _ =>
    return none

/-- The settings of the user, which are the defaults where there are none. -/
def userSettings : IO (Except SettingsFault Settings) := do
  let home := (← IO.getEnv "HOME").getD "."
  return Settings.load (← fileText? (home ++ "/.funcarrows/config.json"))

/-- What is found at a path. -/
def sourceAt (path : Path) : IO Source := do
  try
    return .content (← IO.FS.readBinFile path.text)
  catch
    | .noFileOrDirectory .. => return .missing
    | .inappropriateType _ number reason | .resourceBusy number reason
    | .permissionDenied _ number reason => return .refused number.toNat reason
    | _ => return .refused 5 "Input/output error"

/-- Let frames pass, one after each interval in milliseconds. -/
def passFrames (interval : UInt32) : Nat → Session → IO Session
  | 0, session => return session
  | count + 1, session => do
    let (_, next) := frameAt (← IO.monoMsNow).toFloat session
    IO.sleep interval
    passFrames interval count next

/-- Run with files and a clock, and return what is left. -/
def runHere (settings : Settings) (now : Data) (options : Options) : IO Outcome := do
  let source ← match options.file? with
    | some path => sourceAt path
    | none => pure .missing
  match (prepare now options source).run (Session.blank settings) with
  | (.error failure, session) => return conclude now options (.error failure, session)
  | (.ok (), session) =>
    let interval := (Settings.measureOf settings.frameInterval).toUInt32
    let last ← passFrames interval options.ticks.toNat session
    return conclude now options (.ok (), last)

/-- Print what a run leaves, store its scene, and return its exit code. -/
def present (outcome : Outcome) : IO UInt32 := do
  for line in outcome.log do IO.eprintln line
  match outcome.report? with
  | some report => IO.println (Json.write report)
  | none => pure ()
  let stored ← match outcome.saved? with
    | none => pure outcome
    | some (path, scene) =>
      try
        IO.FS.writeFile path.text scene.toText
        pure outcome
      catch _ =>
        pure (outcome.failed .fatal)
  for line in stored.errors do IO.eprintln line
  return stored.code.toUInt32

end Canvasflow.CommandLine

open Canvasflow in
/-- The program: options in, exit code out. -/
def main (arguments : List String) : IO UInt32 := do
  match CommandLine.Options.ofWords arguments with
  | .error .help =>
    IO.println CommandLine.usage
    return 0
  | .error .misuse =>
    IO.eprintln CommandLine.usage
    return 2
  | .ok options => match ← CommandLine.userSettings with
    | .error _ =>
      IO.eprintln CommandLine.Failure.fatal.message
      return 1
    | .ok settings =>
      let now ← CommandLine.currentTime
      CommandLine.present (← CommandLine.runHere settings (.str now) options)

import DroneFleet.Console
import DroneFleet.Settings.Load

/-!
# The command line

Loads the settings, seeds the fleet, and answers requests that come in lines, while time passes.
Settings that cannot be loaded end it with status 1.

* `main`   the program; its first argument names the stage whose file is loaded
-/

namespace DroneFleet.Main

/-- where the file of a stage is looked for -/
def directories : List String := ["config", "/etc/drone-fleet"]

/-- the variable whose directives come before the one of the settings -/
def filterVariable : String := "TELLO_LOG"

def readFile? (path : String) : IO (Option String) := do
  try
    return some (← IO.FS.readFile path)
  catch _ => return none

def environment : IO (List (String × String)) := do
  let text := (← readFile? "/proc/self/environ").getD ""
  return (text.splitOn "\x00").filterMap fun entry =>
    match entry.splitOn "=" with
    | name :: v :: vs => some (name, "=".intercalate (v :: vs))
    | _ => none

def files (stage? : Option String) : IO (List (String × Option String)) :=
  directories.mapM fun d => do
    let path := Settings.stagePath d (stage?.getD Settings.usualStage)
    return (path, ← readFile? path)

def elapsed (start : Nat) : IO Nat := do return (← IO.monoMsNow) - start

/-- how many steps of runs one line may lead to -/
def fuel : Nat := 1000000

def report (f : Filter) (r : Report) : IO Unit := do
  for line in Console.remarks f r.remarks do
    IO.eprintln line

/-- answers lines until there are no more -/
partial def answer (f : Filter) (start : Nat) (s : Http.Service) : IO Unit := do
  let line ← (← IO.getStdin).getLine
  if line = "" then return
  let (fleet, passed) := s.fleet.runUntil fuel (← elapsed start)
  report f passed
  match Console.request? line with
  | none => answer f start { s with fleet := fleet }
  | some request =>
    let (s, response, happened) := { s with fleet := fleet }.handle Location.isolated request
    report f happened
    IO.println (Console.response response)
    (← IO.getStdout).flush
    answer f start s

end DroneFleet.Main

open DroneFleet DroneFleet.Main

/-- loads the settings of the stage that the first argument names, and answers requests -/
def main (arguments : List String) : IO UInt32 := do
  let stage? := arguments.head?
  let files ← files stage?
  let surroundings : Surroundings := ⟨fun p => (files.lookup p).join, ← environment⟩
  match Settings.load surroundings directories stage? with
  | .error fault =>
    IO.eprintln ("Error: " ++ fault.message)
    return 1
  | .ok settings =>
    let shown := Filter.ofTexts ((surroundings.environment.lookup filterVariable).getD "")
      settings.logLevel
    let (fleet, seeded) := Fleet.seeded settings.fleet settings.flight settings.capacity
    report shown (.remarking [.starting])
    report shown seeded
    answer shown (← IO.monoMsNow) ⟨fleet, settings.location⟩
    report shown (.remarking [.finished])
    return 0

import Understudy.CommandLine.Settings
import Understudy.Json.Printer

/-!
# The program

Says which settings a command line asks for, or what is wrong with it.
-/

namespace Understudy

namespace CommandLine

def readConfig (g : Given) : IO FileStore :=
  match g.value? .config with
  | some path =>
    try
      let content ← IO.FS.readBinFile path
      pure ⟨[(FilePath.ofText path, .file content)]⟩
    catch _ => pure .empty
  | none => pure .empty

def readEnvironment : IO (List (String × String)) :=
  Opt.all.filterMapM fun o =>
    match o.environmentName? with
    | some name => do
      let value ← IO.getEnv name
      pure (value.map (name, ·))
    | none => pure none

end CommandLine

end Understudy

open Understudy in
def main (arguments : List String) : IO UInt32 := do
  let environment ← CommandLine.readEnvironment
  match CommandLine.Given.ofArguments arguments (List.lookup · environment) with
  | .error .help | .error .version => return 0
  | .error fault =>
    IO.eprintln fault.name
    return 2
  | .ok given =>
    let files ← CommandLine.readConfig given
    match given.settings files with
    | .ok settings =>
      IO.println settings.toJson.pretty
      return 0
    | .error error =>
      IO.eprintln s!"Error: {error.message}"
      return 1

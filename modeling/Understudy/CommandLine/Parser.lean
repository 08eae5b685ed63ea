import Understudy.CommandLine.Basic
import Understudy.Text.Cut

/-!
# Reading command lines

`Given.ofArguments` reads the arguments from left to right. The value of an option may stand behind an equals sign or, for a
letter, right behind it; otherwise the next argument is its value, unless that is an option itself.
-/

namespace Understudy

namespace CommandLine

/-- An option whose value, if it has come, has not been taken yet. -/
abbrev Pending := Option (Opt × Option String)

def Given.take (g : Given) (o : Opt) (value : Option String) : Except Fault Given :=
  match o with
  | .help => throw .help
  | .version => throw .version
  | _ =>
    if o.isValued then
      match value with
      | none => throw .noValue
      | some v =>
        if g.has o then throw .repeated
        else (o.check v).map fun _ => g ++ [(o, v)]
    else if g.has o then throw .repeated
    else pure (g ++ [(o, "")])

def Given.settle (g : Given) : Pending → Except Fault Given
  | some (o, v) => g.take o v
  | none => pure g

def Given.start (g : Given) (pending : Pending) (o : Opt) (value : Option String) :
    Except Fault (Given × Pending) := do
  let g ← g.settle pending
  if o.isValued && value.isNone then pure (g, some (o, none))
  else do
    let g ← g.take o value
    pure (g, none)

def Given.long (g : Given) (pending : Pending) (body : String) : Except Fault (Given × Pending) :=
  let (name, value) := match Text.splitOnce "=" body with
    | some (n, v) => (n, some v)
    | none => (body, none)
  match Opt.ofName? name with
  | none => throw .unknown
  | some o => if !o.isValued && value.isSome then throw .extraValue else g.start pending o value

/-- Options by their letters; a value is what stands behind its letter. -/
def Given.short (g : Given) (pending : Pending) : List Char → Except Fault (Given × Pending)
  | [] => pure (g, pending)
  | c :: cs =>
    match Opt.ofLetter? c with
    | none => throw .unknown
    | some o =>
      if o.isValued then
        match cs with
        | [] => g.start pending o none
        | '=' :: v => g.start pending o (some (String.ofList v))
        | v => g.start pending o (some (String.ofList v))
      else do
        let (g, pending) ← g.start pending o none
        Given.short g pending cs

/-- Reads arguments; behind two dashes there may be none. -/
def Given.read (g : Given) (pending : Pending) : List String → Except Fault Given
  | [] => g.settle pending
  | arg :: args =>
    if arg == "--" then if args.isEmpty then g.settle pending else throw .unknown
    else if arg.startsWith "--" then do
      let (g, pending) ← g.long pending (String.ofList (arg.toList.drop 2))
      Given.read g pending args
    else if arg.startsWith "-" && arg != "-" then do
      let (g, pending) ← g.short pending (arg.toList.drop 1)
      Given.read g pending args
    else match pending with
      | some (o, none) => Given.read g (some (o, some arg)) args
      | _ => throw .unknown

def Given.withEnvironment (g : Given) (environment : String → Option String) : Except Fault Given :=
  Opt.all.foldlM (fun g o =>
    match o.environmentName?.bind environment with
    | some v => if g.has o then pure g else g.take o (some v)
    | none => pure g) g

def Given.ofArguments (arguments : List String) (environment : String → Option String) :
    Except Fault Given := do
  let g ← Given.read [] none arguments
  g.withEnvironment environment

end CommandLine

end Understudy

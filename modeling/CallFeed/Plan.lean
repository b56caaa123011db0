/-
The server that is asked for: the command line is read, then the settings are loaded and checked. The first of these that
fails ends the program, with a text that says so.

- `planOf`: the server that is asked for, or the end of the program;
- `filterOf`: what of it is logged.
-/
import CallFeed.CommandLine
import CallFeed.Flood.Flooder
import CallFeed.Log
import CallFeed.Log.Filter
import CallFeed.Settings.Load

namespace CallFeed

open CallFeed.Text

/-- the end of a program: its code and what it wrote -/
structure Exit where
  code : Nat
  out : Text := []
  err : Text := []
deriving DecidableEq, Repr

/-- the causes of a failure, numbered when there are several -/
def causesText (causes : List Text) : Text :=
  match causes with
  | [cause] => "    ".toList ++ cause ++ ['\n']
  | causes => causes.zipIdx.flatMap fun c => "    ".toList ++ decimal c.2 ++ ": ".toList ++ c.1 ++ ['\n']

/-- the end of a program that failed at something -/
def Exit.failure (context : Text) (causes : List Text) : Exit :=
  { code := 1
    err := "Error: ".toList ++ context ++ "\n\nCaused by:\n".toList ++ causesText causes }

/-- the end of a program that had written something before -/
def Exit.after (e : Exit) (err : Text) : Exit := { e with err := err ++ e.err }

/-- the end of a program that its command line stopped -/
def CommandLine.Stop.exit (program : Text) (s : CommandLine.Stop) : Exit :=
  if s.isAnswer then { code := s.exitCode, out := s.message program }
  else { code := s.exitCode, err := s.message program }

/-- the name of the file of settings, without its ending -/
def settingsName : Text := "presence_flood".toList

/-- the target of what the server logs -/
def serverTarget : Text := "presence_flood".toList

/-- the target of what is logged about a client that is flooded -/
def floodTarget : Text := "presence_flood::flooder".toList

/-- the variable that sets what is logged -/
def filterVariable : Text := "RUST_LOG".toList

/-- what is logged as the variable says, if it can be read -/
def environmentFilter? (env : Settings.Environment) : Option Filter :=
  ((env.lookup filterVariable).bind decode?).bind Filter.ofText?

/-- what is logged: as the variable says, and without it, or when it cannot be read, as the settings say -/
def filterOf (env : Settings.Environment) (s : Settings) : Filter :=
  (environmentFilter? env).getD (Filter.ofText s.logLevel)

/-- what is said, before the server listens, about settings of what is logged that cannot be read -/
def noticesOf (env : Settings.Environment) (s : Settings) : Text :=
  if (environmentFilter? env).isSome then [] else (Filter.notices s.logLevel).flatMap (· ++ ['\n'])

/-- a server that is ready to listen -/
structure Plan where
  settings : Settings
  address : SocketAddress
  flooder : Flooder

/-- the server of some settings, if one can be started with them -/
def Settings.plan (s : Settings) : Except SettingsFault Plan :=
  match h : s.validated with
  | .error fault => .error fault
  | .ok t =>
    t.listenAddress.map fun a =>
      ⟨t, a, ⟨t.rate.toNat, t.duration, ⟨t.consistentTenants⟩, Settings.minRate_le_of_validated h⟩⟩

/-- the server that a command line, the program's name first, asks for -/
def planOf (files : Settings.Files) (env : Settings.Environment) (args : List Octets) : Except Exit Plan :=
  match CommandLine.read args.tail with
  | .error stop => .error (stop.exit (CommandLine.programOf (args.head?.getD [])))
  | .ok overrides =>
    match Settings.load files settingsName env with
    | .error fault =>
      .error (.failure "Error loading config".toList [fault.message?.getD "the file of settings is not TOML".toList])
    | .ok s => (s.overridden overrides).plan.mapError fun fault => .failure "Invalid config".toList fault.causes

/-- what a server logs once it listens at an address -/
def Plan.lines (p : Plan) (listening : Text) : List LogLine :=
  [⟨.info, "Presence flood server on port ".toList ++ decimal p.settings.port.toNat ++ ", rate=".toList ++
     decimal p.settings.rate.toNat ++ "/s, duration=".toList ++ decimal p.settings.durationSecs.toNat ++ ['s']⟩,
   ⟨.debug, "Accepting connections at ".toList ++ listening⟩]

/-- the end of a program that cannot listen at its address -/
def Plan.unbound (p : Plan) (e : IoError) : Exit := .failure ("Error binding to ".toList ++ p.address.text) [e.text]

end CallFeed

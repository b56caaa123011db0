/-
The command line: up to three values, and two flags that stop it short.

Arguments are taken from left to right and the first that cannot be used ends the reading. An argument that starts with a
dash, and is more than one, is a flag, until a bare `--` turns all that follow into values. A value is judged only when
the reading goes on to the next one, to a flag that exists, or to the end. What is shown of an argument has no control
sequences.

- `CommandLine.read`: the settings given, or what stopped the reading;
- `Stop.message`: what is then shown, and `Stop.exitCode`.
-/
import CallFeed.Settings
import CallFeed.Text.Likeness
import CallFeed.Text.Screen
import CallFeed.Text.Utf8

namespace CallFeed

open CallFeed.Text

namespace CommandLine

/-- what the values stand for, in their order -/
inductive Place where
  | port
  | rate
  | durationSecs
deriving DecidableEq, Repr

def Place.all : List Place := [.port, .rate, .durationSecs]

def Place.name : Place → Text
  | port => "PORT".toList
  | rate => "RATE".toList
  | durationSecs => "DURATION_SEC".toList

inductive Flag where
  | help
  | version
deriving DecidableEq, Repr

def Flag.all : List Flag := [.help, .version]

def Flag.name : Flag → Text
  | help => "help".toList
  | version => "version".toList

/-- a flag as it is given by its name -/
def Flag.long (f : Flag) : Text := '-' :: '-' :: f.name

def Flag.letter : Flag → Char
  | help => 'h'
  | version => 'V'

/-- what is wrong with a value -/
inductive ValueFault where
  | numeral (f : NumeralFault)
  | notPort (n : Int)
deriving DecidableEq, Repr

/-- an integer in decimal, with a minus sign when it is negative -/
def integerText (n : Int) : Text := if n < 0 then '-' :: decimal n.natAbs else decimal n.natAbs

def ValueFault.message : ValueFault → Text
  | numeral f => f.message.toList
  | notPort n => integerText n ++ " is not in 0..=65535".toList

/-- what ends the reading of a command line -/
inductive Stop where
  /-- a flag was given -/
  | asked (f : Flag)
  /-- a flag was given with a value; these values were judged before it -/
  | flagWithValue (f : Flag) (value : Text) (before : List Place)
  /-- there is no such flag of one letter -/
  | noLetter (given : Text)
  /-- there is no flag of this name, but maybe one like it; these values came before it -/
  | noName (given : Text) (like : Option Flag) (before : List Place)
  /-- one value too many -/
  | oneTooMany (value : Text)
  | badValue (place : Place) (value : Text) (fault : ValueFault)
  | notText
deriving DecidableEq, Repr

/-- the name a program goes by when its own name says nothing -/
def programName : Text := "presence-flood".toList

def versionText : Text := "0.1.0".toList

/-- the octet of a slash -/
def slash : UInt8 := 47

/-- the octet of a dot -/
def dot : UInt8 := 46

/-- the name of the program in a command line: that of its file -/
def programOf (first : Octets) : Text :=
  let names := (parts slash first).filter fun p => p ≠ [] && p ≠ [dot]
  match names.getLast? with
  | some name => if name = [dot, dot] then programName else (decode? name).getD programName
  | none => programName

/-- the usage of a program, a flag and the values already given -/
def usage (program : Text) (flags : List Flag) (before : List Place) : Text :=
  let places := Place.all.map fun p =>
    if before.contains p then '<' :: p.name ++ ['>'] else '[' :: p.name ++ [']']
  "Usage: ".toList ++ joined [' '] (onScreen program :: flags.map Flag.long ++ places)

/-- paragraphs of an error -/
def errorText (paragraphs : List Text) : Text :=
  "error: ".toList ++ joined ['\n', '\n'] (paragraphs ++ ["For more information, try '--help'.\n".toList])

def helpText (program : Text) : Text :=
  joined ['\n']
    ["Streams synthetic presence events to every client that connects".toList,
     [],
     usage program [] [],
     [],
     "Arguments:".toList,
     "  [PORT]          TCP port to listen on".toList,
     "  [RATE]          Target events per second, per connection".toList,
     "  [DURATION_SEC]  How long each connection is flooded, in seconds".toList,
     [],
     "Options:".toList,
     "  -h, --help     Print help".toList,
     "  -V, --version  Print version".toList,
     []]

def unexpectedText (given : Text) : Text := "unexpected argument '".toList ++ onScreen given ++ "' found".toList

/-- how a flag that does not exist could be given as a value -/
def asValueTip (given : Text) : Text :=
  "  tip: to pass '".toList ++ onScreen given ++ "' as a value, use '-- ".toList ++ onScreen given ++ ['\'']

/-- which flag could have been meant -/
def likeTip (f : Flag) : Text := "  tip: a similar argument exists: '".toList ++ f.long ++ ['\'']

namespace Stop

def message (program : Text) : Stop → Text
  | asked .help => helpText program
  | asked .version => programName ++ ' ' :: versionText ++ ['\n']
  | flagWithValue f value before =>
    errorText
      ["unexpected value '".toList ++ onScreen value ++ "' for '".toList ++ f.long ++
          "' found; no more were expected".toList,
       usage program [f] before]
  | noLetter given => errorText [unexpectedText given, asValueTip given, usage program [] []]
  | noName given none before => errorText [unexpectedText given, asValueTip given, usage program [] before]
  | noName given (some f) before => errorText [unexpectedText given, likeTip f, usage program [f] before]
  | oneTooMany value => errorText [unexpectedText value, usage program [] []]
  | badValue place value fault =>
    errorText
      ["invalid value '".toList ++ onScreen value ++ "' for '[".toList ++ place.name ++ "]': ".toList ++ fault.message]
  | notText => errorText ["invalid UTF-8 was detected in one or more arguments".toList, usage program [] []]

/-- whether what is shown was asked for -/
def isAnswer : Stop → Bool
  | asked _ => true
  | _ => false

def exitCode (s : Stop) : Nat := if s.isAnswer then 0 else 2

end Stop

/-- a port: a signed numeral within the range of ports -/
def readPort (t : Text) : Except ValueFault UInt16 :=
  match readSigned 10 signedBound t with
  | .error f => .error (.numeral f)
  | .ok n => if 0 ≤ n ∧ n ≤ 65535 then .ok (UInt16.ofNat n.toNat) else .error (.notPort n)

/-- a count: an unsigned numeral of 64 bits -/
def readCount (t : Text) : Except ValueFault UInt64 :=
  match readUnsigned maxCount t with
  | .error f => .error (.numeral f)
  | .ok n => .ok (UInt64.ofNat n)

/-- the overrides with one more value -/
def place (o : Overrides) (p : Place) (t : Text) : Except ValueFault Overrides :=
  match p with
  | .port => (readPort t).map fun n => { o with port := some n }
  | .rate => (readCount t).map fun n => { o with rate := some n }
  | .durationSecs => (readCount t).map fun n => { o with durationSecs := some n }

def dash : UInt8 := 45

def equalsSign : UInt8 := 61

/-- whether an argument is a flag -/
def isFlag (arg : Octets) : Bool := arg.head? == some dash && arg != [dash]

/-- the flag of a name -/
def flagOf? (name : Text) : Option Flag := Flag.all.find? fun f => f.name == name

/-- the flag of a letter -/
def flagOfLetter? (c : Char) : Option Flag := Flag.all.find? fun f => f.letter == c

/-- the flag whose name is most like one that no flag has, if any is like it -/
def flagLike? (name : Text) : Option Flag := (mostAlike? name (Flag.all.map Flag.name)).bind flagOf?

/-- how far the reading has come: what the values judged so far set, the value not yet judged, and the places still to be
filled -/
structure Progress where
  judged : Overrides := {}
  last : Option (Place × Octets) := none
  free : List Place := Place.all

namespace Progress

/-- the overrides of all values given so far -/
def settled (r : Progress) : Except Stop Overrides :=
  match r.last with
  | none => .ok r.judged
  | some (p, arg) =>
    match decode? arg with
    | none => .error .notText
    | some t => (place r.judged p t).mapError (.badValue p t)

/-- the places that values were given for -/
def given (r : Progress) : List Place := Place.all.filter fun p => !r.free.contains p

/-- the places whose values have been judged -/
def judgedPlaces (r : Progress) : List Place := r.given.filter fun p => r.last.all fun v => v.1 ≠ p

/-- a flag that exists has come: the value before it is judged first -/
def stopOfAsked (r : Progress) (f : Flag) : Stop :=
  match r.settled with
  | .error stop => stop
  | .ok _ => .asked f

/-- what a flag given by its name, after the two dashes, comes to -/
def stopOfName (r : Progress) (body : Octets) : Stop :=
  let name := decodeLossy (body.takeWhile (· != equalsSign))
  match flagOf? name, body.dropWhile (· != equalsSign) with
  | some f, [] => r.stopOfAsked f
  | some f, _ :: value => .flagWithValue f (decodeLossy value) r.judgedPlaces
  | none, _ => .noName ('-' :: '-' :: name) (flagLike? name) r.given

/-- what flags given by letters, after the dash, come to; only the first letter matters -/
def stopOfLetters (r : Progress) (body : Octets) : Stop :=
  match pieces body with
  | .char c :: _ =>
    match flagOfLetter? c with
    | some f => r.stopOfAsked f
    | none => .noLetter ['-', c]
  | _ => .noLetter ('-' :: decodeLossy body)

/-- what a flag comes to -/
def stopOfFlag (r : Progress) (arg : Octets) : Stop :=
  match arg with
  | _ :: second :: body => if second = dash then r.stopOfName body else r.stopOfLetters (second :: body)
  | _ => .noLetter (decodeLossy arg)

/-- a value has come: the one before it is judged -/
def next (r : Progress) (arg : Octets) : Except Stop Progress :=
  match r.free with
  | [] => .error (.oneTooMany (decodeLossy arg))
  | p :: free => r.settled.map fun o => ⟨o, some (p, arg), free⟩

end Progress

/-- the overrides of arguments; `onlyValues` once a bare `--` has come -/
def readFrom : (onlyValues : Bool) → Progress → List Octets → Except Stop Overrides
  | _, r, [] => r.settled
  | onlyValues, r, arg :: rest =>
    if onlyValues || !isFlag arg then
      match r.next arg with
      | .error stop => .error stop
      | .ok r => readFrom onlyValues r rest
    else if arg = [dash, dash] then readFrom true r rest
    else .error (r.stopOfFlag arg)

/-- the overrides of the arguments after the program's name -/
def read (args : List Octets) : Except Stop Overrides := readFrom false {} args

end CommandLine

end CallFeed

import LinkWatch.Decimal.Nearest
import LinkWatch.Text.Split

/-!
# Options

A command line has options, then perhaps a command, then options again. Most options may stand at
both places, and the later place wins; at one place an option stands at most once. The value of an
option is attached to it or is the next argument, which then must not look like an option. A value
is judged where it stands, so the version is shown only if everything before it is in order.

A whole number is decimal, with a plus sign or none, and fits into 64 bits. A real number is
decimal with an optional sign, fraction and exponent, and needs a digit before or after the point;
infinity and the value that is no number are written as words, in any case of letters.
-/

namespace LinkWatch.CommandLine

/-! ## Numbers -/

/-- The value of decimal digits. -/
def digitsValue (cs : List Char) : Nat :=
  cs.foldl (fun n c => n * 10 + (c.toNat - '0'.toNat)) 0

/-- Whether a text is a sequence of digits, of which there is at least one. -/
def areDigits (cs : List Char) : Bool :=
  cs ≠ [] && cs.all Char.isDigit

/-- Reads a whole number. -/
def natural? (text : String) : Option UInt64 :=
  let digits := match text.toList with
    | '+' :: rest => rest
    | cs => cs
  if areDigits digits && digitsValue digits < UInt64.size then
    some (UInt64.ofNat (digitsValue digits))
  else none

/-- A sign, if there is one: whether it is a minus, and the rest. -/
def takeSign : List Char → Bool × List Char
  | '-' :: rest => (true, rest)
  | '+' :: rest => (false, rest)
  | cs => (false, cs)

/-- Reads an exponent, which may be missing. -/
def exponent? : List Char → Option Int
  | [] => some 0
  | c :: rest =>
    let (negative, digits) := takeSign rest
    if c.toLower = 'e' && areDigits digits then
      some (if negative then -digitsValue digits else digitsValue digits)
    else none

/-- Reads a number without its sign. -/
def magnitude? (cs : List Char) : Option Float :=
  let whole := cs.takeWhile Char.isDigit
  let rest := cs.dropWhile Char.isDigit
  let (fraction, rest) := match rest with
    | '.' :: rest => (rest.takeWhile Char.isDigit, rest.dropWhile Char.isDigit)
    | rest => ([], rest)
  if whole = [] && fraction = [] then none
  else (exponent? rest).map fun e =>
    Decimal.nearestDecimal (digitsValue (whole ++ fraction)) (e - fraction.length)

/-- Reads a real number. -/
def real? (text : String) : Option Float :=
  let (negative, cs) := takeSign text.toList
  let word := String.ofList (cs.map Char.toLower)
  let magnitude :=
    if word = "inf" || word = "infinity" then some (1.0 / 0.0)
    else if word = "nan" then some (0.0 / 0.0)
    else magnitude? cs
  magnitude.map fun x => if negative then -x else x

/-! ## Commands and options -/

/-- What the program can be told to do. -/
inductive Command where
  | watch
  | proxy
  | config
  deriving DecidableEq, Repr

/-- The command of a name. -/
def Command.ofName? : String → Option Command
  | "watch" => some .watch
  | "proxy" => some .proxy
  | "config" => some .config
  | _ => none

/-- An option that takes a value. -/
inductive Setting where
  | interval
  | format
  | config
  | count
  deriving DecidableEq, Repr

/-- The long name of an option. -/
def Setting.long : Setting → String
  | .interval => "interval"
  | .format => "format"
  | .config => "config"
  | .count => "count"

/-- The short name of an option. -/
def Setting.short : Setting → Char
  | .interval => 'i'
  | .format => 'f'
  | .config => 'c'
  | .count => 'n'

/-- The options that may stand at a place. Only before the command may the reports be counted. -/
def Setting.allowed (afterCommand : Bool) : List Setting :=
  if afterCommand then [.interval, .format, .config] else [.interval, .format, .config, .count]

/-- The values given at one place. -/
structure Choices where
  interval : Option Float := none
  format : Option String := none
  config : Option String := none
  count : Option UInt64 := none

/-- Fills a value that is not given yet. -/
def fill? {α : Type} (present value : Option α) : Option (Option α) :=
  match present, value with
  | none, some a => some (some a)
  | _, _ => none

/-- Gives an option its value. A second value and one that cannot be read are refused; a file needs
a name. -/
def Choices.set? (c : Choices) (s : Setting) (value : String) : Option Choices :=
  match s with
  | .interval => (fill? c.interval (real? value)).map fun v => { c with interval := v }
  | .format => (fill? c.format (some value)).map fun v => { c with format := v }
  | .config =>
    (fill? c.config (if value = "" then none else some value)).map fun v => { c with config := v }
  | .count => (fill? c.count (natural? value)).map fun v => { c with count := v }

/-- One argument, taken by itself. -/
inductive Argument where
  | word
  | endOfOptions
  | version
  | help
  /-- An option whose value is the next argument. -/
  | opened (s : Setting)
  | given (s : Setting) (value : String)
  | unknown

/-- Reads an argument that starts with two dashes. -/
def Argument.ofLong (afterCommand : Bool) (cs : List Char) : Argument :=
  let find? (name : List Char) : Option Setting :=
    (Setting.allowed afterCommand).find? fun s => s.long = String.ofList name
  match Text.cutAt? '=' cs with
  | some (name, value) =>
    match find? name with
    | some s => .given s (String.ofList value)
    | none => .unknown
  | none =>
    match find? cs with
    | some s => .opened s
    | none =>
      if String.ofList cs = "version" && !afterCommand then .version
      else if String.ofList cs = "help" then .help
      else .unknown

/-- Reads an argument that starts with one dash. -/
def Argument.ofShort (afterCommand : Bool) (c : Char) (attached : List Char) : Argument :=
  match (Setting.allowed afterCommand).find? fun s => s.short = c with
  | some s =>
    match attached with
    | [] => .opened s
    | '=' :: value => .given s (String.ofList value)
    | value => .given s (String.ofList value)
  | none =>
    if c = 'V' && !afterCommand then .version
    else if c = 'h' then .help
    else .unknown

/-- Reads an argument. A single dash is an ordinary word. -/
def Argument.ofString (afterCommand : Bool) (text : String) : Argument :=
  match text.toList with
  | ['-', '-'] => .endOfOptions
  | '-' :: '-' :: cs => .ofLong afterCommand cs
  | '-' :: c :: attached => .ofShort afterCommand c attached
  | _ => .word

/-- Whether an argument can be the value of the option before it. -/
def isValue (text : String) : Bool :=
  match text.toList with
  | '-' :: _ :: _ => false
  | _ => true

/-- Where reading the options of one place ends. -/
inductive PlaceEnd where
  | finished (c : Choices)
  | word (c : Choices) (w : String) (rest : List String)
  | version
  | help
  | misuse

/-- Reads the options of one place, up to the first word. Nothing can follow the end of options. -/
def readPlace (afterCommand : Bool) (c : Choices) : List String → PlaceEnd
  | [] => .finished c
  | a :: rest =>
    match Argument.ofString afterCommand a with
    | .word => .word c a rest
    | .endOfOptions => if rest = [] then .finished c else .misuse
    | .version => .version
    | .help => .help
    | .unknown => .misuse
    | .given s value =>
      match c.set? s value with
      | some c => readPlace afterCommand c rest
      | none => .misuse
    | .opened s =>
      match rest with
      | [] => .misuse
      | value :: rest =>
        if isValue value then
          match c.set? s value with
          | some c => readPlace afterCommand c rest
          | none => .misuse
        else .misuse

/-- What the program is asked to do. -/
structure Options where
  command : Command := .watch
  interval : Option Float := none
  format : String := "text"
  config : Option String := none
  /-- How many reports to show; zero stands for no end. -/
  count : UInt64 := 0

/-- The options of a command line with values before and after the command. -/
def Options.ofChoices (command : Command) (before after : Choices) : Options where
  command := command
  interval := after.interval.or before.interval
  format := (after.format.or before.format).getD "text"
  config := after.config.or before.config
  count := before.count.getD 0

/-- What a command line asks for. -/
inductive Request where
  | run (o : Options)
  | version
  | help
  | misuse

/-- What asking for help comes to, with the names of the commands to be explained: at most one,
which may be the help itself. -/
def helpOn : List String → Request
  | [] => .help
  | [name] => if (Command.ofName? name).isSome || name = "help" then .help else .misuse
  | _ => .misuse

/-- Reads a command line. Without a command the program watches. -/
def Request.ofArguments (arguments : List String) : Request :=
  match readPlace false {} arguments with
  | .finished c => .run (Options.ofChoices .watch c {})
  | .version => .version
  | .help => .help
  | .misuse => .misuse
  | .word before w rest =>
    match Command.ofName? w with
    | none => if w = "help" then helpOn rest else .misuse
    | some command =>
      match readPlace true {} rest with
      | .finished after => .run (Options.ofChoices command before after)
      | .help => .help
      | _ => .misuse

end LinkWatch.CommandLine

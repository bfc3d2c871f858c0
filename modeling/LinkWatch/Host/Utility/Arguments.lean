import LinkWatch.Host.Utility.Stream
import LinkWatch.Host.Utility.Template

/-!
# Arguments in order

The arguments of a script are put in order for it: options first, each with its value, and then the
others. What is written can be read by a shell again.
-/

namespace LinkWatch.Host.Utility

open LinkWatch.Text LinkWatch.Host.Kernel

/-- Whether an option has a value. -/
inductive ValueNeed where
  | without
  | required
  | optional
  deriving DecidableEq

/-- Where arguments that are no options go. -/
inductive OperandPlace where
  | atEnd
  | endsOptions
  | inOrder
  deriving DecidableEq

/-- The options that a script knows. -/
structure KnownOptions where
  short : List (Char × ValueNeed)
  long : List (Bytes × ValueNeed)
  place : OperandPlace
  /-- Whether long names may follow a single dash. -/
  isAlternative : Bool

/-- Reads the letters of options: a colon after one says that it has a value, two that it may have
one. -/
def shortOptions : Bytes → List (Char × ValueNeed)
  | c :: ':' :: ':' :: rest => (c, .optional) :: shortOptions rest
  | c :: ':' :: rest => (c, .required) :: shortOptions rest
  | c :: rest => (c, .without) :: shortOptions rest
  | [] => []

/-- Reads the names of long options. -/
def longOptions (text : Bytes) : List (Bytes × ValueNeed) :=
  let names := (pieces ',' (text.map fun c => if isSpaceChar c then ',' else c)).filter (· ≠ [])
  names.map fun name =>
    match name.reverse with
    | ':' :: ':' :: rest => (rest.reverse, .optional)
    | ':' :: rest => (rest.reverse, .required)
    | _ => (name, .without)

/-- An argument that has been put in order. -/
inductive Arranged where
  | option (name : Bytes) (value : Option Bytes)
  | operand (word : Bytes)

/-- What arranging has come to: the arguments, and what is wrong with them. -/
structure Arrangement where
  arguments : List Arranged := []
  operands : List Bytes := []
  faults : List Bytes := []

/-- Reads a long option, after its dashes. -/
def KnownOptions.arrangeLong (k : KnownOptions) (dashes text : Bytes) (rest : List Bytes) :
    List Arranged × List Bytes × List Bytes :=
  let (name, value) := match cutAt? '=' text with
    | some (name, value) => (name, some value)
    | none => (text, none)
  let shown (n : Bytes) : Bytes := inQuotes ('-' :: '-' :: n)
  let meant := match k.long.find? fun l => l.1 = name with
    | some l => [l]
    | none => k.long.filter fun l => name.isPrefixOf l.1
  match meant with
  | [] => ([], rest, ["unrecognized option ".toList ++ inQuotes (dashes ++ name)])
  | [(full, need)] =>
    match need, value, rest with
    | .without, some _, _ =>
      ([], rest, ["option ".toList ++ shown full ++ " doesn't allow an argument".toList])
    | .without, none, _ => ([.option ('-' :: '-' :: full) none], rest, [])
    | .optional, value, _ => ([.option ('-' :: '-' :: full) (some (value.getD []))], rest, [])
    | .required, some value, _ => ([.option ('-' :: '-' :: full) (some value)], rest, [])
    | .required, none, value :: rest => ([.option ('-' :: '-' :: full) (some value)], rest, [])
    | .required, none, [] =>
      ([], [], ["option ".toList ++ shown full ++ " requires an argument".toList])
  | several =>
    ([], rest, ["option ".toList ++ inQuotes (dashes ++ name)
      ++ " is ambiguous; possibilities: ".toList
      ++ joinWith [' '] (several.map fun l => shown l.1)])

/-- Reads a cluster of options of one letter. -/
def KnownOptions.arrangeShort (k : KnownOptions) :
    Bytes → List Bytes → List Arranged × List Bytes × List Bytes
  | [], rest => ([], rest, [])
  | c :: cs, rest =>
    let go (a : List Arranged) (faults : List Bytes) : List Arranged × List Bytes × List Bytes :=
      let p := k.arrangeShort cs rest
      (a ++ p.1, p.2.1, faults ++ p.2.2)
    match if c = ':' then none else k.short.lookup c with
    | none => go [] ["invalid option -- ".toList ++ inQuotes [c]]
    | some .without => go [.option ['-', c] none] []
    | some .optional => ([.option ['-', c] (some cs)], rest, [])
    | some .required =>
      if cs ≠ [] then ([.option ['-', c] (some cs)], rest, [])
      else match rest with
        | value :: rest => ([.option ['-', c] (some value)], rest, [])
        | [] => ([], [], ["option requires an argument -- ".toList ++ inQuotes [c]])

/-- Puts arguments in order. -/
def KnownOptions.arrange (k : KnownOptions) : Nat → List Bytes → Arrangement
  | 0, _ => {}
  | fuel + 1, words =>
    let option (p : List Arranged × List Bytes × List Bytes) : Arrangement :=
      let a := k.arrange fuel p.2.1
      { a with arguments := p.1 ++ a.arguments, faults := p.2.2 ++ a.faults }
    match words with
    | [] => {}
    | ['-', '-'] :: rest => { operands := rest }
    | ('-' :: '-' :: name) :: rest => option (k.arrangeLong ['-', '-'] name rest)
    | ('-' :: c :: cs) :: rest =>
      let isLong := k.isAlternative && k.long.any fun l =>
        ((cutAt? '=' (c :: cs)).map Prod.fst).getD (c :: cs) |>.isPrefixOf l.1
      if isLong && (cs ≠ [] || (k.short.lookup c).isNone) then
        option (k.arrangeLong ['-'] (c :: cs) rest)
      else option (k.arrangeShort (c :: cs) rest)
    | word :: rest =>
      match k.place with
      | .endsOptions => { operands := word :: rest }
      | .inOrder =>
        let a := k.arrange fuel rest
        { a with arguments := .operand word :: a.arguments }
      | .atEnd =>
        let a := k.arrange fuel rest
        { a with operands := word :: a.operands }

/-- A word in quotes for a shell; some shells need more escapes. -/
def shellWord (isOther : Bool) (word : Bytes) : Bytes :=
  '\'' :: word.flatMap (fun c =>
    if c = '\'' then "'\\''".toList
    else if isOther && c = '!' then "'\\!'".toList
    else if isOther && c = '\\' then "\\\\".toList
    else if isOther && c = '\n' then "\\n".toList
    else if isOther && isSpaceChar c then "'\\".toList ++ c :: ['\'']
    else [c]) ++ ['\'']

/-- Puts the arguments of a script in order. -/
def arrangeArguments (c : Call) : Program Nat := do
  let t : OptionTable :=
    { plain := ['a', 'q', 'Q', 'T', 'u'], valued := ['o', 'l', 'n', 's']
      long := [("alternative", 'a'), ("options", 'o'), ("longoptions", 'l'), ("name", 'n'),
        ("quiet", 'q'), ("quiet-output", 'Q'), ("shell", 's'), ("test", 'T'), ("unquoted", 'u')]
      isStrict := true }
  let arrange (o : Options) (words : List Bytes) (isOld : Bool) : Program Nat := do
    let (letters, words) := match o.value? 'o' with
      | some letters => (letters, words)
      | none => (words.headD [], words.drop 1)
    let place : OperandPlace := match letters with
      | '+' :: _ => .endsOptions
      | '-' :: _ => .inOrder
      | _ => if (c.environment.lookup "POSIXLY_CORRECT".toList).isSome then .endsOptions else .atEnd
    let letters := if ['+', '-'].contains (letters.headD ' ') then letters.drop 1 else letters
    let k : KnownOptions :=
      ⟨shortOptions letters, (o.values 'l').flatMap longOptions, place, o.has 'a'⟩
    let a := k.arrange (words.length + 1) words
    let name := (o.value? 'n').getD c.name
    let isOther := match o.value? 's' with
      | some shell => ["csh".toList, "tcsh".toList].contains shell
      | none => false
    let quoted (word : Bytes) : Bytes := if isOld || o.has 'u' then word else shellWord isOther word
    if !o.has 'q' then
      for fault in a.faults do
        let _ ← writeTo 2 (line (name ++ ':' :: ' ' :: fault))
    let arguments := a.arguments.flatMap fun
      | .option name none => ' ' :: name
      | .option name (some value) => ' ' :: name ++ ' ' :: quoted value
      | .operand word => ' ' :: quoted word
    let output := line (arguments ++ " --".toList ++ a.operands.flatMap fun w => ' ' :: quoted w)
    let status := if a.faults = [] then 0 else 1
    if o.has 'Q' then return status else c.deliver output status
  let missing : Program Nat := c.misuse 2 "missing optstring argument".toList
  match c.arguments with
  | [] => missing
  | word :: words =>
    if word.head? ≠ some '-' then
      let words := if words.head? = some ['-', '-'] then words.drop 1 else words
      arrange {} (word :: words) true
    else
      match t.read (c.arguments.length + 1) c.arguments with
      | .error words => c.misuse 2 words
      | .ok o =>
        let shells : List Bytes := ["sh".toList, "bash".toList, "csh".toList, "tcsh".toList]
        let known := (o.values 's').all shells.contains
        if o.has helpFlag then c.deliver (usageLine c.name) 0
        else if o.has versionFlag then c.deliver (line "getopt from util-linux 2.38.1".toList) 0
        else if o.has 'T' then return 4
        else if !known then c.misuse 2 "unknown shell after -s or --shell argument".toList
        else if (o.value? 'o').isNone && o.operands = [] then missing
        else arrange o o.operands false

end LinkWatch.Host.Utility

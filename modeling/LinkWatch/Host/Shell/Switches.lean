import LinkWatch.Host.Shell.Declaring

/-!
# Options and switches

The rich language has more options than the common one, some of them without a letter, and switches
that are set by a command of their own.
-/

namespace LinkWatch.Host.Shell

open LinkWatch.Text LinkWatch.Host.Kernel LinkWatch.Host.Utility

/-- The names of the options, with their letters if they have some. -/
def richOptions : List (String × Option Char) :=
  [("allexport", some 'a'), ("braceexpand", some 'B'), ("emacs", none), ("errexit", some 'e'),
    ("errtrace", some 'E'), ("functrace", some 'T'), ("hashall", some 'h'),
    ("histexpand", some 'H'), ("history", none), ("ignoreeof", none),
    ("interactive-comments", none), ("keyword", some 'k'), ("monitor", some 'm'),
    ("noclobber", some 'C'), ("noexec", some 'n'), ("noglob", some 'f'), ("nolog", none),
    ("notify", some 'b'), ("nounset", some 'u'), ("onecmd", some 't'), ("physical", some 'P'),
    ("pipefail", none), ("posix", none), ("privileged", some 'p'), ("verbose", some 'v'),
    ("vi", none), ("xtrace", some 'x')]

/-- The switches, and whether they are on at the start. -/
def switchNames : List (String × Bool) :=
  [("autocd", false), ("assoc_expand_once", false), ("cdable_vars", false), ("cdspell", false),
    ("checkhash", false), ("checkjobs", false), ("checkwinsize", true), ("cmdhist", true),
    ("compat31", false), ("compat32", false), ("compat40", false), ("compat41", false),
    ("compat42", false), ("compat43", false), ("compat44", false), ("complete_fullquote", true),
    ("direxpand", false), ("dirspell", false), ("dotglob", false), ("execfail", false),
    ("expand_aliases", false), ("extdebug", false), ("extglob", false), ("extquote", true),
    ("failglob", false), ("force_fignore", true), ("globasciiranges", true),
    ("globskipdots", true), ("globstar", false), ("gnu_errfmt", false), ("histappend", false),
    ("histreedit", false), ("histverify", false), ("hostcomplete", true), ("huponexit", false),
    ("inherit_errexit", false), ("interactive_comments", true), ("lastpipe", false),
    ("lithist", false), ("localvar_inherit", false), ("localvar_unset", false),
    ("login_shell", false), ("mailwarn", false), ("no_empty_cmd_completion", false),
    ("nocaseglob", false), ("nocasematch", false), ("noexpand_translation", false),
    ("nullglob", false), ("patsub_replacement", true), ("progcomp", true),
    ("progcomp_alias", false), ("promptvars", true), ("restricted_shell", false),
    ("shift_verbose", false), ("sourcepath", true), ("varredir_close", false),
    ("xpg_echo", false)]

/-- What is on at the start. -/
def initialSwitches : List String :=
  "interactive-comments" :: (switchNames.filter Prod.snd).map Prod.fst

/-- The letters of the options that are on at the start. -/
def initialLetters : List Char :=
  ['h', 'B']

/-- Whether an option is on. -/
def State.isOn (s : State) (o : String × Option Char) : Bool :=
  o.2.elim (s.switched o.1) s.has

/-- Turns a switch on or off. -/
def turnSwitch (name : String) (value : Bool) : Act Unit :=
  modify fun s =>
    let others := s.switches.filter (· ≠ name)
    { s with switches := if value then name :: others else others }

/-- Turns an option on or off by its name. -/
def turnOption (name : Bytes) (value : Bool) : Act Unit := do
  match richOptions.find? fun o => o.1.toList = name with
  | some (name, none) => turnSwitch name value
  | some (_, some letter) => setOption letter value
  | none => failAs 2 [] (name ++ ": invalid option name".toList)

/-- A name with what it is set to. -/
def switchLine (name : String) (value : Bool) : Bytes :=
  let name := name.toList
  line (name ++ List.replicate (15 - name.length) ' '
    ++ '\t' :: (if value then "on" else "off").toList)

/-- The lines that show all options, or commands that set them. -/
def richOptionLines (isPlain : Bool) (s : State) : Bytes :=
  richOptions.flatMap fun o =>
    if isPlain then switchLine o.1 (s.isOn o)
    else line ((if s.isOn o then "set -o ".toList else "set +o ".toList) ++ o.1.toList)

/-- The names of the options that are on, with colons between them. -/
def optionList (s : State) : Bytes :=
  joinWith [':'] ((richOptions.filter s.isOn).map fun o => o.1.toList)

/-- The names of the switches that are on, with colons between them. -/
def switchList (s : State) : Bytes :=
  joinWith [':'] ((switchNames.filter fun o => s.switched o.1).map fun o => o.1.toList)

/-- Brings the variables that list options and switches up to date. -/
def noteSwitches : Act Unit :=
  modify fun s =>
    let fixed (name : String) (text : Bytes) (s : State) : State :=
      let b := (s.binding? name.toList).getD { name := name.toList }
      s.bind { b with contents := .text text, fixed := true }
    fixed "SHELLOPTS" (optionList s) (fixed "BASHOPTS" (switchList s) s)

/-- Reads the letters of one argument that sets options. Letters that only the start of a shell
knows come back. -/
def readRichLetters (atStart value : Bool) : Bytes → List Bytes → Act (List Char × List Bytes)
  | [], rest => return ([], rest)
  | c :: cs, rest => do
    if atStart && c ∈ ['c', 'l', 's', 'i', 'r', 'D'] then
      let (found, rest) ← readRichLetters atStart value cs rest
      return (c :: found, rest)
    else if c = 'o' || (atStart && c = 'O') then
      match rest with
      | [] =>
        let s ← get
        let _ ← say (richOptionLines value s) 0
        readRichLetters atStart value cs []
      | name :: rest =>
        if c = 'o' then turnOption name value else turnSwitch (String.ofList name) value
        readRichLetters atStart value cs rest
    else
      setOption c value
      readRichLetters atStart value cs rest

/-- Reads arguments that set options. -/
def readRichOptions (atStart : Bool) : Nat → List Bytes → Act Leftover
  | 0, arguments => return { operands := arguments }
  | fuel + 1, arguments => do
    let go (value : Bool) (letters : Bytes) (rest : List Bytes) : Act Leftover := do
      let (found, rest) ← readRichLetters atStart value letters rest
      let l ← readRichOptions atStart fuel rest
      return { l with letters := found ++ l.letters }
    match arguments with
    | ['-'] :: rest =>
      if !atStart then
        setOption 'x' false
        setOption 'v' false
      return { operands := rest }
    | ['-', '-'] :: rest => return { operands := rest, isEnded := true }
    | ('-' :: '-' :: name) :: rest =>
      if !atStart then failAs 2 [] "--: invalid option".toList
      else
        match String.ofList name with
        | "posix" =>
          turnSwitch "posix" true
          readRichOptions atStart fuel rest
        | "rcfile" => readRichOptions atStart fuel (rest.drop 1)
        | "init-file" => readRichOptions atStart fuel (rest.drop 1)
        | text =>
          if text ∈ ["norc", "noprofile", "login", "noediting", "restricted", "verbose", "debugger"]
          then readRichOptions atStart fuel rest
          else failAs 2 [] ("--".toList ++ name ++ ": invalid option".toList)
    | ('-' :: letters) :: rest => go true letters rest
    | ('+' :: letters) :: rest => go false letters rest
    | _ => return { operands := arguments }

/-- Sets options and arguments, or shows the variables. -/
def setRich : Builtin := fun arguments => do
  if arguments = [] then
    noteSwitches
    showListing
  else
    let l ← readRichOptions false (arguments.length + 1) arguments
    if l.operands ≠ [] || l.isEnded then modify (·.withArguments l.operands)
    noteSwitches
    return 0

/-- Turns switches on or off, or shows them. -/
def turnSwitches : Builtin := fun arguments =>
  withGiven ['s', 'u', 'p', 'q', 'o'] [] arguments fun g => do
    let s ← get
    let sets := g.has 's'
    let clears := g.has 'u'
    let all : List (String × Bool) :=
      if g.has 'o' then richOptions.map fun o => (o.1, s.isOn o)
      else switchNames.map fun o => (o.1, s.switched o.1)
    let isShown (o : String × Bool) : Bool := (!sets && !clears) || o.2 = sets
    let shown (o : String × Bool) : Bytes :=
      if g.has 'p' then
        if g.has 'o' then line ((if o.2 then "set -o " else "set +o ").toList ++ o.1.toList)
        else line ((if o.2 then "shopt -s " else "shopt -u ").toList ++ o.1.toList)
      else switchLine o.1 o.2
    if sets && clears then
      warn "cannot set and unset shell options simultaneously".toList
      return 1
    else if g.operands = [] then
      if g.has 'q' then return 0 else say ((all.filter isShown).flatMap shown) 0
    else
      let results ← g.operands.mapM fun name => do
        match all.find? fun o => o.1.toList = name with
        | none =>
          warn (name ++ (if g.has 'o' then ": invalid option name"
            else ": invalid shell option name").toList)
          return false
        | some o =>
          if sets || clears then
            if g.has 'o' then turnOption name sets else turnSwitch o.1 sets
            return true
          else
            if !g.has 'q' then
              let _ ← say (shown o) 0
            return o.2
      noteSwitches
      return if results.all id then 0 else 1

end LinkWatch.Host.Shell

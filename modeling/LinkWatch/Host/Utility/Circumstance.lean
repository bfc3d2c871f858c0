import LinkWatch.Host.Utility.Chance
import LinkWatch.Host.Utility.Holdings
import LinkWatch.Host.Utility.Launching

/-!
# Circumstances

Programs are run with other priorities, on other processors or while a file is locked, which changes
nothing that they can see here. Besides, there are programs that tell the values of the system, of
the language and of terminals.
-/

namespace LinkWatch.Host.Utility

open LinkWatch.Text LinkWatch.Host.Kernel

/-! ## Running programs -/

/-- How a program that cannot be run is named. -/
def asExecuted (name : Bytes) : Bytes :=
  "failed to execute ".toList ++ name

/-- Becomes the program that words name. -/
def execute (perform : Performer) (c : Call) (words : List Bytes) : Program Nat :=
  becomeProgram perform c asExecuted (callOf c.environment words)

/-- Runs a program on some processors. -/
def onProcessors (perform : Performer) (c : Call) : Program Nat :=
  let t : OptionTable :=
    { plain := ['a', 'p', 'c'], long := [("all-tasks", 'a'), ("pid", 'p'), ("cpu-list", 'c')],
      isStrict := true }
  c.withOptions t 1 fun o => do
    let bad : Program Nat := c.misuse 1 "bad usage".toList
    match o.operands with
    | [] => bad
    | [_] => if o.has 'p' then return 0 else bad
    | places :: words =>
      let isList := o.has 'c'
      let text := (stripPrefix? ['0', 'x'] places).getD places
      let isRead := if isList then
          places ≠ [] && places.all (fun d => d.isDigit || d = ',' || d = '-' || d = ':')
        else text ≠ [] && text.all (fun d => digitValue d < 16 || d = ',')
      if !isRead then
        c.refuse 1 ((if isList then "failed to parse CPU list: "
          else "failed to parse CPU mask: ").toList ++ places)
      else if o.has 'p' then return 0
      else execute perform c words

/-- The names of the classes of priority for reading and writing. -/
def prioClasses : List String :=
  ["none", "realtime", "best-effort", "idle"]

/-- Runs a program with some priority for reading and writing. -/
def withPriority (perform : Performer) (c : Call) : Program Nat :=
  let t : OptionTable :=
    { plain := ['t'], valued := ['c', 'n', 'p', 'P', 'u']
      long := [("class", 'c'), ("classdata", 'n'), ("pid", 'p'), ("pgid", 'P'), ("ignore", 't'),
        ("uid", 'u')]
      isStrict := true }
  c.withOptions t 1 fun o => do
    let kind := (o.value? 'c').getD ['2']
    let isKnown := (natural? kind).isSome
      || prioClasses.any fun n => n.toList = kind.map Char.toLower
    if !isKnown then c.refuse 1 ("unknown scheduling class: ".toList ++ inQuotes kind)
    else
      match natural? kind with
      | some n => if 3 < n then c.complain ("unknown prio class ".toList ++ digitsOf n)
      | none => pure ()
      match o.operands with
      | [] => if o.has 'p' then return 0 else c.deliver (line "none: prio 0".toList) 0
      | words => execute perform c words

/-- Runs a program with some rule for its turns. -/
def withTurns (perform : Performer) (c : Call) : Program Nat :=
  let t : OptionTable :=
    { plain := ['o', 'f', 'r', 'b', 'i', 'd', 'a', 'm', 'p', 'v', 'R'], valued := ['T', 'P', 'D']
      long := [("other", 'o'), ("fifo", 'f'), ("rr", 'r'), ("batch", 'b'), ("idle", 'i'),
        ("deadline", 'd')]
      isStrict := true }
  c.withOptions t 1 fun o =>
    match o.operands with
    | priority :: word :: words =>
      if (natural? priority).isSome then execute perform c (word :: words)
      else c.refuse 1 ("invalid priority argument: ".toList ++ inQuotes priority)
    | _ => c.misuse 1 "bad usage".toList

/-- Runs a program as on another machine. -/
def asMachine (perform : Performer) (c : Call) : Program Nat :=
  let t : OptionTable :=
    { plain := "BFILRSTXZ3v".toList
      long := [("32bit", 'B'), ("3gb", '3'), ("addr-no-randomize", 'R'), ("verbose", 'v')],
      isStrict := true }
  let arguments := match c.arguments with
    | word :: words => if word.head? = some '-' then c.arguments else words
    | [] => []
  if c.arguments = [] then
    c.refuse 1 "no architecture argument or personality flags specified".toList
  else
    { c with arguments := arguments }.withOptions t 1 fun o =>
      execute perform c (if o.operands = [] then ["/bin/sh".toList] else o.operands)

/-- Runs a program with other limits or apart from others. -/
def apart (t : OptionTable) (alone : Call → Program Nat) (perform : Performer) (c : Call) :
    Program Nat :=
  c.withOptions { t with isStrict := true } 1 fun o =>
    if o.operands = [] then alone c else execute perform c o.operands

/-- Runs a shell when no program is named. -/
def aloneShell (perform : Performer) (c : Call) : Program Nat :=
  execute perform c ["/bin/sh".toList]

/-- Runs a program with other limits on what it may use. -/
def withinLimits (perform : Performer) : Call → Program Nat :=
  apart
    { plain := [], optional := "cdefilmnqrstuvxy".toList, valued := ['p', 'o']
      long := [("core", 'c'), ("data", 'd'), ("nice", 'e'), ("fsize", 'f'), ("sigpending", 'i'),
        ("memlock", 'l'), ("rss", 'm'), ("nofile", 'n'), ("msgqueue", 'q'), ("rtprio", 'r'),
        ("stack", 's'), ("cpu", 't'), ("nproc", 'u'), ("as", 'v'), ("locks", 'x'), ("rttime", 'y'),
        ("pid", 'p'), ("output", 'o')] }
    (fun c => c.misuse 1 "bad usage".toList) perform

/-- Runs a program apart from the other programs of the system. -/
def withOwnSpaces (perform : Performer) : Call → Program Nat :=
  apart
    { plain := ['f', 'r', 'c'], valued := ['S', 'G', 'R', 'w', 'T'], optional := "muinpUC".toList
      long := [("fork", 'f'), ("map-root-user", 'r'), ("map-current-user", 'c'), ("setuid", 'S'),
        ("setgid", 'G'), ("root", 'R'), ("wd", 'w'), ("mount", 'm'), ("uts", 'u'), ("ipc", 'i'),
        ("net", 'n'), ("pid", 'p'), ("user", 'U'), ("cgroup", 'C'), ("time", 'T')] }
    (aloneShell perform) perform

/-- Runs a program with other privileges. -/
def withPrivileges (perform : Performer) : Call → Program Nat :=
  apart
    { plain := ['d', '0', '1', '2', '3', '4'], valued := ['u', 'g', 's', 'b', 'i', 'a', 'p']
      long := [("dump", 'd'), ("nnp", '0'), ("no-new-privs", '0'), ("clear-groups", '1'),
        ("keep-groups", '2'), ("init-groups", '3'), ("reset-env", '4'), ("reuid", 'u'),
        ("ruid", 'u'), ("euid", 'u'), ("regid", 'g'), ("rgid", 'g'), ("egid", 'g'), ("groups", 's'),
        ("bounding-set", 'b'), ("inh-caps", 'i'), ("ambient-caps", 'a'), ("pdeathsig", 'p')] }
    (fun c => c.refuse 1 "No program specified".toList) perform

/-- Runs a program while a file is locked. -/
def whileLocked (perform : Performer) (c : Call) : Program Nat :=
  let t : OptionTable :=
    { plain := ['s', 'e', 'x', 'n', 'u', 'o', 'F', 'v'], valued := ['w', 'E', 'c']
      long := [("shared", 's'), ("exclusive", 'x'), ("unlock", 'u'), ("nonblock", 'n'), ("nb", 'n'),
        ("timeout", 'w'), ("wait", 'w'), ("conflict-exit-code", 'E'), ("close", 'o'),
        ("command", 'c'), ("no-fork", 'F'), ("verbose", 'v')]
      isStrict := true }
  c.withOptions t 64 fun o => do
    match (o.value? 'w').bind fun cs => if (duration? cs).isSome then none else some cs with
    | some cs => c.refuse 64 ("invalid timeout value: ".toList ++ inQuotes cs)
    | none =>
      match o.operands with
      | [] => c.misuse 64 "not enough arguments".toList
      | [word] =>
        match natural? word with
        | none => c.refuse 64 ("bad file descriptor: ".toList ++ inQuotes word)
        | some d =>
          match ← request (.inspect d) with
          | some _ => return 0
          | none => c.refuse 65 (word ++ ": Bad file descriptor".toList)
      | file :: words =>
        let isDirectory ← inquire fun d => d.isDirectory file
        let made ← if isDirectory then pure (.ok ()) else
          changeDisk fun d => match d.find file with
            | .ok _ => .ok d
            | .error .notFound => d.write file []
            | .error e => .error e
        match made with
        | .error e =>
          c.refuse 66 ("cannot open lock file ".toList ++ file ++ ':' :: ' ' :: wordsOf e)
        | .ok _ =>
          let words := match words with
            | [flag, text] =>
              if flag = "-c".toList || flag = "--command".toList then
                ["/bin/sh".toList, "-c".toList, text]
              else words
            | words => words
          match ← findProgram (callOf c.environment words) with
          | .ok _ => execute perform c words
          | .error e =>
            c.refuse (if e = .notFound then 69
              else 126) (asExecuted (words.headD []) ++ ':' :: ' ' :: wordsOf e)

/-! ## Values of the system -/

/-- The values of the system by names. -/
def systemValues : List (String × String) :=
  [("PAGESIZE", "4096"), ("PAGE_SIZE", "4096"), ("ARG_MAX", "2097152"), ("LONG_BIT", "64"),
    ("_NPROCESSORS_ONLN", "1"), ("_NPROCESSORS_CONF", "1"),
    ("WORD_BIT", "32"), ("CHAR_BIT", "8"), ("CHAR_MAX", "127"), ("CHAR_MIN", "-128"),
    ("INT_MAX", "2147483647"), ("INT_MIN", "-2147483648"), ("UINT_MAX", "4294967295"),
    ("ULONG_MAX", "18446744073709551615"), ("SHRT_MAX", "32767"), ("SHRT_MIN", "-32768"),
    ("USHRT_MAX", "65535"), ("SCHAR_MAX", "127"), ("SCHAR_MIN", "-128"), ("UCHAR_MAX", "255"),
    ("SSIZE_MAX", "32767"), ("NL_ARGMAX", "4096"), ("NL_LANGMAX", "2048"),
    ("NL_MSGMAX", "2147483647"), ("NL_NMAX", "2147483647"), ("NL_SETMAX", "2147483647"),
    ("NL_TEXTMAX", "2147483647"), ("NZERO", "20"), ("CLK_TCK", "100"), ("OPEN_MAX", "1048576"),
    ("PATH", "/bin:/usr/bin"), ("CS_PATH", "/bin:/usr/bin"), ("HOST_NAME_MAX", "64"),
    ("LOGIN_NAME_MAX", "256"), ("TTY_NAME_MAX", "32"), ("NGROUPS_MAX", "65536"),
    ("LINE_MAX", "2048"), ("IOV_MAX", "1024"), ("UIO_MAXIOV", "1024"), ("_XOPEN_IOV_MAX", "1024"),
    ("STREAM_MAX", "16"), ("TZNAME_MAX", "undefined"), ("SYMLOOP_MAX", "undefined"),
    ("RE_DUP_MAX", "32767"), ("BC_BASE_MAX", "99"), ("BC_DIM_MAX", "2048"), ("BC_SCALE_MAX", "99"),
    ("BC_STRING_MAX", "1000"), ("COLL_WEIGHTS_MAX", "255"), ("EXPR_NEST_MAX", "32"),
    ("CHARCLASS_NAME_MAX", "2048"), ("ATEXIT_MAX", "2147483647"), ("PASS_MAX", "8192"),
    ("_POSIX_VERSION", "200809"), ("_POSIX2_VERSION", "200809"), ("_XOPEN_VERSION", "700"),
    ("GNU_LIBC_VERSION", "glibc 2.36"), ("GNU_LIBPTHREAD_VERSION", "NPTL 2.36"),
    ("_POSIX_JOB_CONTROL", "1"), ("_POSIX_SAVED_IDS", "1"), ("LEVEL1_DCACHE_LINESIZE", "64"),
    ("LFS_CFLAGS", ""), ("_POSIX_THREADS", "200809"), ("MQ_PRIO_MAX", "32768"),
    ("PTHREAD_KEYS_MAX", "1024"), ("PTHREAD_STACK_MIN", "16384"), ("RTSIG_MAX", "32"),
    ("SEM_VALUE_MAX", "2147483647"), ("DELAYTIMER_MAX", "2147483647")]

/-- The values that depend on a path. -/
def pathValues : List (String × String) :=
  [("NAME_MAX", "255"), ("PATH_MAX", "4096"), ("PIPE_BUF", "4096"), ("LINK_MAX", "127"),
    ("MAX_CANON", "255"), ("MAX_INPUT", "255"), ("FILESIZEBITS", "64"),
    ("SYMLINK_MAX", "undefined"), ("_POSIX_CHOWN_RESTRICTED", "1"), ("_POSIX_NO_TRUNC", "1"),
    ("_POSIX_VDISABLE", "0")]

/-- Tells a value of the system. -/
def tellSystemValue (c : Call) : Program Nat := do
  let usage : Program Nat := do
    let _ ← writeTo 2 ("Usage: getconf [-v specification] variable_name [pathname]\n".toList
      ++ "       getconf -a [pathname]\n".toList)
    return 2
  let value? (table : List (String × String)) (name : Bytes) : Option String :=
    (table.find? fun v => v.1.toList = name).map Prod.snd
  let words := match c.arguments with
    | ['-', 'v'] :: _ :: words => words
    | words => words
  match words with
  | [name] =>
    match value? systemValues name with
    | some v => c.deliver (line v.toList) 0
    | none =>
      if (value? pathValues name).isSome then usage
      else c.refuse 2 ("Unrecognized variable \x60".toList ++ name ++ ['\''])
  | [name, _] =>
    match value? pathValues name with
    | some v => c.deliver (line v.toList) 0
    | none =>
      if (value? systemValues name).isSome then usage
      else c.refuse 2 ("Unrecognized variable \x60".toList ++ name ++ ['\''])
  | _ => usage

/-- The kinds of things that a language decides. -/
def languageKinds : List String :=
  ["CTYPE", "NUMERIC", "TIME", "COLLATE", "MONETARY", "MESSAGES", "PAPER", "NAME", "ADDRESS",
    "TELEPHONE", "MEASUREMENT", "IDENTIFICATION"]

/-- Tells the language of a program. -/
def tellLanguage (c : Call) : Program Nat := do
  let value (name : String) : Bytes := (c.environment.lookup name.toList).getD []
  let all := value "LC_ALL"
  let lang := value "LANG"
  let kind (name : String) : Bytes :=
    let own := value ("LC_" ++ name)
    if all ≠ [] then '"' :: all ++ ['"']
    else if own ≠ [] then own
    else '"' :: (if lang ≠ [] then lang else "POSIX".toList) ++ ['"']
  match c.arguments with
  | [] =>
    let kinds := languageKinds.flatMap fun n => line ("LC_".toList ++ n.toList ++ '=' :: kind n)
    c.deliver (line ("LANG=".toList ++ lang) ++ line ("LANGUAGE=".toList ++ value "LANGUAGE")
      ++ kinds
      ++ line ("LC_ALL=".toList ++ all)) 0
  | word :: _ =>
    if word = "-a".toList || word = "--all-locales".toList then
      c.deliver "C\nC.utf8\nPOSIX\n".toList 0
    else if word = "charmap".toList then
      let inUse := if all ≠ [] then all else if value "LC_CTYPE" ≠ [] then value "LC_CTYPE"
        else lang
      let isWide := isInfix "utf".toList (inUse.map Char.toLower)
      c.deliver (line (if isWide then "UTF-8" else "ANSI_X3.4-1968").toList) 0
    else if word = "decimal_point".toList then c.deliver (line ['.']) 0
    else c.deliver [] 0

/-! ## Terminals -/

/-- What a terminal of the usual kind is told for its capabilities. -/
def capabilities : List (String × String) :=
  [("bold", "\x1b[1m"), ("dim", "\x1b[2m"), ("smul", "\x1b[4m"), ("rmul", "\x1b[24m"),
    ("rev", "\x1b[7m"), ("blink", "\x1b[5m"), ("smso", "\x1b[7m"), ("rmso", "\x1b[27m"),
    ("sgr0", "\x1b(B\x1b[m"), ("clear", "\x1b[H\x1b[2J\x1b[3J"), ("el", "\x1b[K"), ("ed", "\x1b[J"),
    ("home", "\x1b[H"), ("cnorm", "\x1b[?12l\x1b[?25h"), ("civis", "\x1b[?25l"), ("sc", "\x1b7"),
    ("rc", "\x1b8"), ("cuu1", "\x1b[A"), ("cud1", "\n"), ("bel", "\x07"),
    ("smcup", "\x1b[?1049h\x1b[22;0;0t"), ("rmcup", "\x1b[?1049l\x1b[23;0;0t"),
    ("op", "\x1b[39;49m"), ("cr", "\x0d")]

/-- Whether a terminal has a name that is known, and the number of its colours if it has some. -/
def terminalColors? (name : Bytes) : Option Nat :=
  match String.ofList name with
  | "xterm" => some 8
  | "screen" => some 8
  | "tmux" => some 8
  | "linux" => some 8
  | "rxvt" => some 8
  | "xterm-256color" => some 256
  | "screen-256color" => some 256
  | "tmux-256color" => some 256
  | "vt100" => some 0
  | "vt220" => some 0
  | "ansi" => some 8
  | "dumb" => some 0
  | _ => none

/-- Clears the terminal. -/
def clearTerminal (c : Call) : Program Nat := do
  match c.environment.lookup "TERM".toList with
  | none =>
    let _ ← writeTo 2 (line "TERM environment variable not set.".toList)
    return 1
  | some name =>
    if (terminalColors? name).isNone then
      let _ ← writeTo 2 (line (inQuotes name ++ ": unknown terminal type.".toList))
      return 1
    else if name = "dumb".toList then return 1
    else c.deliver "\x1b[H\x1b[2J\x1b[3J".toList 0

/-- Tells a capability of the terminal. -/
def tellCapability (c : Call) : Program Nat :=
  c.withOptions { plain := ['S', 'v', 'x'], valued := ['T'], isStrict := true } 2 fun o => do
    match (o.value? 'T').or ((c.environment.lookup "TERM".toList).filter (· ≠ [])) with
    | none => c.refuse 2 "No value for $TERM and no -T specified".toList
    | some name =>
      match terminalColors? name with
      | none => c.refuse 3 ("unknown terminal \"".toList ++ name ++ ['"'])
      | some colors =>
        let isDumb := name = "dumb".toList
        let color (base : String) (n : Nat) : Program Nat :=
          if colors = 0 then return 1
          else if n < 8 then c.deliver ("\x1b[".toList ++ base.toList ++ digitsOf n ++ ['m']) 0
          else if n < 16 && colors = 256 then
            c.deliver ("\x1b[".toList ++ (if base = "3" then "9" else "10").toList
              ++ digitsOf (n - 8) ++ ['m']) 0
          else if colors = 256 then
            c.deliver ("\x1b[".toList ++ base.toList ++ "8;5;".toList ++ digitsOf n ++ ['m']) 0
          else c.deliver ("\x1b[".toList ++ base.toList ++ digitsOf n ++ ['m']) 0
        let size (name : String) (usual : Nat) : Program Nat :=
          c.deliver (line (match c.environment.lookup name.toList with
            | some text => if (natural? text).isSome then text else digitsOf usual
            | none => digitsOf usual)) 0
        match o.operands.map String.ofList with
        | ["cols"] => size "COLUMNS" 80
        | ["lines"] => size "LINES" 24
        | ["colors"] => c.deliver (line (if colors = 0 then "-1".toList else digitsOf colors)) 0
        | ["longname"] => c.deliver (name ++ " terminal emulator".toList) 0
        | ["setaf", n] => color "3" ((natural? n.toList).getD 0)
        | ["setab", n] => color "4" ((natural? n.toList).getD 0)
        | ["cup", row, column] =>
          if isDumb then return 1
          else c.deliver ("\x1b[".toList ++ digitsOf ((natural? row.toList).getD 0 + 1) ++ ';'
            :: digitsOf ((natural? column.toList).getD 0 + 1) ++ ['H']) 0
        | [word] =>
          match capabilities.find? fun v => v.1 = word with
          | some v =>
            if isDumb && v.1 ≠ "bel" && v.1 ≠ "cr" then return 1 else c.deliver v.2.toList 0
          | none => c.refuse 4 ("unknown terminfo capability '".toList ++ word.toList ++ ['\''])
        | _ => return 0

/-- The words for settings of a terminal. -/
def terminalWords : List String :=
  ["size", "sane", "raw", "cooked", "echo", "-echo", "icanon", "-icanon", "-a", "-g", "--all",
    "--save", "speed", "cbreak", "-cbreak", "isig", "-isig", "onlcr", "-onlcr", "ixon", "-ixon",
    "columns", "cols", "rows", "min", "time", "intr", "erase", "kill", "eof"]

/-- Tells that there is no terminal to be set. -/
def setTerminal (c : Call) : Program Nat := do
  let (file, words) := match c.arguments with
    | ['-', 'F'] :: file :: words => (some file, words)
    | ('-' :: 'F' :: file) :: words => (some file, words)
    | words => (none, words)
  match words.find? fun w => !(natural? w).isSome && !terminalWords.any fun n => n.toList = w with
  | some word =>
    if word = "--help".toList then c.deliver (usageLine c.name) 0
    else c.misuse 1 ("invalid argument ".toList ++ inQuotes word)
  | none =>
    match file with
    | none => c.refuse 1 ("'standard input': ".toList ++ wordsOf .noTerminal)
    | some file =>
      match ← inquire fun d => d.find file with
      | .ok _ => c.refuse 1 (shellQuoted file ++ ':' :: ' ' :: wordsOf .noTerminal)
      | .error e => c.refuse 1 (shellQuoted file ++ ':' :: ' ' :: wordsOf e)

/-! ## Files -/

/-- The directories at which other disks begin. -/
def mountedPaths : List String :=
  ["/", "/proc", "/dev", "/dev/pts", "/dev/shm", "/dev/mqueue", "/sys", "/etc/hosts",
    "/etc/hostname", "/etc/resolv.conf"]

/-- Tells whether another disk begins at a path. -/
def tellMounted (c : Call) : Program Nat :=
  let t : OptionTable :=
    { plain := ['q', 'd', 'x'],
      long := [("quiet", 'q'), ("fs-devno", 'd'), ("devno", 'x'), ("nofollow", 'n')] }
  c.withOptions t 1 fun o => do
    match o.operands with
    | [path] =>
      match ← inquire fun d => d.find path with
      | .error e => if o.has 'q' then return 1 else c.refuse 1 (path ++ ':' :: ' ' :: wordsOf e)
      | .ok found =>
        let here := locationText found.location
        let isMounted := mountedPaths.any fun p => p.toList = here
        if o.has 'x' then c.refuse 32 (path ++ ": not a block device".toList)
        else if isMounted then
          if o.has 'q' then return 0
          else c.deliver (line (if o.has 'd' then "0:49".toList
            else path ++ " is a mountpoint".toList)) 0
        else if o.has 'q' then return 32
        else c.deliver (line (path ++ " is not a mountpoint".toList)) 32
    | _ => c.misuse 1 "bad usage".toList

/-- Shows files page by page; without a terminal all at once. -/
def showPages (c : Call) : Program Nat :=
  c.withOptions { plain := "dflcpsuV".toList, valued := ['n'] } 1 fun o => do
    if o.operands = [] then
      match ← readAll 0 with
      | .ok text => c.deliver text 0
      | .error _ => c.misuse 1 "bad usage".toList
    else
      let rec go : List Bytes → Bytes → Program Bytes
        | [], out => return out
        | file :: files, out => do
          match ← readFile file with
          | .ok text =>
            let rule := line (List.replicate 14 ':')
            go files (out ++ rule ++ line file ++ rule ++ text)
          | .error e =>
            c.complain ("cannot open ".toList ++ file ++ ':' :: ' ' :: wordsOf e)
            go files out
      c.deliver (← go o.operands []) 0

/-- Tells where programs are. -/
def tellPlaces (c : Call) : Program Nat :=
  c.withOptions { plain := ['b', 'm', 's', 'u', 'l', 'g'] } 1 fun o => do
    if o.operands = [] then c.misuse 1 "not enough arguments".toList
    else
      let directories : List Bytes :=
        ["/usr/bin".toList, "/usr/sbin".toList, "/usr/local/bin".toList, "/usr/local/sbin".toList]
      let lines ← o.operands.mapM fun name => do
        let places ← directories.filterMapM fun d => do
          let path := d ++ '/' :: name
          let isThere ← inquire fun disk => (disk.look true path).toOption.isSome
          return if isThere && !(o.has 'm' && !o.has 'b') then some path else none
        return line (name ++ ':' :: places.flatMap (' ' :: ·))
      c.deliver lines.flatten 0

/-- Bytes that look like those of chance. -/
def chanceBytes : Nat → Nat → Bytes
  | 0, _ => []
  | n + 1, seed =>
    Char.ofNat (chanceAfter seed / 4294967296 % 256) :: chanceBytes n (chanceAfter seed)

/-- Overwrites files, and may remove them. -/
def shredFiles (c : Call) : Program Nat :=
  let t : OptionTable :=
    { plain := ['f', 'u', 'v', 'x', 'z'], valued := ['n', 's', 'S'], optional := ['U']
      long := [("force", 'f'), ("iterations", 'n'), ("random-source", 'S'), ("size", 's'),
        ("remove", 'U'), ("verbose", 'v'), ("exact", 'x'), ("zero", 'z')] }
  c.withOptions t 1 fun o => do
    let passes := (o.value? 'n').getD ['3']
    match natural? passes, o.operands with
    | none, _ => c.refuse 1 ("invalid number of passes: ".toList ++ inQuotes passes)
    | some _, [] => c.misuse 1 "missing file operand".toList
    | some passes, files =>
      let removes := o.has 'u' || o.has 'U'
      let total := passes + (if o.has 'z' then 1 else 0)
      forOperands c files fun file => do
        let size := (o.value? 's').bind sizeOf?
        let done ← changeDisk fun d =>
          match d.find file with
          | .error e => .error e
          | .ok f =>
            match f.node.kind with
            | .file text =>
              let n := size.getD (if o.has 'x' then text.length
                else (text.length + 4095) / 4096 * 4096)
              .ok (d.fill f.number (if o.has 'z' then List.replicate n '\x00'
                else chanceBytes n f.number))
            | .directory => .error .isDirectory
            | _ => .error .invalid
        match done with
        | .error e =>
          return .error (shellQuoted file ++ ": failed to open for writing: ".toList ++ wordsOf e)
        | .ok _ =>
          if o.has 'v' then
            for i in List.range total do
              let kind := if i + 1 = total && o.has 'z' then "(000000)..." else "(random)..."
              c.complain (shellQuoted file ++ ": pass ".toList ++ digitsOf (i + 1)
                ++ '/' :: digitsOf total
                ++ ' ' :: kind.toList)
          if removes then
            let _ ← changeDisk fun d => d.unlink file
            if o.has 'v' then
              c.complain (shellQuoted file ++ ": removing".toList)
              c.complain (shellQuoted file ++ ": removed".toList)
          return .ok ()

end LinkWatch.Host.Utility

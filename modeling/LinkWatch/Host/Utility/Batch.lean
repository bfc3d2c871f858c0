import LinkWatch.Host.Utility.Escape
import LinkWatch.Host.Utility.Launching

/-!
# A program for the words of the input

The input is divided into words, which become arguments of a program. The program is run as often as
it is needed, with so many words, with those of so many lines, or with one line in the place of a
mark.
-/

namespace LinkWatch.Host.Utility

open LinkWatch.Text LinkWatch.Host.Kernel LinkWatch.Child

/-- What is read from the input. -/
inductive InputPart where
  | word (text : Bytes)
  /-- The end of a line that holds words and does not end with a blank. -/
  | lineEnd
  /-- Something is wrong. -/
  | fault (words : Bytes)

/-- The words of a text in which quotes and backslashes protect blanks. In whole lines blanks mean
nothing apart from those at their starts. `word` is what has begun, in reverse, and `before` the
character before. -/
def inputParts (wholeLines : Bool) : Nat → Option Bytes → Char → Bytes → List InputPart
  | 0, _, _, _ => []
  | fuel + 1, word, before, cs =>
    let begun := word.getD []
    match cs with
    | [] => if begun = [] then [] else [.word begun.reverse]
    | ['\\'] => if begun = [] then [] else [.word begun.reverse]
    | '\\' :: c :: rest => inputParts wholeLines fuel (some (c :: begun)) c rest
    | '\n' :: rest =>
      let ended := if isBlankChar before then [] else [InputPart.lineEnd]
      match word with
      | some w => .word w.reverse :: ended ++ inputParts wholeLines fuel none '\n' rest
      | none =>
        (if before = '\n' then [] else ended) ++ inputParts wholeLines fuel none '\n' rest
    | c :: rest =>
      if word.isNone && isSpaceChar c then inputParts wholeLines fuel none c rest
      else if isBlankChar c && !wholeLines then
        match word with
        | some w => .word w.reverse :: inputParts wholeLines fuel none c rest
        | none => inputParts wholeLines fuel none c rest
      else if c = '"' || c = '\'' then
        let text := rest.takeWhile fun d => d ≠ c && d ≠ '\n'
        let after := rest.drop text.length
        if after.head? = some c then
          inputParts wholeLines fuel (some (text.reverse ++ begun)) c (after.drop 1)
        else
          [.fault ("unmatched ".toList ++ (if c = '"' then "double" else "single").toList
            ++ " quote; by default quotes are special to xargs unless you use the -0 option".toList)]
      else inputParts wholeLines fuel (some (c :: begun)) c rest

/-- The words of a text that are divided by some character, each a line of its own. -/
def dividedParts (mark : Char) (text : Bytes) : List InputPart :=
  (recordsOf mark text).flatMap fun w => [.word w, .lineEnd]

/-- How words are made into commands. -/
structure Batching where
  /-- The words that stand before those of the input. -/
  base : List Bytes
  mostWords : Option Nat
  mostLines : Option Nat
  /-- How long a command may be, with an end after each word. -/
  longest : Nat
  /-- Whether a command that is too long is a fault. -/
  isStrict : Bool

/-- The length of words with an end after each one. -/
def lengthOfWords (ws : List Bytes) : Nat :=
  (ws.map fun w => w.length + 1).foldl (· + ·) 0

/-- Commands for words, in reverse, with what is wrong at their end; `words` are those of the next
command in reverse, with their length, and so many lines have been taken up. -/
def Batching.commands (b : Batching) : List InputPart → List Bytes → Nat → Nat → List (List Bytes) →
    List (List Bytes) × List Bytes × Option Bytes
  | [], words, _, _, done => (done, words, none)
  | part :: parts, words, size, lines, done =>
    let close (words : List Bytes) : List (List Bytes) := (b.base ++ words.reverse) :: done
    let start := lengthOfWords b.base
    match part with
    | .fault message => (if words = [] then done else close words, [], some message)
    | .lineEnd =>
      if b.mostLines.any (· ≤ lines + 1) then b.commands parts [] start 0 (close words)
      else b.commands parts words size (lines + 1) done
    | .word w =>
      let tooLong : Option Bytes := some "argument line too long".toList
      if b.longest < start + w.length + 2 then
        (if words = [] then done else close words, [], tooLong)
      else if b.longest < size + w.length + 1 then
        if b.isStrict then (done, [], tooLong)
        else b.commands parts [w] (start + w.length + 1) lines (close words)
      else if b.mostWords.any (· ≤ words.length + 1) then
        b.commands parts [] start lines (close (w :: words))
      else b.commands parts (w :: words) (size + w.length + 1) lines done

/-- The status for the statuses of the programs that have been run. -/
def worstStatus (statuses : List Nat) : Nat :=
  if statuses.contains 127 then 127
  else if statuses.contains 126 then 126
  else if statuses.any (0 < ·) then 123
  else 0

/-- Runs commands, so many at a time, of which some have been started already. What is wrong after
them is reported as soon as all have been started. Some endings stop everything. -/
def runBatches (perform : Performer) (c : Call) (isShown : Bool) (most : Nat)
    (prepare : Program Unit) :
    Nat → List (List Bytes) → Option Bytes → List (Nat × Bytes) → List Nat →
      Program (Except Nat (List Nat))
  | 0, _, _, _, statuses => return .ok statuses
  | fuel + 1, commands, trouble, running, statuses => do
    let settle : Program (Except Nat (List Nat)) := do
      match ← request (.wait (some (running.map (·.1))) none false) with
      | .ended n how =>
        let name := (running.lookup n).getD []
        match how with
        | .signal s _ =>
          c.complain (name ++ ": terminated by signal ".toList ++ digitsOf s)
          return .error 125
        | .code 255 =>
          c.complain (name ++ ": exited with status 255; aborting".toList)
          return .error 124
        | .code status =>
          if status = 126 || status = 127 then return .error status
          else
            runBatches perform c isShown most prepare fuel commands trouble
              (running.filter fun r => r.1 ≠ n) (status :: statuses)
      | _ => return .ok statuses
    if commands = [] && running.isEmpty && trouble.isNone then return .ok statuses
    else
      match commands with
      | words :: rest =>
        if running.length < most || most = 0 then
          if isShown then
            let _ ← request (.write 2 (line (joinWords (words.map shellQuoted))))
          let child ← request (.fork (do
            prepare
            becomeProgram perform c id (callOf c.environment words) : Program Nat).action)
          runBatches perform c isShown most prepare fuel rest trouble
            (running ++ [(child, words.headD [])]) statuses
        else settle
      | [] =>
        match trouble with
        | some message =>
          c.complain message
          runBatches perform c isShown most prepare fuel [] none running statuses
        | none => settle

/-- The number that an option gives, or what is wrong with it. -/
def batchNumber (letter : Char) (least : Nat) (text : Bytes) : Except Bytes Nat :=
  match integer? text with
  | some n =>
    if n < (least : Int) then
      .error ("value ".toList ++ text ++ " for -".toList ++ letter :: " option should be >= ".toList
        ++ digitsOf least)
    else .ok n.toNat
  | none =>
    .error ("invalid number \"".toList ++ text ++ "\" for -".toList ++ letter :: " option".toList)

/-- How the input is used. -/
structure BatchStyle where
  words : Option Nat := none
  lines : Option Nat := none
  hole : Option Bytes := none

/-- Takes up an option; of those for words, lines and marks the last one counts. -/
def BatchStyle.take (s : BatchStyle) (flag : Char × Bytes) : Except Bytes BatchStyle :=
  match flag with
  | ('n', v) => (batchNumber 'n' 1 v).map fun n =>
    if s.hole.isSome && n = 1 then s else { words := some n }
  | ('L', v) => (batchNumber 'L' 1 v).map fun n => { lines := some n }
  | ('l', v) => (if v = [] then .ok 1 else batchNumber 'l' 1 v).map fun n => { lines := some n }
  | ('I', v) => .ok { hole := some v }
  | ('i', v) => .ok { hole := some (if v = [] then ['\x7b', '\x7d'] else v) }
  | _ => .ok s

/-- The delimiter that an option gives. -/
def delimiter? (text : Bytes) : Option Char :=
  match text with
  | [c] => some c
  | '\\' :: 'x' :: rest => (readHexadecimal? rest).map (·.1)
  | '\\' :: rest => (readEscape .own rest).1.head?
  | _ => none

/-- Runs a program with the words of the input as arguments. -/
def forInput (perform : Performer) (c : Call) : Program Nat :=
  let t : OptionTable :=
    { plain := ['r', 't', '0', 'x', 'p', 'o']
      valued := ['n', 'I', 'L', 'd', 'P', 'a', 's', 'E'], optional := ['i', 'l', 'e']
      long := [("no-run-if-empty", 'r'), ("null", '0'), ("max-args", 'n'), ("replace", 'i'),
        ("delimiter", 'd'), ("max-procs", 'P'), ("arg-file", 'a'), ("max-lines", 'l'),
        ("max-chars", 's'), ("verbose", 't'), ("exit", 'x'), ("open-tty", 'o'), ("eof", 'e'),
        ("interactive", 'p'), ("process-slot-var", 'z'), ("show-limits", 'y')]
      isStrict := true }
  c.withOptions t 1 fun o => do
    let numbers : Except Bytes (BatchStyle × Nat × Nat) := do
      let style ← o.flags.foldlM BatchStyle.take {}
      let most ← ((o.value? 'P').map (batchNumber 'P' 0)).getD (.ok 1)
      let longest ← ((o.value? 's').map (batchNumber 's' 1)).getD (.ok 131072)
      return (style, most, min 131072 longest)
    match numbers with
    | .error words => c.misuse 1 words
    | .ok (style, most, longest) =>
      match (o.value? 'd').map delimiter? with
      | some none =>
        c.refuse 1 ("Invalid input delimiter specification ".toList ++ (o.value? 'd').getD []
          ++ ": the delimiter must be either a single character or an escape sequence starting with \\.".toList)
      | mark =>
      let input ← match o.value? 'a' with
        | some file => readFile file
        | none => readAll 0
      match input with
      | .error e =>
        c.refuse 1 ("Cannot open input file '".toList ++ (o.value? 'a').getD [] ++ "': ".toList
          ++ wordsOf e)
      | .ok text =>
        let last := (o.flags.filter fun f => f.1 = '0' || f.1 = 'd').getLast?
        let parts := match last.map (·.1), mark with
          | some '0', _ => dividedParts '\x00' text
          | some _, some (some d) => dividedParts d text
          | _, _ =>
            let parts := inputParts style.hole.isSome (text.length + 1) none '\n' text
            match (o.flags.filter fun f => f.1 = 'E' || f.1 = 'e').getLast? with
            | some (_, mark) =>
              if mark = [] then parts
              else parts.takeWhile fun
                | .word w => w ≠ mark
                | _ => true
            | none => parts
        let base := if o.operands = [] then ["echo".toList] else o.operands
        let (commands, trouble) : List (List Bytes) × Option Bytes := match style.hole with
          | some hole =>
            let fill (item word : Bytes) : Bytes := replaceMark hole item (word.length + 1) word
            (parts.filterMap fun
              | .word item => some (base.headD [] :: (base.drop 1).map (fill item))
              | _ => none,
              parts.findSome? fun
              | .fault message => some message
              | _ => none)
          | none =>
            let b : Batching :=
              { base := base, mostWords := style.words, mostLines := style.lines, longest := longest
                isStrict := o.has 'x' || style.lines.isSome }
            let (done, words, trouble) := b.commands parts [] (lengthOfWords base) 0 []
            let isLast := words ≠ [] || (done = [] && !o.has 'r' && trouble.isNone)
            ((if isLast then (base ++ words.reverse) :: done else done).reverse, trouble)
        let prepare : Program Unit := do
          if !o.has 'a' then
            let _ ← request (.open 0 "/dev/null".toList .read false)
          return ()
        match ← runBatches perform c (o.has 't') most prepare
          (2 * commands.length + 3) commands trouble [] []
          with
        | .error status => return status
        | .ok statuses => return if trouble.isSome then 1 else worstStatus statuses

end LinkWatch.Host.Utility

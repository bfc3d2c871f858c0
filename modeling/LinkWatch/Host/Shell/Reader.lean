import LinkWatch.Host.Shell.Token

/-!
# Reading a script

A script is read one command line at a time, so that what stands before a mistake is still run. The
words of a line are replaced by their aliases while it is read. The body of a document follows the
line that asks for it; until it is read the document has only a number.
-/

namespace LinkWatch.Host.Shell

open LinkWatch.Text LinkWatch.Host.Kernel

/-- The operators between two words of a condition. -/
def queryOperators : List String :=
  ["==", "=", "!=", "=~", "-eq", "-ne", "-lt", "-le", "-gt", "-ge", "-nt", "-ot", "-ef"]

/-- The steps of a loop of arithmetic, if a text starts with them, and what follows them. -/
def roundsAt? (cs : Bytes) : Option (Bytes × Bytes) :=
  match cs.dropWhile isBlankChar with
  | '(' :: '(' :: rest => cutDouble 0 rest
  | _ => none

mutual

/-- Reads the parts of a word up to where they end, and what ends them, unless a character that
belongs to no word does. -/
def readParts : Nat → Region → Read (List Part)
  | 0, _ => mistaken .tooDeep
  | fuel + 1, region => do
    let cs ← upcoming
    let r ← get
    match cs with
    | [] =>
      match region.closing? with
      | some mark => mistaken (.unclosed mark)
      | none => return []
    | c :: rest =>
      let run := cs.takeWhile isOrdinary
      if run ≠ [] then
        advanceOver run
        let mayGroup := region = .pattern || (region = .plain && r.hasGroups)
        let isGroup := mayGroup && run.getLast?.any (· ∈ ['?', '*', '+', '@', '!'])
        match isGroup, cs.drop run.length with
        | true, '(' :: _ =>
          advanceOver ['(']
          let inside ← readParts fuel .nested
          return withText (run ++ ['(']) (inside ++ withText [')'] (← readParts fuel region))
        | _, _ => return withText run (← readParts fuel region)
      else if r.isRich && region.isWord && startsStream cs then
        advanceOver ['<', '(']
        let command ← readEnclosed fuel
        return .stream (c = '<') command :: (← readParts fuel region)
      else if region = .regex && c = '(' then
        advanceOver [c]
        let inside ← readParts fuel .nested
        return withText [c] (inside ++ withText [')'] (← readParts fuel region))
      else if region = .regex && c = '|' then
        advanceOver [c]
        return withText [c] (← readParts fuel region)
      else if region.isWord && endsWord c then return []
      else
        match c with
        | '\\' =>
          match rest with
          | [] =>
            advanceOver [c]
            return .quoted [c] :: (← readParts fuel region)
          | d :: _ =>
            advanceOver [c, d]
            let text := if region.protects d then [d] else ['\\', d]
            return .quoted text :: (← readParts fuel region)
        | '$' =>
          match r.isRich && region.isBare, rest with
          | true, '\'' :: inside =>
            match cutDollarQuote (inside.length + 1) inside with
            | some (text, after) =>
              advanceOver (cs.take (cs.length - after.length))
              return .quoted text :: (← readParts fuel region)
            | none => mistaken (.unclosed '\'')
          | true, '"' :: _ =>
            advanceOver [c]
            readParts fuel region
          | _, _ =>
            advanceOver [c]
            let part ← readValue fuel region
            match part with
            | .text text => return withText text (← readParts fuel region)
            | part => return part :: (← readParts fuel region)
        | '\x60' =>
          match cutBackQuote (!region.isBare) rest with
          | none => mistaken (.unclosed c)
          | some (script, after) =>
            advanceOver (cs.take (cs.length - after.length))
            let command ← readInner fuel script
            return .output command (some script) :: (← readParts fuel region)
        | '\'' =>
          if region.isBare then
            match Text.cutAt? '\'' rest with
            | none =>
              advanceOver cs
              mistaken (.unclosed c)
            | some (text, _) =>
              advanceOver (c :: text ++ [c])
              return .quoted text :: (← readParts fuel region)
          else
            advanceOver [c]
            return withText [c] (← readParts fuel region)
        | '"' =>
          advanceOver [c]
          match region with
          | .braces true =>
            let inner ← readParts fuel .inner
            return inner ++ (← readParts fuel region)
          | .document => return withText [c] (← readParts fuel region)
          | .arithmetic _ => readParts fuel region
          | .quotes => return []
          | .inner => return []
          | _ => return .group (← readParts fuel .quotes) :: (← readParts fuel region)
        | '\x7d' =>
          advanceOver [c]
          match region with
          | .braces _ => return []
          | _ => return withText [c] (← readParts fuel region)
        | '(' =>
          advanceOver [c]
          match region with
          | .arithmetic depth => return withText [c] (← readParts fuel (.arithmetic (depth + 1)))
          | .nested =>
            let inside ← readParts fuel .nested
            return withText [c] (inside ++ withText [')'] (← readParts fuel region))
          | _ => return withText [c] (← readParts fuel region)
        | ')' =>
          advanceOver [c]
          match region, rest with
          | .nested, _ => return []
          | .arithmetic 0, ')' :: _ =>
            advanceOver [c]
            return []
          | .arithmetic depth, _ =>
            return withText [c] (← readParts fuel (.arithmetic (depth - 1)))
          | _, _ => return withText [c] (← readParts fuel region)
        | _ =>
          advanceOver [c]
          return withText [c] (← readParts fuel region)

/-- Reads a text that has been cut out of the script as parts. -/
def readCut : Nat → Region → Bytes → Read (List Part)
  | 0, _, _ => mistaken .tooDeep
  | fuel + 1, region, text => do
    let outer ← get
    set { outer with rest := text, waiting := [], pushed := none }
    let parts ← readParts fuel region
    modify fun inner =>
      { inner with
        rest := outer.rest, line := outer.line, waiting := outer.waiting, pushed := outer.pushed }
    return parts

/-- Reads a list of commands up to the parenthesis that closes it. -/
def readEnclosed : Nat → Read Command
  | 0 => mistaken .tooDeep
  | fuel + 1 => do
    let r ← get
    set { r with waiting := [], pushed := none }
    let command ← readList fuel true false
    let t ← readToken fuel {}
    match t with
    | .operator ")" =>
      modify fun inner => { inner with waiting := r.waiting ++ inner.waiting }
      return command
    | t => unexpected t (named ")")

/-- Reads what follows a dollar sign. -/
def readValue : Nat → Region → Read Part
  | 0, _ => mistaken .tooDeep
  | fuel + 1, region => do
    let cs ← upcoming
    let r ← get
    match cs with
    | '(' :: _ =>
      advanceOver ['(']
      let after ← upcoming
      let isDouble := match after with
        | '(' :: inside => !r.isRich || (cutDouble 0 inside).isSome
        | _ => false
      if isDouble then
        advanceOver ['(']
        return .arithmetic (← readParts fuel (.arithmetic 0))
      else return .output (← readEnclosed fuel) none
    | '[' :: rest =>
      match if r.isRich then cutBracket 0 none rest else none with
      | some (text, after) =>
        advanceOver (cs.take (cs.length - after.length))
        return .arithmetic (← readCut fuel (.arithmetic 0) (text ++ [')', ')']))
      | none => return .text ['$']
    | '\x7b' :: rest =>
      advanceOver ['\x7b']
      let quoted := !region.isBare
      if r.isRich then readRichBraced fuel quoted rest
      else
        match bracedName? rest with
        | none =>
          let _ ← readParts fuel (.braces quoted)
          return .improper []
        | some (name, isLength, text) =>
          advanceOver text
          let after ← upcoming
          match after with
          | '\x7d' :: _ =>
            advanceOver ['\x7d']
            return .parameter name (if isLength then .length else .plain) false []
          | _ =>
            match formAt? after with
            | none =>
              let _ ← readParts fuel (.braces quoted)
              return .improper []
            | some (form, colon, mark) =>
              advanceOver mark
              let inside := match form with
                | .trimmed _ _ => false
                | _ => quoted
              return .parameter name form colon (← readParts fuel (.braces inside))
    | c :: _ =>
      if isNameStart c then
        let name := cs.takeWhile isNameChar
        advanceOver name
        return .parameter name .plain false []
      else if isSpecialName c then
        advanceOver [c]
        return .parameter [c] .plain false []
      else return .text ['$']
    | [] => return .text ['$']

/-- Reads a parameter of the rich language after its opening brace. -/
def readRichBraced : Nat → Bool → Bytes → Read Part
  | 0, _, _ => mistaken .tooDeep
  | fuel + 1, quoted, cs => do
    let improper : Read Part := do
      let _ ← readParts fuel (.braces quoted)
      let r ← get
      return .improper ("$\x7b".toList ++ cs.take (cs.length - r.rest.length))
    match richBraced? cs with
    | none => improper
    | some b =>
      advanceOver b.text
      let place : Place ← match b.key with
        | none => pure .usual
        | some ['@'] => pure (.all false)
        | some ['*'] => pure (.all true)
        | some key => do pure (.key (← readCut fuel .whole key))
      let isSimple := match place with
        | .usual => !b.isIndirect
        | _ => false
      let finished (form : Form) (colon : Bool) (word : List Part) (other : Option (List Part)) :
          Part :=
        let isCommon := match form with
          | .sliced => false
          | .replaced _ => false
          | .recased _ _ => false
          | .shown _ => false
          | .keys => false
          | .named => false
          | _ => isSimple
        if isCommon then .parameter b.name form colon word
        else .chosen b.name b.isIndirect place form colon word other
      let after ← upcoming
      match after with
      | '\x7d' :: _ =>
        advanceOver ['\x7d']
        let isWhole := match place with
          | .all _ => true
          | _ => false
        if b.isIndirect && isWhole then return .chosen b.name false place .keys false [] none
        else return finished (if b.isLength then .length else .plain) false [] none
      | _ =>
        let namesAll := match after with
          | '*' :: '\x7d' :: _ => true
          | '@' :: '\x7d' :: _ => true
          | _ => false
        if b.isLength then improper
        else if b.isIndirect && b.key.isNone && namesAll then
          advanceOver (after.take 2)
          return .chosen b.name false (.all (after.head? = some '*')) .named false [] none
        else
          match formAt? after with
          | some (form, colon, mark) =>
            advanceOver mark
            let inside := match form with
              | .trimmed _ _ => false
              | _ => quoted
            return finished form colon (← readParts fuel (.braces inside)) none
          | none =>
            match richFormAt? after with
            | none => improper
            | some (form, mark) =>
              advanceOver mark
              let startsWithMark := match form with
                | .replaced .every => "/".toList.isPrefixOf (after.drop mark.length)
                | _ => false
              if startsWithMark then advanceOver ['/']
              let parts ← readParts fuel (.braces false)
              match form with
              | .sliced =>
                let (offset, size) := cutSlice parts
                return finished form false offset size
              | .replaced _ =>
                let (pattern, word) := match cutParts '/' parts with
                  | some (pattern, word) => (pattern, some word)
                  | none => (parts, none)
                let pattern := if startsWithMark then withText ['/'] pattern else pattern
                return finished form false pattern word
              | _ => return finished form false parts none

/-- Reads a script that stands in a word. -/
def readInner : Nat → Bytes → Read Command
  | 0, _ => mistaken .tooDeep
  | fuel + 1, script => do
    let outer ← get
    set { outer with rest := script, waiting := [], pushed := none }
    let command ← readList fuel true false
    modify fun inner =>
      { inner with
        rest := outer.rest, line := outer.line, waiting := outer.waiting, pushed := none }
    return command

/-- Reads the documents for which the line that has just ended asks. -/
def readDocuments : Nat → Read Unit
  | 0 => mistaken .tooDeep
  | fuel + 1 => do
    let r ← get
    match r.waiting with
    | [] => return ()
    | w :: waiting =>
      let (body, after) := cutDocument w (r.rest.length + 1) false r.rest
      set { r.advance (r.rest.take (r.rest.length - after.length)) with waiting := waiting }
      let parts ←
        if w.verbatim then pure [Part.quoted body]
        else do
          let outer ← get
          set { outer with rest := body, waiting := [], pushed := none }
          let parts ← readParts fuel .document
          modify fun inner =>
            { inner with rest := outer.rest, line := outer.line, waiting := outer.waiting }
          pure parts
      modify fun r => { r with documents := (w.number, parts) :: r.documents }
      readDocuments fuel

/-- Reads a token without giving it a meaning. -/
def readRaw : Nat → Read Token
  | 0 => mistaken .tooDeep
  | fuel + 1 => do
    let r ← get
    match r.pushed with
    | some t =>
      set { r with pushed := none }
      return t
    | none =>
      let cs ← upcoming
      match cs with
      | [] =>
        readDocuments fuel
        return .ending
      | '\n' :: _ =>
        advanceOver ['\n']
        readDocuments fuel
        return .lineEnd
      | '#' :: _ =>
        advanceOver (cs.takeWhile (· ≠ '\n'))
        readRaw fuel
      | c :: _ =>
        if isBlankChar c then
          advanceOver [c]
          readRaw fuel
        else
          let isJoined := r.isRich && "&>".toList.isPrefixOf cs
          let operator? := (operators r.isRich).find? fun o => o.toList.isPrefixOf cs
          match if isJoined then none else operator? with
          | some o =>
            advanceOver o.toList
            return .operator o
          | none =>
            let turn? := match if r.isRich then namedTurnAt? cs else none with
              | some t => some t
              | none => turnAt? r.isRich none cs
            match if r.isRich && startsStream cs then none else turn? with
            | some (turn, text) =>
              advanceOver text
              return .redirection turn
            | none =>
              let parts ← match if r.isRich then placeAt? cs else none with
                | some (name, key, _) =>
                  advanceOver (name ++ '[' :: key ++ [']'])
                  let inside ← readCut fuel .whole key
                  pure (Part.text name :: .place inside :: (← readParts fuel .plain))
                | none => readParts fuel .plain
              let after ← upcoming
              let isNumber (ds : Bytes) : Bool :=
                ds.all Char.isDigit && (ds.length = 1 || (r.isRich && ds ≠ []))
              match parts with
              | [.text ds] =>
                if isNumber ds && !startsStream after then
                  match turnAt? r.isRich (natural? ds) after with
                  | some (turn, text) =>
                    advanceOver text
                    return .redirection turn
                  | none => return .word parts
                else return .word parts
              | _ => return .word parts

/-- Reads a token. -/
def readToken : Nat → Expecting → Read Token
  | 0, _ => mistaken .tooDeep
  | fuel + 1, e => do
    let t ← readRaw fuel
    let r ← get
    let isChained := r.chain.any fun length => r.rest.length < length
    if isChained then set { r with chain := none }
    match t with
    | .lineEnd => if e.skipsLines then readToken fuel e else return t
    | .word parts =>
      match plainText? parts with
      | none => return t
      | some text =>
        let name := String.ofList text
        let isReserved := name ∈ reservedWords || (r.isRich && name ∈ richWords)
        if e.keywords && isReserved then return .reserved name
        else if e.aliases || isChained then
          let active := r.replaced.filter fun a => a.2 < r.rest.length
          match r.aliases.lookup text with
          | some value =>
            if active.any (·.1 = text) then return t
            else
              set { r with
                rest := value ++ r.rest, replaced := (text, r.rest.length) :: active
                chain :=
                  if value.getLast?.any isBlankChar then some r.rest.length
                  else if isChained then none else r.chain }
              readToken fuel { e with skipsLines := false }
          | none => return t
        else return t
    | t => return t

/-- Reads commands. A list inside a command may stand on several lines; otherwise it ends with its
line. It may be empty where `mayBeEmpty` says so, or on a line of its own. -/
def readList : Nat → Bool → Bool → Read Command
  | 0, _, _ => mistaken .tooDeep
  | fuel + 1, mayBeEmpty, wholeLine => do
    let t ← readToken fuel { Expecting.command with skipsLines := !wholeLine }
    match t with
    | .lineEnd => return .nothing
    | .ending =>
      pushBack t
      return .nothing
    | _ =>
      pushBack t
      let ends := match t with
        | .reserved name => name ∈ ["then", "elif", "else", "fi", "do", "done", "esac", "\x7d"]
        | .operator text => text ∈ [")", ";;", ";&", ";;&"]
        | _ => false
      if mayBeEmpty && ends && !wholeLine then return .nothing
      else
        let c ← readLogical fuel
        let t ← readToken fuel {}
        let go (c : Command) : Read Command := do
          match ← readList fuel true wholeLine with
          | .nothing => return c
          | rest => return .sequence c rest
        match t with
        | .operator "&" => go (.background c)
        | .operator ";" => go c
        | .lineEnd =>
          pushBack t
          go c
        | .ending =>
          pushBack t
          return c
        | t =>
          if wholeLine then unexpected t ""
          else
            pushBack t
            return c

/-- Reads pipelines joined by the operators for success and failure. -/
def readLogical : Nat → Read Command
  | 0 => mistaken .tooDeep
  | fuel + 1 => do
    let c ← readPipeline fuel .command
    readLogicalRest fuel c

/-- Joins what follows to a command. -/
def readLogicalRest : Nat → Command → Read Command
  | 0, _ => mistaken .tooDeep
  | fuel + 1, c => do
    let t ← readToken fuel {}
    match t with
    | .operator "&&" =>
      let d ← readPipeline fuel .commandBelow
      readLogicalRest fuel (.both c d)
    | .operator "||" =>
      let d ← readPipeline fuel .commandBelow
      readLogicalRest fuel (.either c d)
    | t =>
      pushBack t
      return c

/-- Reads a pipeline. -/
def readPipeline : Nat → Expecting → Read Command
  | 0, _ => mistaken .tooDeep
  | fuel + 1, e => do
    let t ← readToken fuel e
    match t with
    | .reserved "!" =>
      if (← get).isRich then return .negated (← readPipeline fuel .command)
      else
        let c ← readCommand fuel .command
        return .negated (← readPipelineRest fuel [c])
    | .reserved "time" =>
      let after ← upcoming
      let isShort := "-p ".toList.isPrefixOf (after.dropWhile isBlankChar)
      if isShort then advanceOver (after.takeWhile isBlankChar ++ ['-', 'p'])
      match ← readToken fuel .command with
      | .word parts =>
        pushBack (.word parts)
        return .timed isShort (← readPipeline fuel .command)
      | .reserved name =>
        pushBack (.reserved name)
        return .timed isShort (← readPipeline fuel .command)
      | t =>
        pushBack t
        return .timed isShort .nothing
    | t =>
      pushBack t
      let c ← readCommand fuel {}
      readPipelineRest fuel [c]

/-- Reads the commands of a pipeline after the first ones, which come in reverse. -/
def readPipelineRest : Nat → List Command → Read Command
  | 0, _ => mistaken .tooDeep
  | fuel + 1, commands => do
    let t ← readToken fuel {}
    match t with
    | .operator "|" =>
      let c ← readCommand fuel .commandBelow
      readPipelineRest fuel (c :: commands)
    | .operator "|&" =>
      let c ← readCommand fuel .commandBelow
      let messages : Redirection := .copy 2 false [.text ['1']]
      let commands := match commands with
        | .simple line assignments words redirections :: before =>
          .simple line assignments words (redirections ++ [messages]) :: before
        | last :: before => .redirected 0 last [messages] :: before
        | [] => []
      readPipelineRest fuel (c :: commands)
    | t =>
      pushBack t
      match commands with
      | [c] => return c
      | _ => return .pipeline commands.reverse

/-- Reads a redirection after its operator. -/
def readRedirection : Nat → Turn → Read Redirection
  | 0, _ => mistaken .tooDeep
  | fuel + 1, turn => do
    match ← readToken fuel {} with
    | .word parts =>
      match turn with
      | .file descriptor opening isForced => return .file descriptor opening isForced parts
      | .named name turn =>
        pushBack (.word parts)
        return .named name (← readRedirection fuel turn)
      | .copy descriptor isInput =>
        let joins := (← get).isRich && descriptor = 1 && !isInput && match plainText? parts with
          | some text => !text.all Char.isDigit && text ≠ ['-'] && text.getLast? ≠ some '-'
          | none => false
        if joins then return .both .write parts else return .copy descriptor isInput parts
      | .supply descriptor => return .supply descriptor parts
      | .both opening => return .both opening parts
      | .document descriptor tabs =>
        let r ← get
        let w : Waiting := ⟨r.count, literalText parts, tabs, hasQuotes parts⟩
        set { r with waiting := r.waiting ++ [w], count := r.count + 1 }
        return .document descriptor r.count
    | t => unexpected t ""

/-- Reads redirections as far as they go. -/
def readRedirections : Nat → Read (List Redirection)
  | 0 => mistaken .tooDeep
  | fuel + 1 => do
    match ← readToken fuel .command with
    | .redirection turn =>
      let r ← readRedirection fuel turn
      return r :: (← readRedirections fuel)
    | t =>
      pushBack t
      return []

/-- Reads a command with its redirections. -/
def readCommand : Nat → Expecting → Read Command
  | 0, _ => mistaken .tooDeep
  | fuel + 1, e => do
    let t ← readToken fuel e
    let line := (← get).line
    let redirected (c : Command) : Read Command := do
      match ← readRedirections fuel with
      | [] => return c
      | rs => return .redirected line c rs
    let closed (c : Command) (word : String) : Read Command := do
      match ← readToken fuel .command with
      | .reserved name =>
        if name = word then redirected c else unexpected (.reserved name) (named word)
      | t => unexpected t (named word)
    match t with
    | .reserved "if" =>
      let c ← readChoice fuel
      closed c "fi"
    | .reserved "while" => closed (← readLoop fuel true) "done"
    | .reserved "until" => closed (← readLoop fuel false) "done"
    | .reserved "for" =>
      let r ← get
      match if r.isRich then roundsAt? r.rest else none with
      | some (inside, after) =>
        advanceOver (r.rest.take (r.rest.length - after.length))
        let (c, word) ← readRounds fuel line inside
        closed c word
      | none =>
        let (c, word) ← readEach fuel false
        closed c word
    | .reserved "select" =>
      let (c, word) ← readEach fuel true
      closed c word
    | .reserved "case" => redirected (← readSelect fuel)
    | .reserved "[[" =>
      let q ← readEitherQuery fuel
      match ← readToken fuel { skipsLines := true } with
      | .word [.text [']', ']']] => redirected (.query line q)
      | t => unexpected t ""
    | .reserved "coproc" =>
      let usual : Bytes := "COPROC".toList
      match ← readToken fuel .command with
      | .word parts =>
        let after := (← upcoming).dropWhile isBlankChar
        let next := after.takeWhile fun c => !endsWord c
        let isCompound := after.head? = some '('
          || ["\x7b", "if", "while", "until", "for", "case", "select", "[["].contains
            (String.ofList next)
        match if isCompound then plainText? parts else none with
        | some name => return .partner line name (← readCommand fuel .command)
        | none =>
          pushBack (.word parts)
          return .partner line usual (← readCommand fuel .command)
      | t =>
        pushBack t
        return .partner line usual (← readCommand fuel .command)
    | .reserved "function" =>
      match ← readToken fuel {} with
      | .word parts =>
        match plainText? parts with
        | some name =>
          match ← readToken fuel .commandBelow with
          | .operator "(" =>
            match ← readToken fuel {} with
            | .operator ")" => return .define name (← readCommand fuel .commandBelow)
            | t => unexpected t (named ")")
          | t =>
            pushBack t
            return .define name (← readCommand fuel .commandBelow)
        | none => mistaken .functionName
      | t => unexpected t "word"
    | .operator "(" =>
      let r ← get
      let sum := match r.isRich, r.rest with
        | true, '(' :: inside => cutDouble 0 inside
        | _, _ => none
      match sum with
      | some (inside, after) =>
        advanceOver (r.rest.take (r.rest.length - after.length))
        redirected (.calculation line (← readCut fuel (.arithmetic 0) (inside ++ [')', ')'])))
      | none =>
        let c ← readList fuel false false
        match ← readToken fuel .command with
        | .operator ")" => redirected (.aside c)
        | t => unexpected t (named ")")
    | .reserved "\x7b" => closed (.group (← readList fuel false false)) "\x7d"
    | .word _ =>
      pushBack t
      readSimple fuel line true [] [] []
    | .redirection _ =>
      pushBack t
      readSimple fuel line true [] [] []
    | t => unexpected t ""

/-- Reads the rest of a simple command. What has been read comes in reverse; `mayAssign` tells
whether only assignments have been read. -/
def readSimple : Nat → Nat → Bool → List Assignment → List Word → List Redirection → Read Command
  | 0, _, _, _, _, _ => mistaken .tooDeep
  | fuel + 1, line, mayAssign, assignments, words, redirections => do
    let t ← readToken fuel { aliases := mayAssign }
    match t with
    | .word parts =>
      let r ← get
      let isSecond := words.length + assignments.length = 1 && redirections.isEmpty
      let line := if r.isRich && isSecond then r.line else line
      let declares := match words.getLast? with
        | some (.mk first) =>
          r.isRich && (plainText? first).any fun name => String.ofList name ∈ declaringNames
        | none => false
      match if mayAssign || declares then assignment? r.isRich parts else none with
      | some (.mk name key isAdded value) =>
        let elements : Option (List Part) ← match r.isRich, value, r.rest with
          | true, [], '(' :: _ => do
            advanceOver ['(']
            pure (some [.list (← readElements fuel)])
          | _, _, _ => pure none
        if mayAssign then
          let a : Assignment := .mk name key isAdded (elements.getD value)
          readSimple fuel line true (a :: assignments) words redirections
        else
          let word : Word := .mk (parts ++ elements.getD [])
          readSimple fuel line false assignments (word :: words) redirections
      | none => readSimple fuel line false assignments (.mk parts :: words) redirections
    | .redirection turn =>
      let r ← readRedirection fuel turn
      readSimple fuel line mayAssign assignments words (r :: redirections)
    | t =>
      let finished : Read Command := do
        pushBack t
        return .simple line assignments.reverse words.reverse redirections.reverse
      match t, words, assignments, redirections with
      | .operator "(", [.mk parts], [], [] =>
        match ← readToken fuel {} with
        | .operator ")" =>
          let isRich := (← get).isRich
          match plainText? parts with
          | some name =>
            if isRich || (isName name && !(String.ofList name ∈ specialNames)) then
              return .define name (← readCommand fuel .commandBelow)
            else mistaken .functionName
          | none => mistaken .functionName
        | t => unexpected t (named ")")
      | _, _, _, _ => finished

/-- Reads a choice after its first word, up to its last one. -/
def readChoice : Nat → Read Command
  | 0 => mistaken .tooDeep
  | fuel + 1 => do
    let condition ← readList fuel false false
    match ← readToken fuel .command with
    | .reserved "then" =>
      let yes ← readList fuel false false
      match ← readToken fuel .command with
      | .reserved "elif" => return .choice condition yes (← readChoice fuel)
      | .reserved "else" => return .choice condition yes (← readList fuel false false)
      | t =>
        pushBack t
        return .choice condition yes .nothing
    | t => unexpected t (named "then")

/-- Reads a loop after its first word. -/
def readLoop : Nat → Bool → Read Command
  | 0, _ => mistaken .tooDeep
  | fuel + 1, wanted => do
    let condition ← readList fuel false false
    match ← readToken fuel .command with
    | .reserved "do" => return .loop wanted condition (← readList fuel false false)
    | t => unexpected t (named "do")

/-- Reads words up to the end of a line or a semicolon. -/
def readWords : Nat → Read (List Word)
  | 0 => mistaken .tooDeep
  | fuel + 1 => do
    match ← readToken fuel {} with
    | .word parts => return .mk parts :: (← readWords fuel)
    | .lineEnd => return []
    | .operator ";" => return []
    | t => unexpected t ""

/-- Reads the body of a loop, which may stand between braces in the rich language, and gives the
word that closes it. -/
def readBody : Nat → Read (Command × String)
  | 0 => mistaken .tooDeep
  | fuel + 1 => do
    match ← readToken fuel .commandBelow with
    | .reserved "do" => return (← readList fuel false false, "done")
    | .reserved "\x7b" =>
      if (← get).isRich then return (← readList fuel false false, "\x7d")
      else unexpected (.reserved "\x7b") (named "do")
    | t => unexpected t (named "do")

/-- Reads a loop over words, or a choice among them, after its first word. Without words it goes
over the arguments. -/
def readEach : Nat → Bool → Read (Command × String)
  | 0, _ => mistaken .tooDeep
  | fuel + 1, isMenu => do
    match ← readToken fuel {} with
    | .word parts =>
      match plainText? parts with
      | some name =>
        if !isName name then mistaken .loopVariable
        else
          let line := (← get).line
          let words ← do
            match ← readToken fuel .commandBelow with
            | .reserved "in" => readWords fuel
            | .operator ";" => pure [.mk [.group [.parameter ['@'] .plain false []]]]
            | t =>
              pushBack t
              pure [.mk [.group [.parameter ['@'] .plain false []]]]
          let (body, word) ← readBody fuel
          return (if isMenu then .menu line name words body else .each line name words body, word)
      | none => mistaken .loopVariable
    | _ => mistaken .loopVariable

/-- Reads a loop with steps of arithmetic after those steps, of which the text is given. -/
def readRounds : Nat → Nat → Bytes → Read (Command × String)
  | 0, _, _ => mistaken .tooDeep
  | fuel + 1, line, text => do
    match pieces ';' text with
    | [start, condition, step] =>
      let start := start.dropWhile isBlankChar
      let condition := condition.dropWhile isBlankChar
      let step := step.dropWhile isBlankChar
      let start ← readCut fuel (.arithmetic 0) (start ++ [')', ')'])
      let condition ← readCut fuel (.arithmetic 0) (condition ++ [')', ')'])
      let step ← readCut fuel (.arithmetic 0) (step ++ [')', ')'])
      match ← readToken fuel .commandBelow with
      | .operator ";" => pure ()
      | t => pushBack t
      let (body, word) ← readBody fuel
      return (.rounds line start condition step body, word)
    | _ => unexpected (.operator ")") ""

/-- Reads the values of a list up to its closing parenthesis. -/
def readElements : Nat → Read (List Word)
  | 0 => mistaken .tooDeep
  | fuel + 1 => do
    let cs ← upcoming
    let cs := cs.dropWhile isSpaceChar
    advanceOver ((← get).rest.takeWhile isSpaceChar)
    match placeAt? cs with
    | some ([], key, _) =>
      advanceOver ('[' :: key ++ [']'])
      let inside ← readCut fuel .whole key
      let parts ← readParts fuel .plain
      return .mk (.text [] :: .place inside :: parts) :: (← readElements fuel)
    | _ =>
      match ← readToken fuel { skipsLines := true } with
      | .word parts => return .mk parts :: (← readElements fuel)
      | .operator ")" => return []
      | t => unexpected t (named ")")

/-- Reads alternative conditions. -/
def readEitherQuery : Nat → Read Query
  | 0 => mistaken .tooDeep
  | fuel + 1 => do
    let q ← readBothQuery fuel
    match ← readToken fuel { skipsLines := true } with
    | .operator "||" => return .either q (← readEitherQuery fuel)
    | t =>
      pushBack t
      return q

/-- Reads conditions that have to hold together. -/
def readBothQuery : Nat → Read Query
  | 0 => mistaken .tooDeep
  | fuel + 1 => do
    let q ← readQuery fuel
    match ← readToken fuel { skipsLines := true } with
    | .operator "&&" => return .both q (← readBothQuery fuel)
    | t =>
      pushBack t
      return q

/-- Reads one condition. -/
def readQuery : Nat → Read Query
  | 0 => mistaken .tooDeep
  | fuel + 1 => do
    match ← readToken fuel { skipsLines := true } with
    | .operator "(" =>
      let q ← readEitherQuery fuel
      match ← readToken fuel { skipsLines := true } with
      | .operator ")" => return .group q
      | t => unexpected t (named ")")
    | .word [.text ['!']] => return .not (← readQuery fuel)
    | .word [.text [']', ']']] => unexpected (.reserved "]]") ""
    | .word parts =>
      let operator? := (plainText? parts).filter fun text =>
        match text with
        | ['-', c] => "abcdefghknoprstuvwxzGLNORS".toList.contains c
        | _ => false
      match operator? with
      | some operator =>
        match ← readToken fuel {} with
        | .word [.text [']', ']']] => unexpected (.reserved "]]") ""
        | .word w => return .sole (String.ofList operator) (.mk w)
        | t => unexpected t ""
      | none =>
        let binary (operator : String) : Read Query := do
          let cs ← upcoming
          advanceOver (cs.takeWhile isBlankChar)
          let region : Region := match operator with
            | "=~" => .regex
            | "==" => .pattern
            | "=" => .pattern
            | "!=" => .pattern
            | _ => .plain
          match ← readParts fuel region with
          | [] => unexpected .lineEnd ""
          | [.text [']', ']']] => unexpected (.reserved "]]") ""
          | w => return .pair operator (.mk parts) (.mk w)
        match ← readToken fuel {} with
        | .redirection (.file 0 .read false) => binary "<"
        | .redirection (.file 1 .write false) => binary ">"
        | .word w =>
          match plainText? w with
          | some text =>
            let operator := String.ofList text
            if operator = "]]" then
              pushBack (.word w)
              return .sole "-n" (.mk parts)
            else if operator ∈ queryOperators then binary operator
            else unexpected (.word w) ""
          | none => unexpected (.word w) ""
        | .operator ")" =>
          pushBack (.operator ")")
          return .sole "-n" (.mk parts)
        | .operator "&&" =>
          pushBack (.operator "&&")
          return .sole "-n" (.mk parts)
        | .operator "||" =>
          pushBack (.operator "||")
          return .sole "-n" (.mk parts)
        | t => unexpected t ""
    | t => unexpected t ""

/-- Reads a selection after its first word, with its last one. -/
def readSelect : Nat → Read Command
  | 0 => mistaken .tooDeep
  | fuel + 1 => do
    let line := (← get).line
    match ← readToken fuel {} with
    | .word parts =>
      match ← readToken fuel .commandBelow with
      | .reserved "in" => return .select line (.mk parts) (← readBranches fuel)
      | t => unexpected t (named "in")
    | t => unexpected t "word"

/-- Reads the branches of a selection, with its last word. -/
def readBranches : Nat → Read (List Branch)
  | 0 => mistaken .tooDeep
  | fuel + 1 => do
    let t ← readToken fuel { skipsLines := true, keywords := true }
    match t with
    | .reserved "esac" => return []
    | _ =>
      let first ← match t with
        | .operator "(" => readToken fuel {}
        | t => pure t
      let patterns ← readPatterns fuel first
      let body ← readList fuel true false
      match ← readToken fuel { skipsLines := true, keywords := true } with
      | .reserved "esac" => return [.mk patterns body .leaves]
      | .operator ";;" => return .mk patterns body .leaves :: (← readBranches fuel)
      | .operator ";&" => return .mk patterns body .falls :: (← readBranches fuel)
      | .operator ";;&" => return .mk patterns body .resumes :: (← readBranches fuel)
      | t => unexpected t (named ";;")

/-- Reads patterns, of which the first token is given, up to the closing parenthesis. -/
def readPatterns : Nat → Token → Read (List Word)
  | 0, _ => mistaken .tooDeep
  | fuel + 1, t => do
    let parts ← match t with
      | .word parts => pure parts
      | .reserved name => pure [Part.text name.toList]
      | t => unexpected t (named ")")
    match ← readToken fuel {} with
    | .operator "|" =>
      let next ← readToken fuel {}
      return .mk parts :: (← readPatterns fuel next)
    | .operator ")" => return [.mk parts]
    | t => unexpected t (named ")")

end

/-- Whether there is nothing left to be read. -/
def Reader.isDone (r : Reader) : Bool :=
  r.rest = []

/-- Enough fuel to read whatever a script holds. -/
def readingFuel : Nat := 1000000

/-- What reading a line comes to. -/
structure Reading where
  command : Command
  /-- Whether the line ended because the text did. -/
  isLast : Bool
  reader : Reader

/-- Reads the commands of the next line. -/
def Reader.next (r : Reader) : Except Mistake Reading :=
  match (readList readingFuel false true).run { r with pushed := none, chain := none } with
  | .ok (c, r) => .ok ⟨c, r.pushed.any Token.isEnding, { r with pushed := none }⟩
  | .error e => .error e

/-- Reads a text as the inside of a document. -/
def readText (cs : Bytes) : List Part :=
  match (readParts readingFuel .document).run { rest := cs } with
  | .ok (parts, _) => parts
  | .error _ => [.quoted cs]

end LinkWatch.Host.Shell

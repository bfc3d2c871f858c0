import LinkWatch.Host.Shell.Declaring

/-!
# Reading input

The commands of the rich language that read lines: one of them into variables or into a row, or all
of them into a row.
-/

namespace LinkWatch.Host.Shell

open LinkWatch.Text LinkWatch.Host.Kernel LinkWatch.Host.Utility

/-- How a line is read. -/
structure LineStyle where
  descriptor : Nat := 0
  /-- The character that ends a line; none if only the number of characters counts. -/
  ending : Option Char := some '\n'
  /-- At most so many characters. -/
  most : Option Nat := none
  /-- Whether a backslash means nothing. -/
  asItIs : Bool := false

/-- Reads a line byte by byte. The second value tells whether it has been ended. -/
def readStyled (style : LineStyle) : Nat → List Glyph → Act (List Glyph × Bool)
  | 0, gs => return (gs.reverse, false)
  | fuel + 1, gs => do
    if style.most.any (· ≤ gs.length) then return (gs.reverse, true)
    else
      match ← ask (.read style.descriptor 1) with
      | .ok [c] =>
        if some c = style.ending then return (gs.reverse, true)
        else if c = '\x00' then readStyled style fuel gs
        else if c = '\\' && !style.asItIs then
          match ← ask (.read style.descriptor 1) with
          | .ok [d] => readStyled style fuel (if d = '\n' then gs else ⟨d, true⟩ :: gs)
          | _ => return (gs.reverse, false)
        else readStyled style fuel (⟨c, false⟩ :: gs)
      | _ => return (gs.reverse, false)

/-- All fields of a line. -/
def lineFields (dividers : Bytes) : Nat → List Glyph → List Bytes
  | 0, _ => []
  | fuel + 1, gs =>
    if gs.isEmpty then []
    else
      let field := gs.takeWhile (!isDivider dividers ·)
      let after := (gs.drop field.length).dropWhile (isBlankDivider dividers)
      let after := match after with
        | g :: rest => if isDivider dividers g then rest else g :: rest
        | [] => []
      field.map Glyph.char :: lineFields dividers fuel (after.dropWhile (isBlankDivider dividers))

/-- The number that a value of an option gives. -/
def givenNumber? (g : Given) (option : Char) : Option Nat :=
  ((g.options.filter fun o => o.1 = option).getLast?).bind fun o => natural? o.2

/-- The value of an option. -/
def givenText? (g : Given) (option : Char) : Option Bytes :=
  ((g.options.filter fun o => o.1 = option).getLast?).map Prod.snd

/-- Reads a line into variables, into a row, or into the variable for replies. -/
def readRich : Builtin := fun arguments =>
  withGiven ['e', 'r', 's'] "adinNptu".toList arguments fun g => do
    match g.operands.find? fun name => (namedBy? name).isNone with
    | some name =>
      warnName name
      return 1
    | none =>
      let exact := givenNumber? g 'N'
      let ending := match givenText? g 'd' with
        | none => '\n'
        | some text => text.headD '\x00'
      let style : LineStyle :=
        { descriptor := (givenNumber? g 'u').getD 0
          ending := if exact.isSome then none else some ending
          most := exact <|> givenNumber? g 'n', asItIs := g.has 'r' }
      if givenText? g 't' = some ['0'] then return 0
      else
        let (gs, isEnded) ← readStyled style streamFuel []
        let dividers := (← get).dividers
        let trimmed := gs.dropWhile (isBlankDivider dividers)
        match givenText? g 'a', g.operands with
        | some row, _ =>
          assignContents false row (rowOf (lineFields dividers (gs.length + 1) trimmed))
        | none, [] => assign "REPLY".toList (gs.map Glyph.char)
        | none, names =>
          let fields := if exact.isSome then [gs.map Glyph.char]
            else divideLine dividers names.length trimmed
          let missing := List.replicate (names.length - fields.length) ([] : Bytes)
          (names.zip (fields ++ missing)).forM fun p =>
            match namedBy? p.1 with
            | some n => assignAt false n.name n.key false p.2
            | none => pure ()
        return if isEnded then 0 else 1

/-- A text cut into lines that keep their ends. -/
def keptLines (ending : Char) : Nat → Bytes → List Bytes
  | 0, _ => []
  | fuel + 1, cs =>
    if cs = [] then []
    else
      let text := cs.takeWhile (· ≠ ending)
      let rest := cs.drop text.length
      (text ++ rest.take 1) :: keptLines ending fuel (rest.drop 1)

/-- Reads all lines into a row. -/
def readRow : Builtin := fun arguments =>
  withGiven ['t'] "dnOsuCc".toList arguments fun g => do
    let name := g.operands.headD "MAPFILE".toList
    if !isName name then
      warnName name
      return 1
    else
      match ← within (readAll ((givenNumber? g 'u').getD 0)) with
      | .error e =>
        warn (wordsOf e)
        return 1
      | .ok text =>
        let ending := match givenText? g 'd' with
          | none => '\n'
          | some text => text.headD '\x00'
        let all := (keptLines ending (text.length + 1) text).drop ((givenNumber? g 's').getD 0)
        let chosen := match givenNumber? g 'n' with
          | some n => if n = 0 then all else all.take n
          | none => all
        let cut (l : Bytes) : Bytes :=
          if g.has 't' && l.getLast? = some ending then l.dropLast else l
        let origin := givenNumber? g 'O'
        let s ← get
        let start : Contents := if origin.isSome then s.contents name else .row []
        let numbered := (List.range chosen.length).zip (chosen.map cut)
        assignContents false name
          (numbered.foldl (fun c p => c.put (.number (p.1 + origin.getD 0)) p.2) start)
        return 0

end LinkWatch.Host.Shell

import LinkWatch.Host.Utility.Stream

/-!
# Paragraphs filled to a width

The words of a paragraph are divided into lines so that all lines together cost as little as
possible. A line costs more the further it is from the goal and from the length of the next one; a
line that ends where a sentence does costs less.
-/

namespace LinkWatch.Host.Utility

open LinkWatch.Text LinkWatch.Host.Kernel

/-- A word with the space after it. -/
structure TextWord where
  text : Bytes
  space : Nat
  /-- Whether it begins with an opening bracket or quote. -/
  opens : Bool
  /-- Whether it ends with some mark. -/
  isMarked : Bool
  /-- Whether it ends as a sentence does. -/
  isPeriod : Bool
  /-- Whether it ends a sentence. -/
  isFinal : Bool

/-- How paragraphs are filled. -/
structure FillStyle where
  /-- Lines are shorter than this. -/
  width : Nat := 75
  goal : Nat := 70
  /-- Whether the indentation of the second line counts for all that follow. -/
  isCrown : Bool := false
  /-- Whether the first line has to be indented otherwise than the second. -/
  isTagged : Bool := false
  /-- Whether lines are only divided. -/
  onlySplits : Bool := false
  /-- Whether there is one blank between words and two after sentences. -/
  isUniform : Bool := false
  /-- What lines have to start with, without blanks around it. -/
  mark : Bytes := []
  /-- The blanks before it, and its length with the blanks after it. -/
  lead : Nat := 0
  fullLength : Nat := 0

/-- The distance between tab stops. -/
def tabDistance : Nat := 8

/-! ## Reading -/

/-- A line of the input: where its mark and its words begin, and what stands there. -/
structure SourceLine where
  indent : Nat
  column : Nat
  rest : Bytes
  isEnded : Bool
  /-- Whether there is a tab before the words. -/
  hasTab : Bool

/-- The column after blanks, what follows them, and whether there is a tab among them. -/
def skipToColumn : Nat → Bytes → Nat × Bytes × Bool
  | column, [] => (column, [], false)
  | column, c :: cs =>
    if c = ' ' then skipToColumn (column + 1) cs
    else if c = '\t' then
      let p := skipToColumn ((column / tabDistance + 1) * tabDistance) cs
      (p.1, p.2.1, true)
    else (column, c :: cs, false)

/-- Reads the start of a line. -/
def FillStyle.readLine (y : FillStyle) (text : Bytes) (isEnded : Bool) : SourceLine :=
  let (column, rest, hasTab) := skipToColumn 0 text
  if y.mark = [] then ⟨min y.lead column, column, rest, isEnded, hasTab⟩
  else
    let common := (commonStart y.mark rest).length
    if common < y.mark.length then ⟨column, column + common, rest.drop common, isEnded, hasTab⟩
    else
      let (after, words, tabAfter) := skipToColumn (column + common) (rest.drop common)
      ⟨column, after, words, isEnded, hasTab || tabAfter⟩

/-- Whether a line has words that are filled. -/
def FillStyle.admits (y : FillStyle) (l : SourceLine) : Bool :=
  l.rest ≠ [] && y.lead ≤ l.indent && l.indent + y.fullLength ≤ l.column

/-- Whether a character is a mark of punctuation. -/
def isPunctuation (c : Char) : Bool :=
  32 < c.toNat && c.toNat < 127 && !c.isAlphanum

/-- The words of a line, from some column on, and whether there are tabs between them. -/
def lineWords (isUniform : Bool) : Nat → Nat → Bytes → List TextWord × Bool
  | 0, _, _ => ([], false)
  | fuel + 1, column, cs =>
    match cs with
    | [] => ([], false)
    | c :: rest =>
      let text := c :: rest.takeWhile fun c => !isSpaceChar c
      let after := cs.drop text.length
      let start := column + text.length
      let (next, others, hasTab) := skipToColumn start after
      let isLast := others = []
      let bare := match text with
        | first :: more => first :: (more.reverse.dropWhile (· ∈ [')', ']', '\'', '"'])).reverse
        | [] => []
      let isPeriod := bare.getLast?.any (· ∈ ['.', '?', '!'])
      let space := next - start
      let isFinal := isPeriod && (isLast || 1 < space)
      let word : TextWord :=
        { text := text
          space := if isLast || isUniform then (if isFinal then 2 else 1) else space
          opens := text.head?.any (· ∈ ['(', '[', '\x60', '\'', '"'])
          isMarked := text.getLast?.any isPunctuation
          isPeriod := isPeriod, isFinal := isFinal }
      let p := lineWords isUniform fuel next others
      (word :: p.1, hasTab || p.2)

/-! ## Dividing -/

/-- A square, as a cost. -/
def squareCost (n : Int) : Int :=
  n * n

/-- The cost of a line that is so much shorter or longer than the goal. -/
def shortCost (n : Int) : Int :=
  squareCost (n * 10)

/-- The cost of a line that is so much shorter or longer than the next one. -/
def raggedCost (n : Int) : Int :=
  shortCost n / 2

/-- The cost of a line that starts with a word. -/
def startCost (ws : Array TextWord) (start : Nat) : Int :=
  let before (n : Nat) : Option TextWord := if n ≤ start then ws[start - n]? else none
  let cost := squareCost 70
  let cost := match if start = 0 then none else before 1 with
    | none => cost
    | some w =>
      if w.isPeriod then if w.isFinal then cost - squareCost 50 else cost + squareCost 600
      else if w.isMarked then cost - squareCost 40
      else if 1 < start && (before 2).any TextWord.isFinal then
        cost + squareCost 200 / (w.text.length + 2)
      else cost
  match ws[start]? with
  | none => cost
  | some w =>
    if w.opens then cost - squareCost 40
    else if w.isFinal then cost + squareCost 150 / (w.text.length + 2)
    else cost

/-- What is known about the best way to go on from a word: the cost, the word that starts the next
line, and the length of the line. -/
structure BestBreak where
  cost : Int := 0
  next : Nat := 0
  length : Nat := 0

/-- The best break after a line that starts with a word, if those further on are known. -/
def bestBreak (width goal indent last : Nat) (ws : Array TextWord) (known : Array BestBreak)
    (start : Nat) :
    BestBreak :=
  let count := ws.size
  let at_ (i : Nat) : BestBreak := known.getD i {}
  let rec go : Nat → Nat → Nat → Option BestBreak → BestBreak
    | 0, _, _, best => best.getD {}
    | fuel + 1, w, length, best =>
      let lineCost : Int :=
        if w = count then 0
        else
          let cost := shortCost ((goal : Int) - length)
          if (at_ w).next = count then cost else cost + raggedCost ((length : Int) - (at_ w).length)
      let cost := lineCost + (at_ w).cost
      let cost := if start = 0 && 0 < last then cost + raggedCost ((length : Int) - last) else cost
      let best := if best.all fun b => cost < b.cost then some ⟨cost, w, length⟩ else best
      if w = count then best.getD {}
      else
        let longer := length + ((ws[w - 1]?).map TextWord.space).getD 0
          + ((ws[w]?).map fun x => x.text.length).getD 0
        if longer < width then go fuel (w + 1) longer best else best.getD {}
  let best :=
    go (count + 1) (start + 1) (indent + ((ws[start]?).map fun x => x.text.length).getD 0) none
  { best with cost := best.cost + startCost ws start }

/-- The best breaks from all words on. -/
def bestBreaks (y : FillStyle) (first others last : Nat) (ws : Array TextWord) : Array BestBreak :=
  (List.range ws.size).foldl (fun known i =>
    let start := ws.size - 1 - i
    known.setIfInBounds start
      (bestBreak y.width y.goal (if start = 0 then first else others) last ws known start))
    (Array.replicate (ws.size + 1) {})

/-! ## Writing -/

/-- A text with blanks after it up to a column, in which tabs may be used. -/
def spaceTo (usesTabs : Bool) (column target : Nat) : Bytes :=
  let stop := target / tabDistance * tabDistance
  if usesTabs && column + 1 < stop then
    List.replicate (stop / tabDistance - column / tabDistance) '\t'
      ++ List.replicate (target - stop) ' '
  else List.replicate (target - column) ' '

/-- Words with the spaces between them, from some column on, and the column at their end. -/
def wordsFrom (usesTabs : Bool) : Nat → List TextWord → Bytes × Nat
  | column, [] => ([], column)
  | column, [w] => (w.text, column + w.text.length)
  | column, w :: ws =>
    let stop := column + w.text.length
    let p := wordsFrom usesTabs (stop + w.space) ws
    (w.text ++ spaceTo usesTabs stop (stop + w.space) ++ p.1, p.2)

/-- The state of filling. -/
structure Filler where
  style : FillStyle
  /-- Whether a tab has been seen. -/
  usesTabs : Bool := false
  /-- The indentation of the mark, of the first line, and of the others. -/
  markIndent : Nat := 0
  first : Nat := 0
  others : Nat := 0
  /-- The length of the line before, in this paragraph. -/
  last : Nat := 0
  words : Array TextWord := #[]
  size : Nat := 0
  output : List Bytes := []

/-- A line of words. -/
def Filler.line (f : Filler) (indent : Nat) (ws : List TextWord) : Bytes × Nat :=
  let before := spaceTo f.usesTabs 0 f.markIndent ++ f.style.mark
  let column := f.markIndent + f.style.mark.length
  let p := wordsFrom f.usesTabs (max indent column) ws
  (before ++ spaceTo f.usesTabs column indent ++ p.1 ++ ['\n'], p.2)

/-- Writes the lines from a word up to another one. -/
def Filler.put (f : Filler) (known : Array BestBreak) (stop : Nat) : Nat → Nat → Filler
  | 0, _ => f
  | fuel + 1, start =>
    if stop ≤ start then f
    else
      let next := (known.getD start {}).next
      let (text, column) := f.line (if start = 0 then f.first else f.others)
        (f.words.toList.take next |>.drop start)
      Filler.put { f with output := text :: f.output, last := column } known stop fuel
        (max next (start + 1))

/-- The best place to divide words of which there are too many. -/
def splitPlace (known : Array BestBreak) (count : Nat) : Nat → Nat → Nat → Option Int → Nat
  | 0, _, place, _ => place
  | fuel + 1, w, place, best =>
    if count ≤ w then place
    else
      let b := known.getD w {}
      let cost := b.cost - (known.getD b.next {}).cost
      let isBetter := best.all (cost < ·)
      let now := if isBetter then cost else best.getD cost
      splitPlace known count fuel b.next (if isBetter then w else place) (some (now + squareCost 3))

/-- Writes all words of a paragraph. -/
def Filler.finish (f : Filler) : Filler :=
  let last := f.words.size - 1
  let ws := f.words.modify last fun w => { w with isPeriod := true, isFinal := true }
  let f := { f with words := ws }
  let known := bestBreaks f.style f.first f.others f.last ws
  let f := f.put known ws.size (ws.size + 1) 0
  { f with words := #[], size := 0 }

/-- Writes a part of the words. -/
def Filler.flush (f : Filler) : Filler :=
  if f.words.isEmpty then f
  else
    let count := f.words.size
    let known := bestBreaks f.style f.first f.others f.last f.words
    let place := splitPlace known count count (known.getD 0 {}).next count none
    let f := f.put known place (count + 1) 0
    let left := f.words.extract place count
    { f with words := left, size := (left.toList.map fun w => w.text.length).foldl (· + ·) 0 }

/-- Adds a word to the paragraph. -/
def Filler.add (f : Filler) (w : TextWord) : Filler :=
  let f := if 5000 < f.size + w.text.length then f.flush else f
  let f := if 998 ≤ f.words.size then f.flush else f
  { f with words := f.words.push w, size := f.size + w.text.length }

/-- Adds the words of a line. -/
def Filler.addLine (f : Filler) (l : SourceLine) : Filler :=
  let (ws, hasTab) := lineWords f.style.isUniform (l.rest.length + 1) l.column l.rest
  ws.foldl Filler.add { f with usesTabs := f.usesTabs || hasTab }

/-- Copies a line as it is. -/
def Filler.copy (f : Filler) (l : SourceLine) : Filler :=
  let marked := (f.style.mark.take (l.column - l.indent))
  let text :=
    if l.indent < l.column || l.rest ≠ [] then
      spaceTo f.usesTabs 0 l.indent ++ marked
        ++ (if l.rest = [] then [] else spaceTo f.usesTabs (l.indent + marked.length) l.column)
        ++ l.rest
    else []
  { f with output := (if l.isEnded then text ++ ['\n'] else text) :: f.output }

/-- Fills the paragraphs of some lines. -/
def Filler.all (f : Filler) : Nat → List SourceLine → Filler
  | 0, _ => f
  | _, [] => f
  | fuel + 1, l :: rest =>
    let f := { f with usesTabs := f.usesTabs || l.hasTab }
    if !f.style.admits l then (f.copy l).all fuel rest
    else
      let f := ({ f with markIndent := l.indent, first := l.column, last := 0 } : Filler).addLine l
      let look (f : Filler) (ls : List SourceLine) : Filler :=
        { f with usesTabs := f.usesTabs || ls.head?.any SourceLine.hasTab }
      let f := look f rest
      let isSame (l : SourceLine) : Bool :=
        l.indent = f.markIndent && f.markIndent + f.style.fullLength ≤ l.column && l.rest ≠ []
      let follows := rest.head?.any isSame
      let column := (rest.head?.map SourceLine.column).getD 0
      let others :=
        if f.style.onlySplits then f.first
        else if f.style.isCrown then if follows then column else f.first
        else if f.style.isTagged then
          if follows && column ≠ f.first then column
          else if f.others = f.first then if f.first = 0 then 3 else 0
          else f.others
        else f.first
      let f := { f with others := others }
      let goesOn :=
        if f.style.onlySplits then false
        else if f.style.isTagged && !f.style.isCrown then follows && column ≠ f.first
        else follows
      let body := if goesOn then rest.takeWhile fun l => isSame l && l.column = others else []
      let f := body.foldl (fun f l =>
        let f := { f with usesTabs := f.usesTabs || l.hasTab }
        f.addLine l) f
      let rest := rest.drop body.length
      (look f rest).finish.all fuel rest

/-- The filled text of an input. -/
def FillStyle.fill (y : FillStyle) (text : Bytes) : Bytes :=
  let (lines, isEnded) := linesOf text
  let count := lines.length
  let source := (lines.mapIdx fun i l => y.readLine l (isEnded || i + 1 < count)).filter fun l =>
    l.isEnded || l.rest ≠ [] || 0 < l.column
  (({ style := y } : Filler).all (count + 1) source).output.reverse.flatten

/-- Fills the paragraphs of inputs. -/
def fillParagraphs (c : Call) : Program Nat :=
  let arguments := match c.arguments with
    | ('-' :: d :: digits) :: rest =>
      if d.isDigit then ('-' :: 'w' :: d :: digits) :: rest else c.arguments
    | _ => c.arguments
  let t : OptionTable :=
    { plain := ['c', 's', 't', 'u'], valued := ['w', 'g', 'p']
      long := [("crown-margin", 'c'), ("prefix", 'p'), ("split-only", 's'),
        ("tagged-paragraph", 't'), ("uniform-spacing", 'u'), ("width", 'w'), ("goal", 'g')] }
  ({ c with arguments := arguments } : Call).withOptions t 1 fun o => do
    let number (flag : Char) (most : Nat) : Option (Option Nat) := match o.value? flag with
      | none => some none
      | some v => (natural? v).bind fun n => if n ≤ most then some (some n) else none
    let refuse (flag : Char) : Program Nat :=
      let v := (o.value? flag).getD []
      c.refuse 1 ("invalid width: ".toList ++ inQuotes v
        ++ (if (natural? v).isSome then ": Numerical result out of range".toList else []))
    match number 'w' 2500, number 'g' 2500 with
    | none, _ => refuse 'w'
    | _, none => refuse 'g'
    | some w, some g =>
      let width := match w, g with
        | some w, _ => w
        | none, some g => g + 10
        | none, none => 75
      let goal := g.getD (width * 187 / 200)
      let given := (o.value? 'p').getD []
      let bare := given.dropWhile (· = ' ')
      let y : FillStyle :=
        { width := width, goal := goal, isCrown := o.has 'c', isTagged := o.has 't'
          onlySplits := o.has 's', isUniform := o.has 'u'
          mark := (bare.reverse.dropWhile (· = ' ')).reverse
          lead := given.length - bare.length, fullLength := bare.length }
      let files := if o.operands = [] then [['-']] else o.operands
      let rec go : List Bytes → Nat → Program Nat
        | [], status => return status
        | file :: files, status => do
          match ← readFile file with
          | .ok text =>
            match ← writeTo 1 (y.fill text) with
            | .ok _ => go files status
            | .error e => c.refuse 1 ("write error: ".toList ++ wordsOf e)
          | .error e =>
            c.complain (Wording.quoting.opening file e)
            go files 1
      go files 0

end LinkWatch.Host.Utility

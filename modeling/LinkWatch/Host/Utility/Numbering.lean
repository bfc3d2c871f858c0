import LinkWatch.Host.Utility.Regex
import LinkWatch.Host.Utility.Stream

/-!
# Numbered lines

An input has pages of three sections, which lines of marks begin. The lines of each section are
numbered in its own way.
-/

namespace LinkWatch.Host.Utility

open LinkWatch.Text LinkWatch.Host.Kernel LinkWatch.Decimal

/-- Which lines of a section are numbered. -/
inductive NumberStyle where
  | all
  | nonEmpty
  | none
  | matching (r : Regex)

/-- The style that a text means. -/
def readNumberStyle? (cs : Bytes) : Option (Except String NumberStyle) :=
  match cs with
  | ['a'] => some (.ok .all)
  | ['t'] => some (.ok .nonEmpty)
  | ['n'] => some (.ok .none)
  | 'p' :: text => some (({ extended := false : RegexStyle }.read text).map fun p => .matching p.1)
  | _ => Option.none

/-- How lines are numbered. -/
structure Numbering where
  header : NumberStyle
  body : NumberStyle
  footer : NumberStyle
  mark : Bytes
  first : Int
  step : Int
  /-- How many empty lines count as one. -/
  group : Nat
  restarts : Bool
  separator : Bytes
  width : Nat
  format : Bytes

/-- Where numbering has come to. -/
structure NumberingState where
  number : Int
  style : NumberStyle
  empty : Nat := 0

/-- A number as it is shown. -/
def Numbering.shown (k : Numbering) (n : Int) : Bytes :=
  if k.format = ['l', 'n'] then padRight k.width ' ' (numeralOf n)
  else if k.format = ['r', 'z'] then
    if n < 0 then '-' :: padLeft (k.width - 1) '0' (digitsOf n.natAbs)
    else padLeft k.width '0' (digitsOf n.natAbs)
  else padLeft k.width ' ' (numeralOf n)

/-- Numbers a line, or begins a section. -/
def Numbering.line (k : Numbering) : LineStep NumberingState := fun s text _ =>
  let begin (style : NumberStyle) (isPage : Bool) : NumberingState × Bytes × Bool :=
    ({ number := if isPage && k.restarts then k.first else s.number, style := style }, ['\n'], true)
  let numbered (s : NumberingState) : NumberingState × Bytes × Bool :=
    ({ s with number := s.number + k.step }, Text.line (k.shown s.number ++ k.separator ++ text),
      true)
  let bare (s : NumberingState) : NumberingState × Bytes × Bool :=
    (s, Text.line (List.replicate (k.width + k.separator.length) ' ' ++ text), true)
  if k.mark ≠ [] && text = k.mark ++ k.mark ++ k.mark then begin k.header true
  else if k.mark ≠ [] && text = k.mark ++ k.mark then begin k.body true
  else if k.mark ≠ [] && text = k.mark then begin k.footer true
  else
    match s.style with
    | .all =>
      if text = [] && 1 < k.group then
        if s.empty + 1 = k.group then numbered { s with empty := 0 }
        else bare { s with empty := s.empty + 1 }
      else numbered { s with empty := 0 }
    | .nonEmpty => if text = [] then bare s else numbered s
    | .none => bare s
    | .matching r => if (r.search (.start text)).isSome then numbered s else bare s

/-- Numbers lines. -/
def numberLines (c : Call) : Program Nat :=
  let t : OptionTable :=
    { plain := ['p'], valued := "bdfhilnsvw".toList
      long := [("body-numbering", 'b'), ("section-delimiter", 'd'), ("footer-numbering", 'f'),
        ("header-numbering", 'h'), ("line-increment", 'i'), ("join-blank-lines", 'l'),
        ("number-format", 'n'), ("no-renumber", 'p'), ("number-separator", 's'),
        ("starting-line-number", 'v'), ("number-width", 'w')] }
  c.withOptions t 1 fun o =>
    let style (flag : Char) (usual : String) : Option (Except String NumberStyle) :=
      readNumberStyle? ((o.value? flag).getD usual.toList)
    let number (flag : Char) (usual : Int) : Option Int := match o.value? flag with
      | none => some usual
      | some v => integer? v
    let wrong (words : String) (flag : Char) : Bytes :=
      words.toList ++ ": ".toList ++ inQuotes ((o.value? flag).getD [])
    let given := (o.value? 'd').getD ['\\', ':']
    let mark := match given with
      | [d] => [d, ':']
      | d => d
    match style 'b' "t", style 'h' "n", style 'f' "n" with
    | none, _, _ => c.misuse 1 (wrong "invalid body numbering style" 'b')
    | _, none, _ => c.misuse 1 (wrong "invalid header numbering style" 'h')
    | _, _, none => c.misuse 1 (wrong "invalid footer numbering style" 'f')
    | some (.error words), _, _ => c.refuse 1 words.toList
    | _, some (.error words), _ => c.refuse 1 words.toList
    | _, _, some (.error words) => c.refuse 1 words.toList
    | some (.ok body), some (.ok header), some (.ok footer) =>
      let format := (o.value? 'n').getD ['r', 'n']
      match number 'v' 1, number 'i' 1, number 'l' 1, number 'w' 6 with
      | none, _, _, _ => c.refuse 1 (wrong "invalid starting line number" 'v')
      | _, none, _, _ => c.refuse 1 (wrong "invalid line number increment" 'i')
      | _, _, none, _ => c.refuse 1 (wrong "invalid line number of blank lines" 'l')
      | _, _, _, none => c.refuse 1 (wrong "invalid line number field width" 'w')
      | some first, some step, some group, some width =>
        if width < 1 then
          c.refuse 1 (wrong "invalid line number field width" 'w'
            ++ ": Numerical result out of range".toList)
        else if group < 1 then
          c.refuse 1 (wrong "invalid line number of blank lines" 'l'
            ++ ": Numerical result out of range".toList)
        else if !(["ln".toList, "rn".toList, "rz".toList].contains format) then
          c.misuse 1 (wrong "invalid line numbering format" 'n')
        else
          let k : Numbering :=
            { header := header, body := body, footer := footer, mark := mark, first := first,
              step := step
              group := group.toNat, restarts := !o.has 'p', separator := (o.value? 's').getD ['\t']
              width := width.toNat, format := format }
          overLines c .usual o.operands ({ number := first, style := body } : NumberingState) k.line
            (fun _ => ([], 0)) 1

end LinkWatch.Host.Utility

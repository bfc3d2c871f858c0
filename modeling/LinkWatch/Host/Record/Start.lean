import LinkWatch.Host.Record.Run

/-!
# Starting programs on records

The program stands in an argument or in files. Other arguments name the files of records, or give
variables values.
-/

namespace LinkWatch.Host.Record

open LinkWatch.Text LinkWatch.Host.Kernel LinkWatch.Host.Utility

/-- The text of a program in files. -/
def loadForm (c : Call) : List Bytes → Program (Option Bytes)
  | [] => return some []
  | file :: files => do
    match ← readFile file with
    | .ok text =>
      let rest ← loadForm c files
      return rest.map fun more => text ++ '\n' :: more
    | .error e =>
      c.complain ("cannot open \"".toList ++ file ++ "\" (".toList ++ wordsOf e ++ [')'])
      return none

/-- The state before anything has been done. -/
def Runner.start (c : Call) (operands : List Bytes) : Runner :=
  let text (s : String) : Cell := .text s.toList
  let settings : List (String × Cell) :=
    [("FS", text " "), ("OFS", text " "), ("RS", text "\n"), ("ORS", text "\n"),
      ("SUBSEP", text "\x1c"), ("CONVFMT", .text usualFormat), ("OFMT", .text usualFormat),
      ("NR", .number 0), ("FNR", .number 0), ("NF", .number 0), ("RSTART", .number 0),
      ("RLENGTH", .number (-1)), ("FILENAME", text ""), ("ARGC", .ofNat (operands.length + 1))]
  let r := settings.foldl (fun (r : Runner) s => r.setGlobal s.1 s.2) {}
  let words := (c.name :: operands).mapIdx fun i w => (digitsOf i, Cell.ofInput w)
  (r.fillTable "ARGV" words).fillTable "ENVIRON" (c.environment.map fun v => (v.1, .ofInput v.2))

/-- Gives up what is open, the newest first, and waits for what has been started. -/
def closeAll : Step Unit := do
  for p in (← get).outlets do
    let _ ← closeNamed p.1
  flushAll

/-- Performs a program on records. -/
def processRecords (perform : Performer) (c : Call) : Program Nat := do
  let t : OptionTable :=
    { plain := [], valued := ['F', 'v', 'f', 'W']
      long := [("field-separator", 'F'), ("assign", 'v'), ("file", 'f')], isStrict := true }
  match t.read (c.arguments.length + 1) c.arguments with
  | .error words => c.refuse 2 words
  | .ok o =>
    if o.has helpFlag then c.deliver (usageLine c.name) 0
    else if o.has versionFlag || o.value? 'W' = some "version".toList then
      c.deliver (line "mawk 1.3.4 20200120".toList) 0
    else
      let files := o.values 'f'
      let operands := if files = [] then o.operands.drop 1 else o.operands
      let loaded ← if files = [] then pure o.operands.head? else loadForm c files
      match loaded with
      | none =>
        if files = [] then
          let _ ← request (.write 2 (usageLine c.name))
        return 2
      | some text =>
        match readForm text with
        | .error m =>
          c.refuse 2 ("line ".toList ++ digitsOf m.line ++ ':' :: ' ' :: m.words)
        | .ok form =>
          let k : Plan := { call := c, perform := perform, form := form }
          let whole : Step Unit := do
            match o.value? 'F' with
            | some divider => assignArgument "FS".toList divider
            | none => pure ()
            for v in o.values 'v' do
              match assignmentArgument? v with
              | some (name, value) => assignArgument name value
              | none => throw (.fault ("improper assignment: -v ".toList ++ v))
            runForm k
            closeAll
          let (result, r) ← whole.run (Runner.start c operands)
          let failed (words : Bytes) : Program Nat := do
            c.complain words
            let _ ← closeAll.run r
            return 2
          match result with
          | .ok _ => return r.status
          | .error (.fault words) => failed words
          | .error (.atRun words) =>
            let place := "\n\tFILENAME=\"".toList ++ r.setting "FILENAME" ++ "\" FNR=".toList
              ++ r.setting "FNR" ++ " NR=".toList ++ r.setting "NR"
            failed ("run time error: ".toList ++ words ++ place)
          | .error _ => return r.status

end LinkWatch.Host.Record

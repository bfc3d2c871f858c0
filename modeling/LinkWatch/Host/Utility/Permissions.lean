import LinkWatch.Host.Kernel.Disk

/-!
# Permissions

Permissions are three bits for each of the owner, the group and all others, and three more. They are
given by octal digits or by clauses that change them, and written as letters.
-/

namespace LinkWatch.Host.Utility

open LinkWatch.Text LinkWatch.Host.Kernel

/-- How a clause changes permissions. -/
inductive ModeSign where
  | plus
  | minus
  | equal
  deriving DecidableEq, Repr

/-- What a clause gives. -/
inductive ModeGift where
  /-- Bits, of which only those of the classes that are meant count; and whether execution is given
  where a directory or any execution is. -/
  | bits (n : Nat) (executesSome : Bool)
  /-- The permissions of another class. -/
  | copyOf (shift : Nat)
  /-- Bits as they are. -/
  | exact (n : Nat)
  deriving DecidableEq, Repr

/-- A clause: the bits of the classes that are meant, or none if all are but for the mask. -/
structure ModeClause where
  classes : Option Nat
  sign : ModeSign
  gift : ModeGift
  deriving DecidableEq, Repr

/-- A change of permissions. -/
inductive ModeChange where
  | octal (n digits : Nat)
  | clauses (cs : List ModeClause)
  deriving DecidableEq, Repr

/-- The bits of a class, those of the extra three among them. -/
def classBits? (c : Char) : Option Nat :=
  match c with
  | 'u' => some 2496
  | 'g' => some 1080
  | 'o' => some 519
  | 'a' => some 4095
  | _ => none

/-- The value of octal digits. -/
def octal? (cs : Bytes) : Option Nat :=
  if cs ≠ [] && cs.all fun c => c.isDigit && c ≠ '8' && c ≠ '9' then some (readBased 8 cs).1
  else none

/-- Reads what a clause gives after its sign. -/
def readGift (cs : Bytes) : ModeGift × Bytes :=
  let digits := cs.takeWhile fun c => c.isDigit && c ≠ '8' && c ≠ '9'
  if digits ≠ [] then (.exact (readBased 8 digits).1, cs.drop digits.length)
  else
    match cs with
    | 'u' :: rest => (.copyOf 6, rest)
    | 'g' :: rest => (.copyOf 3, rest)
    | 'o' :: rest => (.copyOf 0, rest)
    | _ =>
      let letters := cs.takeWhile fun c => c ∈ ['r', 'w', 'x', 'X', 's', 't']
      let bit (c : Char) : Nat := match c with
        | 'r' => 292
        | 'w' => 146
        | 'x' => 73
        | 's' => 3072
        | 't' => 512
        | _ => 0
      (.bits (letters.foldl (fun n c => n ||| bit c) 0) (letters.contains 'X'),
        cs.drop letters.length)

/-- Reads the changes of one clause, of which there may be several for the same classes. -/
def readChanges (classes : Option Nat) : Nat → Bytes → Option (List ModeClause × Bytes)
  | 0, _ => none
  | fuel + 1, cs =>
    let go (sign : ModeSign) (rest : Bytes) : Option (List ModeClause × Bytes) :=
      let (gift, rest) := readGift rest
      let clause : ModeClause := ⟨classes, sign, gift⟩
      match rest with
      | [] => some ([clause], [])
      | ',' :: _ => some ([clause], rest)
      | _ => (readChanges classes fuel rest).map fun p => (clause :: p.1, p.2)
    match cs with
    | '+' :: rest => go .plus rest
    | '-' :: rest => go .minus rest
    | '=' :: rest => go .equal rest
    | _ => none

/-- Reads clauses between commas. -/
def readClauses : Nat → Bytes → Option (List ModeClause)
  | 0, _ => none
  | fuel + 1, cs =>
    let names := cs.takeWhile fun c => (classBits? c).isSome
    let bits := names.foldl (fun n c => n ||| (classBits? c).getD 0) 0
    let classes := if names = [] then none else some bits
    (readChanges classes (cs.length + 1) (cs.drop names.length)).bind fun (clauses, rest) =>
      match rest with
      | [] => some clauses
      | _ :: rest => (readClauses fuel rest).map (clauses ++ ·)

/-- Reads a change of permissions. -/
def ModeChange.ofText? (cs : Bytes) : Option ModeChange :=
  match octal? cs with
  | some n => if n ≤ 4095 then some (.octal n cs.length) else none
  | none => if cs = [] then none else (readClauses (cs.length + 1) cs).map .clauses

/-- The permissions after a clause. -/
def ModeClause.apply (k : ModeClause) (mask : Nat) (isDirectory : Bool) (mode : Nat) : Nat :=
  let affected := k.classes.getD 4095
  let value := match k.gift with
    | .exact n => n
    | .bits n executesSome =>
      (if executesSome && (isDirectory || mode &&& 73 ≠ 0) then n ||| 73 else n) &&& affected
    | .copyOf shift =>
      let three := mode >>> shift &&& 7
      (three * 73) &&& affected
  let value := match k.classes, k.gift with
    | some _, _ => value
    | none, .exact _ => value
    | none, _ => value &&& (4095 - mask)
  match k.sign with
  | .plus => mode ||| value
  | .minus => mode &&& (4095 - value)
  | .equal =>
    match k.gift with
    | .exact n => n
    | _ =>
      let kept := if isDirectory then 3072 else 0
      let cleared := affected &&& (4095 - kept)
      (mode &&& (4095 - cleared)) ||| value

/-- The permissions after a change. Short octal digits leave the extra bits of a directory. -/
def ModeChange.apply (m : ModeChange) (mask : Nat) (isDirectory : Bool) (mode : Nat) : Nat :=
  match m with
  | .octal n digits => if isDirectory && digits < 5 then n ||| (mode &&& 3072) else n
  | .clauses cs => cs.foldl (fun mode k => k.apply mask isDirectory mode) mode

/-- Three letters for the bits of one class. -/
def classLetters (bits : Nat) (isExtra : Bool) (extra : Char) : Bytes :=
  let x := bits % 2 = 1
  [if bits / 4 % 2 = 1 then 'r' else '-', if bits / 2 % 2 = 1 then 'w' else '-',
    if isExtra then (if x then extra else extra.toUpper) else if x then 'x' else '-']

/-- Permissions as nine letters. -/
def modeLetters (mode : Nat) : Bytes :=
  classLetters (mode / 64 % 8) (mode / 2048 % 2 = 1) 's'
    ++ classLetters (mode / 8 % 8) (mode / 1024 % 2 = 1) 's'
    ++ classLetters (mode % 8) (mode / 512 % 2 = 1) 't'

/-- The letter of a kind of node in lists. -/
def kindLetter : Kind → Char
  | .directory => 'd'
  | .file _ => '-'
  | .device _ => 'c'
  | .link _ => 'l'
  | .queue => 'p'

/-- Octal digits of permissions. -/
def octalDigits (n : Nat) : Bytes :=
  Nat.toDigits 8 n

/-- The size of a node in bytes. -/
def sizeOfNode (node : Node) : Nat :=
  match node.kind with
  | .directory => 4096
  | .file text => text.length
  | .link target => target.length
  | _ => 0

/-- The blocks of 512 bytes that a node takes. -/
def blocksOfNode (node : Node) : Nat :=
  match node.kind with
  | .directory => 8
  | .file text => (text.length + 4095) / 4096 * 8
  | _ => 0

end LinkWatch.Host.Utility

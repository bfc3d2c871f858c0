import LinkWatch.Host.Shell.State

/-!
# Limits

What a process may use up is limited, by a soft limit that counts and by a hard one up to which the
soft one may be raised. A missing number stands for no limit.
-/

namespace LinkWatch.Host.Shell

open LinkWatch.Text LinkWatch.Host.Kernel LinkWatch.Host.Utility

/-- A kind of limit: its letter, its name, the size of its unit, and how it is set at the start. -/
structure LimitKind where
  letter : Char
  name : String
  unit : Nat
  start : Limit

/-- All kinds of limits. -/
def limitKinds : List LimitKind :=
  let free : Limit := ⟨none, none⟩
  [⟨'t', "time(seconds)", 1, free⟩, ⟨'f', "file(blocks)", 512, free⟩,
    ⟨'d', "data(kbytes)", 1024, free⟩, ⟨'s', "stack(kbytes)", 1024, ⟨some 8388608, none⟩⟩,
    ⟨'c', "coredump(blocks)", 512, ⟨some 0, none⟩⟩, ⟨'m', "memory(kbytes)", 1024, free⟩,
    ⟨'l', "locked memory(kbytes)", 1024, ⟨some 8388608, some 8388608⟩⟩,
    ⟨'p', "process", 1, free⟩, ⟨'n', "nofiles", 1, ⟨some 1048576, some 1048576⟩⟩,
    ⟨'v', "vmemory(kbytes)", 1024, free⟩, ⟨'w', "locks", 1, free⟩,
    ⟨'r', "rtprio", 1, ⟨some 0, some 0⟩⟩]

/-- The limit of a kind as it is now. -/
def State.limit (s : State) (k : LimitKind) : Limit :=
  (s.limits.lookup k.letter).getD k.start

/-- Whether one limit is lower than another one. -/
def isLower (a b : Option Nat) : Bool :=
  match a, b with
  | some m, some n => m < n
  | some _, none => true
  | none, _ => false

/-- Sets a limit, or shows one or all of them. -/
def setLimit : Builtin := fun arguments =>
  withGiven "HSatfdscmlpnvwr".toList [] arguments fun g => do
    let s ← get
    let chosen := (g.options.filter fun o => !(o.1 ∈ ['H', 'S', 'a'])).getLast?.elim 'f' (·.1)
    let how := (g.options.filter fun o => o.1 ∈ ['H', 'S']).getLast?.map (·.1)
    let shown (k : LimitKind) : Bytes :=
      let l := s.limit k
      match if how = some 'H' then l.hard else l.soft with
      | none => "unlimited".toList
      | some n => digitsOf (n / k.unit)
    match g.operands with
    | [] =>
      if g.has 'a' then
        say (limitKinds.flatMap fun k =>
          let name := k.name.toList
          line (name ++ List.replicate (20 - name.length) ' ' ++ ' ' :: shown k)) 0
      else
        match limitKinds.find? fun k => k.letter = chosen with
        | some k => say (line (shown k)) 0
        | none => return 0
    | text :: others =>
      if g.has 'a' || others ≠ [] then fail "too many arguments".toList
      else if text ≠ "unlimited".toList && !text.all Char.isDigit then fail "bad number".toList
      else
        match limitKinds.find? fun k => k.letter = chosen with
        | none => return 0
        | some k =>
          let value := (natural? text).map (· * k.unit)
          let old := s.limit k
          let new : Limit :=
            ⟨if how = some 'H' then old.soft else value, if how = some 'S' then old.hard else value⟩
          let refuse (words : String) : Act Nat :=
            fail ("error setting limit (".toList ++ words.toList ++ [')'])
          if isLower new.hard new.soft then refuse "Invalid argument"
          else if isLower old.hard new.hard then refuse "Operation not permitted"
          else
            set { s with limits := (k.letter, new) :: s.limits.filter fun l => l.1 ≠ k.letter }
            return 0

end LinkWatch.Host.Shell

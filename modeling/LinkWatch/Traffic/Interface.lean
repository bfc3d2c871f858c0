import LinkWatch.Text.Split
import LinkWatch.Traffic.Counter

/-!
# Interfaces as the system shows them

The system lists its interfaces in no particular order, each with counters and addresses. A
reading sorts them by name, so that equally busy interfaces always rank in the same order. A
sequence of such lists, the last one repeated for ever, is a source of readings.

The system shows its counters as a table of text: two lines of headings, then a line for each
interface with its name, a colon, and sixteen numbers. The first number counts the bytes received,
the ninth the bytes sent. The table knows no addresses.
-/

namespace LinkWatch.Traffic

/-! ## Interfaces and readings -/

/-- An internet address. Only the version 4 form is ever shown. -/
inductive Address where
  | v4 (a b c d : UInt8)
  | v6 (text : String)
  deriving DecidableEq, Repr

/-- Whether a version 4 address reaches another machine; `127.0.0.0/8` does not. -/
def Address.isLoopback : Address → Bool
  | .v4 a _ _ _ => a == 127
  | .v6 _ => false

/-- The dotted form of a version 4 address. -/
def Address.dotted? : Address → Option String
  | .v4 a b c d => some s!"{a}.{b}.{c}.{d}"
  | .v6 _ => none

/-- One number of a dotted address, without leading zeros. -/
def octet? (cs : List Char) : Option UInt8 :=
  if cs ≠ [] && cs.all Char.isDigit && cs.length ≤ 3 && (cs.length = 1 || cs.head? ≠ some '0') then
    let n := cs.foldl (fun n c => n * 10 + (c.toNat - '0'.toNat)) 0
    if n < 256 then some (UInt8.ofNat n) else none
  else none

/-- Reads an address; what has no dotted form is taken as version 6. -/
def Address.ofString (s : String) : Address :=
  match (Text.pieces '.' s.toList).map octet? with
  | [some a, some b, some c, some d] => .v4 a b c d
  | _ => .v6 s

/-- The first address of a list that has a dotted form and is not a loopback address. -/
def firstAddress (addresses : List Address) : Option String :=
  addresses.findSome? fun a => if a.isLoopback then none else a.dotted?

/-- An interface with its counters and addresses. -/
structure Interface where
  name : String
  received : UInt64
  sent : UInt64
  addresses : List Address
  deriving DecidableEq, Repr

/-- The counters of an interface. -/
def Interface.counter (i : Interface) : Counter :=
  ⟨i.name, i.received, i.sent⟩

/-- All interfaces at one time, in the order in which the system lists them. -/
abbrev Frame := List Interface

/-- The counters of a frame, sorted by name. -/
def Frame.reading (f : Frame) : Reading :=
  (f.map Interface.counter).mergeSort fun a b => decide (a.name ≤ b.name)

/-- The addresses of a frame's interfaces, sorted by name. -/
def Frame.addresses (f : Frame) : Addresses :=
  (f.filterMap fun i => (firstAddress i.addresses).map fun a => (i.name, a)).mergeSort
    fun a b => decide (a.1 ≤ b.1)

/-! ## Frames as a source -/

/-- The system's interfaces over time: the frame seen last and the frames still to come. -/
structure InterfaceFeed where
  seen : Frame
  upcoming : List Frame
  deriving DecidableEq, Repr

/-- A new feed. It has already looked at the first frame, and the first reading looks at it again;
without frames there are no interfaces. -/
def InterfaceFeed.ofFrames (frames : List Frame) : InterfaceFeed :=
  ⟨frames.headD [], frames⟩

/-- Looks at the next frame; the last one repeats. -/
def InterfaceFeed.next (f : InterfaceFeed) : InterfaceFeed :=
  match f.upcoming with
  | [] => f
  | frame :: rest => ⟨frame, rest⟩

/-- Reads the counters of the next frame. -/
def InterfaceFeed.read (f : InterfaceFeed) : Reading × InterfaceFeed :=
  let f := f.next
  (f.seen.reading, f)

/-- The addresses of the frame seen last. -/
def InterfaceFeed.addresses (f : InterfaceFeed) : Addresses :=
  f.seen.addresses

/-! ## The table of devices -/

/-- The words of a line. -/
def wordsOf (line : List Char) : List (List Char) :=
  (Text.pieces ' ' line).filter (· ≠ [])

/-- A counter of the table. -/
def tableNumber (digits : List Char) : UInt64 :=
  UInt64.ofNat (digits.foldl (fun n c => n * 10 + (c.toNat - '0'.toNat)) 0)

/-- The interface of a line. -/
def Interface.ofTableLine? (line : List Char) : Option Interface :=
  match Text.cutAt? ':' line with
  | some (name, rest) =>
    match wordsOf rest with
    | received :: _ :: _ :: _ :: _ :: _ :: _ :: _ :: sent :: _ =>
      some ⟨String.ofList (Text.trim name), tableNumber received, tableNumber sent, []⟩
    | _ => none
  | none => none

/-- The interfaces of a table. -/
def Frame.ofTable (text : String) : Frame :=
  ((Text.lines text.toList).drop 2).filterMap Interface.ofTableLine?

end LinkWatch.Traffic

import LinkWatch.Fault
import LinkWatch.Files.Tree
import LinkWatch.Text.Bytes

/-!
# Disks

What processes share as files. Each location, a list of names from the root, leads to a node, and
several locations may lead to the same one. A link is a node that stands for another path. Walking a
path follows links, but not for ever. A node has permissions and a time; every process has a working
directory and a mask for the permissions of what it makes.
-/

namespace LinkWatch.Host.Kernel

open LinkWatch.Text LinkWatch.Files

/-- A list of names from the root. -/
abbrev Location := List Bytes

/-- What a node is. -/
inductive Kind where
  | directory
  | file (text : Bytes)
  | device (d : Device)
  | link (target : Bytes)
  /-- What is written by some is read by others. -/
  | queue
  deriving DecidableEq, Repr

/-- Something that is kept on a disk. -/
structure Node where
  kind : Kind
  /-- The permissions, as a number of twelve bits. -/
  mode : Nat
  /-- When it was changed, in nanoseconds. -/
  time : Nat := 0
  deriving DecidableEq, Repr

/-- All nodes, and what a process sees besides. A newer entry or node replaces an older one. -/
structure Disk where
  entries : List (Location × Nat)
  nodes : List (Nat × Node)
  /-- The number of the next node. -/
  fresh : Nat
  working : Location := []
  /-- The permissions that new nodes do not get. -/
  mask : Nat := 18
  /-- The time, in nanoseconds. -/
  now : Nat := 0

/-- The number of the root. -/
def rootNode : Nat := 0

/-- The longest path that the system takes, in bytes. -/
def longestPath : Nat := 4095

/-- How many links a path may lead through. -/
def mostLinks : Nat := 40

/-- Why nothing can be added to a directory, if that is so. -/
def sealedWith? : Location → Option OsError
  | ['p', 'r', 'o', 'c'] :: _ => some .notFound
  | ['s', 'y', 's'] :: _ => some .readOnly
  | _ => none

/-- The number of the node at a location. -/
def Disk.number? (d : Disk) (l : Location) : Option Nat :=
  if l = [] then some rootNode else d.entries.lookup l

/-- The node at a location, with its number. -/
def Disk.node? (d : Disk) (l : Location) : Option (Nat × Node) :=
  (d.number? l).bind fun n => (d.nodes.lookup n).map (n, ·)

/-- The disk with a node as it is now. -/
def Disk.setNode (d : Disk) (number : Nat) (node : Node) : Disk :=
  { d with nodes := d.nodes.map fun p => if p.1 = number then (number, node) else p }

/-- The disk with a new node at a location where nothing is. -/
def Disk.add (d : Disk) (l : Location) (kind : Kind) (mode : Nat) : Disk :=
  { d with
    entries := (l, d.fresh) :: d.entries
    nodes := (d.fresh, ⟨kind, mode, d.now⟩) :: d.nodes
    fresh := d.fresh + 1 }

/-- The permissions of a new node for which some are asked. -/
def Disk.masked (d : Disk) (mode : Nat) : Nat :=
  mode &&& (4095 - d.mask)

/-! ## Paths -/

/-- The names of a path; a slash at its end counts as a dot. -/
def namesOfPath (path : Bytes) : List Bytes :=
  let names := (pieces '/' path).filter (· ≠ [])
  if path.getLast? = some '/' then names ++ [['.']] else names

/-- What a path leads to: a location, and the node that may be there. -/
structure Goal where
  location : Location
  node? : Option (Nat × Node)

/-- Walks names from a location. The last one need not exist; if it is a link it may be kept. Fuel
bounds the steps, and the other number the links. -/
def Disk.walk (d : Disk) (keepsLast : Bool) :
    Nat → Nat → Location → List Bytes → Except OsError Goal
  | 0, _, _, _ => .error .tooManyLinks
  | _, _, l, [] => .ok ⟨l, d.node? l⟩
  | fuel + 1, links, l, name :: names =>
    match d.node? l with
    | some (_, ⟨.directory, _, _⟩) =>
      if name = ['.'] then d.walk keepsLast fuel links l names
      else if name = ['.', '.'] then d.walk keepsLast fuel links l.dropLast names
      else if longestName < name.length then .error .nameTooLong
      else
        let next := l ++ [name]
        match d.node? next with
        | none => if names = [] || names = [['.']] then .ok ⟨next, none⟩ else .error .notFound
        | some (_, ⟨.link target, _, _⟩) =>
          if keepsLast && names = [] then .ok ⟨next, d.node? next⟩
          else
            match links with
            | 0 => .error .tooManyLinks
            | links + 1 =>
              let start := if target.head? = some '/' then [] else l
              d.walk keepsLast fuel links start (namesOfPath target ++ names)
        | some _ => d.walk keepsLast fuel links next names
    | some _ => .error .notDirectory
    | none => .error .notFound

/-- Enough steps for every path. -/
def walkFuel : Nat := 200000

/-- What a path leads to, be there something or not. -/
def Disk.goal (d : Disk) (keepsLast : Bool) (path : Bytes) : Except OsError Goal :=
  if path = [] then .error .notFound
  else if longestPath < path.length then .error .nameTooLong
  else
    let start := if path.head? = some '/' then [] else d.working
    d.walk keepsLast walkFuel mostLinks start (namesOfPath path)

/-- What is at a path: its location, and the node with its number. -/
structure Found where
  location : Location
  number : Nat
  node : Node

/-- What is at a path. -/
def Disk.look (d : Disk) (keepsLast : Bool) (path : Bytes) : Except OsError Found :=
  match d.goal keepsLast path with
  | .error e => .error e
  | .ok ⟨l, some (n, node)⟩ => .ok ⟨l, n, node⟩
  | .ok ⟨_, none⟩ => .error .notFound

/-- What a path leads to, all links followed. -/
def Disk.find (d : Disk) (path : Bytes) : Except OsError Found :=
  d.look false path

/-- Whether a path leads to a directory. -/
def Disk.isDirectory (d : Disk) (path : Bytes) : Bool :=
  match d.find path with
  | .ok f => f.node.kind = .directory
  | .error _ => false

/-- The names of what a directory holds, in order. -/
def Disk.names (d : Disk) (l : Location) : List Bytes :=
  let size := l.length + 1
  let inside (p : Location) : Option Bytes :=
    if p.length = size && l.isPrefixOf p then p.getLast? else none
  let names := (d.entries.map (·.1)).filterMap inside
  names.mergeSort fun a b => !(b.map Char.toNat < a.map Char.toNat)

/-- The text of a location. -/
def locationText (l : Location) : Bytes :=
  if l = [] then ['/'] else l.flatMap fun name => '/' :: name

/-! ## Changes -/

/-- Makes a node where nothing may be yet. -/
def Disk.make (d : Disk) (path : Bytes) (kind : Kind) (mode : Nat) : Except OsError Disk :=
  match d.goal true path with
  | .error e => .error e
  | .ok ⟨_, some _⟩ => .error .exists
  | .ok ⟨l, none⟩ =>
    if path.getLast? = some '/' && kind ≠ .directory then .error .notFound
    else
      match sealedWith? l with
      | some e => .error e
      | none => .ok (d.add l kind mode)

/-- Makes a directory. -/
def Disk.makeDirectory (d : Disk) (path : Bytes) (mode : Nat) : Except OsError Disk :=
  d.make path .directory (d.masked mode)

/-- The disk without the entry at a location; below it there is nothing then. -/
def Disk.drop (d : Disk) (l : Location) : Disk :=
  { d with entries := d.entries.filter fun e => !l.isPrefixOf e.1 }

/-- Removes what is no directory. -/
def Disk.unlink (d : Disk) (path : Bytes) : Except OsError Disk :=
  match d.look true path with
  | .error e => .error e
  | .ok f =>
    if f.node.kind = .directory then .error .isDirectory
    else
      match sealedWith? f.location with
      | some _ => .error .notPermitted
      | none => .ok (d.drop f.location)

/-- Removes an empty directory. -/
def Disk.removeDirectory (d : Disk) (path : Bytes) : Except OsError Disk :=
  match d.look true path with
  | .error e => .error e
  | .ok f =>
    if f.node.kind ≠ .directory then .error .notDirectory
    else if (namesOfPath path).getLast? = some ['.'] && path.getLast? ≠ some '/' then
      .error .invalid
    else if d.names f.location ≠ [] then .error .notEmpty
    else .ok (d.drop f.location)

/-- Gives a node another location. What is there is replaced, but only a directory by a directory,
which has to be empty. -/
def Disk.rename (d : Disk) (source target : Bytes) : Except OsError Disk :=
  match d.look true source, d.goal true target with
  | .error e, _ => .error e
  | _, .error e => .error e
  | .ok f, .ok goal =>
    let isDirectory := f.node.kind = .directory
    let moved (d : Disk) : Disk :=
      { d with entries := d.entries.map fun e =>
          if f.location.isPrefixOf e.1 then (goal.location ++ e.1.drop f.location.length, e.2)
          else e }
    if f.location.isPrefixOf goal.location && f.location ≠ goal.location then .error .invalid
    else
      match goal.node? with
      | none => .ok (moved d)
      | some (n, node) =>
        if n = f.number then .ok d
        else if node.kind = .directory && !isDirectory then .error .isDirectory
        else if node.kind ≠ .directory && isDirectory then .error .notDirectory
        else if node.kind = .directory && d.names goal.location ≠ [] then .error .notEmpty
        else .ok (moved (d.drop goal.location))

/-- Gives a node a second location. -/
def Disk.join (d : Disk) (source target : Bytes) (follows : Bool) : Except OsError Disk :=
  match d.look (!follows) source, d.goal true target with
  | .error e, _ => .error e
  | _, .error e => .error e
  | .ok f, .ok goal =>
    if f.node.kind = .directory then .error .notPermitted
    else
      match goal.node? with
      | some _ => .error .exists
      | none => .ok { d with entries := (goal.location, f.number) :: d.entries }

/-- How many locations a node has. -/
def Disk.linkCount (d : Disk) (f : Found) : Nat :=
  if f.node.kind = .directory then
    2 + (d.entries.filter fun e =>
      e.1.length = f.location.length + 1 && f.location.isPrefixOf e.1 &&
        (d.nodes.lookup e.2).any fun node => node.kind = .directory).length
  else (d.entries.filter fun e => e.2 = f.number).length

/-- The contents of a node. -/
def Disk.contents (d : Disk) (number : Nat) : Bytes :=
  match d.nodes.lookup number with
  | some ⟨.file text, _, _⟩ => text
  | _ => []

/-- The disk with other contents of a file. -/
def Disk.fill (d : Disk) (number : Nat) (text : Bytes) : Disk :=
  match d.nodes.lookup number with
  | some node => d.setNode number { node with kind := .file text, time := d.now }
  | none => d

/-- Writes a file, which is made if it is not there. -/
def Disk.write (d : Disk) (path text : Bytes) : Except OsError Disk :=
  match d.goal false path with
  | .error e => .error e
  | .ok ⟨_, some (n, node)⟩ =>
    match node.kind with
    | .file _ => .ok (d.fill n text)
    | .device device => device.write.map fun _ => d
    | _ => .error .isDirectory
  | .ok ⟨l, none⟩ =>
    if path.getLast? = some '/' then .error .isDirectory
    else
      match sealedWith? l with
      | some e => .error e
      | none => .ok (d.add l (.file text) (d.masked 438))

/-- Makes a directory and those above it that are missing. -/
def Disk.makeAll (d : Disk) (path : Bytes) (mode : Nat) : Except OsError Disk :=
  let rec go : List Bytes → List Bytes → Disk → Except OsError Disk
    | _, [], d => .ok d
    | before, name :: names, d =>
      let path := joinWith ['/'] (before ++ [name])
      match d.makeDirectory path mode with
      | .ok d => go (before ++ [name]) names d
      | .error .exists =>
        if d.isDirectory path then go (before ++ [name]) names d
        else .error (if names = [] then .exists else .notDirectory)
      | .error e => .error e
  let names := (pieces '/' path).filter (· ≠ [])
  if path.head? = some '/' then go [[]] names d else go [] names d

end LinkWatch.Host.Kernel

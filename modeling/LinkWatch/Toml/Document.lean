import LinkWatch.Toml.Moment
import LinkWatch.Toml.Number
import LinkWatch.Toml.Quoted
import LinkWatch.Toml.Table

/-!
# Configuration documents

A document is a sequence of lines: headers, pairs of a key and a value, comments and blank lines.
An array runs over as many lines as it likes, a table in braces stays on one. Values stand within
each other less than eighty deep.
-/

namespace LinkWatch.Toml

/-! ## Values -/

/-- Reads a value that holds no other values. Whatever begins like a date is one. -/
def readScalar? (cs : List Char) : Option (Value × List Char) :=
  match cs with
  | '"' :: _ => (readText? cs).map fun p => (.text (String.ofList p.1), p.2)
  | '\'' :: _ => (readText? cs).map fun p => (.text (String.ofList p.1), p.2)
  | 't' :: 'r' :: 'u' :: 'e' :: rest => some (.boolean true, rest)
  | 'f' :: 'a' :: 'l' :: 's' :: 'e' :: rest => some (.boolean false, rest)
  | _ =>
    match readMoment? cs with
    | some rest => some (.moment, rest)
    | none =>
      match readFloating? cs with
      | some rest => some (.floating, rest)
      | none => (readInteger? cs).map fun p => (.integer p.1, p.2)

mutual

/-- Reads a value at some depth, with fuel for the values inside. -/
def readValue? (depth : Nat) : Nat → List Char → Option (Value × List Char)
  | 0, _ => none
  | fuel + 1, cs =>
    match cs with
    | '[' :: rest =>
      if depth + 1 < depthLimit then
        match skipBetween rest with
        | ']' :: rest => some (.array [], rest)
        | rest => (readItems? (depth + 1) fuel rest).map fun p => (.array p.1, p.2)
      else none
    | '{' :: rest =>
      if depth + 1 < depthLimit then
        match skipSpace rest with
        | '}' :: rest => some (.table [], rest)
        | rest =>
          match readPairs? (depth + 1) fuel rest with
          | some (pairs, rest) =>
            (addPairs pairs []).map fun entries => (.table (finishEntries entries), rest)
          | none => none
      else none
    | _ => readScalar? cs

/-- Reads the items of an array that is not empty, and its closing bracket. A comma may follow the
last item. -/
def readItems? (depth : Nat) : Nat → List Char → Option (List Value × List Char)
  | 0, _ => none
  | fuel + 1, cs =>
    match readValue? depth fuel cs with
    | none => none
    | some (item, rest) =>
      match skipBetween rest with
      | ']' :: rest => some ([item], rest)
      | ',' :: rest =>
        match skipBetween rest with
        | ']' :: rest => some ([item], rest)
        | rest => (readItems? depth fuel rest).map fun p => (item :: p.1, p.2)
      | _ => none

/-- Reads the pairs of a table in braces that is not empty, and its closing brace. -/
def readPairs? (depth : Nat) : Nat → List Char → Option (List Pair × List Char)
  | 0, _ => none
  | fuel + 1, cs =>
    match readKey? cs with
    | some ((path, key), '=' :: rest) =>
      match readValue? depth fuel (skipSpace rest) with
      | none => none
      | some (value, rest) =>
        match skipSpace rest with
        | '}' :: rest => some ([⟨path, key, value⟩], rest)
        | ',' :: rest => (readPairs? depth fuel rest).map fun p => (⟨path, key, value⟩ :: p.1, p.2)
        | _ => none
    | _ => none

end

/-- Reads a key, an equals sign and a value. Each value nested in another takes at least one
character, and reading it two steps. -/
def readPair (cs : List Char) : Option (Pair × List Char) :=
  match readKey? cs with
  | some ((path, key), '=' :: rest) =>
    (readValue? 0 (2 * rest.length + 2) (skipSpace rest)).map fun p => (⟨path, key, p.1⟩, p.2)
  | _ => none

/-! ## Lines -/

/-- Reads a header from behind its first bracket. -/
def readHeader? : List Char → Option (Header × List Char)
  | '[' :: rest =>
    match readKey? rest with
    | some ((path, name), ']' :: ']' :: rest) => some (.element path name, rest)
    | _ => none
  | rest =>
    match readKey? rest with
    | some ((path, name), ']' :: rest) => some (.table path name, rest)
    | _ => none

/-- Reads the rest of a document into sections: the open section's header and pairs, the last pair
first, with fuel for the lines. -/
def readLines? (header : Header) (pairs : List Pair) : Nat → List Char → Option (List Section)
  | 0, _ => none
  | fuel + 1, cs =>
    match skipSpace cs with
    | [] => some [⟨header, pairs.reverse⟩]
    | '[' :: rest =>
      match readHeader? rest with
      | none => none
      | some (next, rest) =>
        match endOfLine? rest with
        | none => none
        | some rest => (readLines? next [] fuel rest).map (⟨header, pairs.reverse⟩ :: ·)
    | c :: rest =>
      if c == '#' || c == '\n' || c == '\r' then
        match endOfLine? (c :: rest) with
        | none => none
        | some rest => readLines? header pairs fuel rest
      else
        match readPair (c :: rest) with
        | none => none
        | some (pair, rest) =>
          match endOfLine? rest with
          | none => none
          | some rest => readLines? header (pair :: pairs) fuel rest

/-- The text after a byte order mark. -/
def dropByteOrderMark : List Char → List Char
  | '\ufeff' :: rest => rest
  | cs => cs

/-- The entries of a document at its top level. -/
def parse? (cs : List Char) : Option (List (String × Value)) := do
  let cs := dropByteOrderMark cs
  let sections ← readLines? .start [] (cs.length + 1) cs
  let entries ← build sections
  return finishEntries entries

end LinkWatch.Toml

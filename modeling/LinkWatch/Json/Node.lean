import LinkWatch.Json.Numeral
import LinkWatch.Json.Quoted

/-!
# JSON documents

A document is a tree whose numbers and strings are kept as they are written, so that a part that
nobody asks for is checked for its form and nothing else. A document is read from a text, and
written on one line or on many.
-/

namespace LinkWatch.Json

/-- A document or a part of one. -/
inductive Node where
  | null
  | bool (b : Bool)
  | number (n : Numeral)
  /-- A string as it stands between its quotes. -/
  | string (body : List Char)
  | array (items : List Node)
  | object (members : List (List Char × Node))
  deriving Repr, Inhabited

/-- A string of a given text. -/
def Node.ofText (s : String) : Node :=
  .string (escape s.toList)

/-- A natural number. -/
def Node.ofNat (n : Nat) : Node :=
  .number (Numeral.ofNat n)

/-- A double; what is not finite becomes null. -/
def Node.ofFloat (x : Float) : Node :=
  match Numeral.ofFloat? x with
  | some n => .number n
  | none => .null

/-- An object with named members. -/
def Node.ofMembers (members : List (String × Node)) : Node :=
  .object (members.map fun m => (escape m.1.toList, m.2))

/-! ## Reading -/

/-- Whether a character may stand between the parts of a document. -/
def isSpace (c : Char) : Bool :=
  c == ' ' || c == '\t' || c == '\n' || c == '\r'

/-- The text from its first character that is not space. -/
def skipSpace (cs : List Char) : List Char :=
  cs.dropWhile isSpace

mutual

/-- Reads one value, with fuel for the values inside. -/
def readValue? : Nat → List Char → Option (Node × List Char)
  | 0, _ => none
  | fuel + 1, cs =>
    match skipSpace cs with
    | 'n' :: 'u' :: 'l' :: 'l' :: rest => some (.null, rest)
    | 't' :: 'r' :: 'u' :: 'e' :: rest => some (.bool true, rest)
    | 'f' :: 'a' :: 'l' :: 's' :: 'e' :: rest => some (.bool false, rest)
    | '"' :: rest => (readBody? rest).map fun p => (.string p.1, p.2)
    | '[' :: rest =>
      match skipSpace rest with
      | ']' :: rest => some (.array [], rest)
      | _ => (readItems? fuel rest).map fun p => (.array p.1, p.2)
    | '{' :: rest =>
      match skipSpace rest with
      | '}' :: rest => some (.object [], rest)
      | _ => (readMembers? fuel rest).map fun p => (.object p.1, p.2)
    | rest => (readNumeral? rest).map fun p => (.number p.1, p.2)

/-- Reads the values of an array that is not empty, and its closing bracket. -/
def readItems? : Nat → List Char → Option (List Node × List Char)
  | 0, _ => none
  | fuel + 1, cs =>
    match readValue? fuel cs with
    | none => none
    | some (item, rest) =>
      match skipSpace rest with
      | ']' :: rest => some ([item], rest)
      | ',' :: rest => (readItems? fuel rest).map fun p => (item :: p.1, p.2)
      | _ => none

/-- Reads the members of an object that is not empty, and its closing brace. -/
def readMembers? : Nat → List Char → Option (List (List Char × Node) × List Char)
  | 0, _ => none
  | fuel + 1, cs =>
    match skipSpace cs with
    | '"' :: rest =>
      match readBody? rest with
      | none => none
      | some (key, rest) =>
        match skipSpace rest with
        | ':' :: rest =>
          match readValue? fuel rest with
          | none => none
          | some (value, rest) =>
            match skipSpace rest with
            | '}' :: rest => some ([(key, value)], rest)
            | ',' :: rest => (readMembers? fuel rest).map fun p => ((key, value) :: p.1, p.2)
            | _ => none
        | _ => none
    | _ => none

end

/-- Reads a document: one value, and nothing after it but space. Each value nested in another takes
at least one character, and reading it two steps. -/
def Node.parse? (cs : List Char) : Option Node :=
  match readValue? (2 * cs.length + 2) cs with
  | some (node, rest) => if skipSpace rest = [] then some node else none
  | none => none

/-! ## Writing -/

/-- The texts with a separator between neighbours. -/
def joinWith (separator : List Char) : List (List Char) → List Char
  | [] => []
  | [t] => t
  | t :: u :: ts => t ++ separator ++ joinWith separator (u :: ts)

/-- A string with its quotes. -/
def quote (body : List Char) : List Char :=
  '"' :: body ++ ['"']

mutual

/-- The document on one line, without spaces. -/
def Node.compact : Node → List Char
  | .null => "null".toList
  | .bool true => "true".toList
  | .bool false => "false".toList
  | .number n => n.text
  | .string body => quote body
  | .array items => '[' :: joinWith [','] (compactItems items) ++ [']']
  | .object members => '{' :: joinWith [','] (compactMembers members) ++ ['}']

/-- The items of an array, each on one line. -/
def compactItems : List Node → List (List Char)
  | [] => []
  | item :: items => item.compact :: compactItems items

/-- The members of an object, each on one line. -/
def compactMembers : List (List Char × Node) → List (List Char)
  | [] => []
  | (key, value) :: members => (quote key ++ ':' :: value.compact) :: compactMembers members

end

/-- A line end and the space before a line at some depth. -/
def lineAt (depth : Nat) : List Char :=
  '\n' :: List.replicate (2 * depth) ' '

mutual

/-- The document with each item and member on a line of its own, indented by two spaces. -/
def Node.indented (depth : Nat) : Node → List Char
  | .array [] => "[]".toList
  | .array (item :: items) =>
    '[' :: lineAt (depth + 1)
      ++ joinWith (',' :: lineAt (depth + 1)) (indentedItems (depth + 1) (item :: items))
      ++ lineAt depth ++ [']']
  | .object [] => ['{', '}']
  | .object (member :: members) =>
    '{' :: lineAt (depth + 1)
      ++ joinWith (',' :: lineAt (depth + 1)) (indentedMembers (depth + 1) (member :: members))
      ++ lineAt depth ++ ['}']
  | .null => "null".toList
  | .bool true => "true".toList
  | .bool false => "false".toList
  | .number n => n.text
  | .string body => quote body

/-- The items of an array at some depth. -/
def indentedItems (depth : Nat) : List Node → List (List Char)
  | [] => []
  | item :: items => item.indented depth :: indentedItems depth items

/-- The members of an object at some depth. -/
def indentedMembers (depth : Nat) : List (List Char × Node) → List (List Char)
  | [] => []
  | (key, value) :: members =>
    (quote key ++ ':' :: ' ' :: value.indented depth) :: indentedMembers depth members

end

/-- The text of a document on one line. -/
def Node.text (n : Node) : String :=
  String.ofList n.compact

/-- The text of a document on many lines. -/
def Node.prettyText (n : Node) : String :=
  String.ofList (n.indented 0)

end LinkWatch.Json

import LinkWatch.Host.Kernel.Request

/-!
# The form of a script

A script is a sequence of commands. A simple command is made of words, other commands are made of
commands. A word is a sequence of parts: literal text, or something whose value is only known when
the command runs.

Some shells have a richer language than others. In it variables hold lists, values can be changed in
more ways, and there are commands for conditions and for arithmetic.
-/

namespace LinkWatch.Host.Shell

open LinkWatch.Text LinkWatch.Host.Kernel

/-- Which of the places that match a pattern are replaced. -/
inductive Extent where
  | first
  | every
  | atStart
  | atEnd
  deriving DecidableEq, Repr

/-- How letters are changed. -/
inductive Recasing where
  | upper
  | lower
  | swapped
  deriving DecidableEq, Repr

/-- What is done with the value of a parameter. -/
inductive Form where
  | plain
  | length
  /-- Another word if there is no value, as in `${x-w}`. -/
  | missing
  /-- Another word if there is no value; it becomes the value, as in `${x=w}`. -/
  | assigned
  /-- Another word if there is a value, as in `${x+w}`. -/
  | present
  /-- A message if there is no value, as in `${x?w}`. -/
  | demanded
  /-- The value without a part that matches a pattern, as in `${x%w}` and `${x#w}`. -/
  | trimmed (atEnd longest : Bool)
  /-- A part of the value from one place on, perhaps of a certain length, as in `${x:1:2}`. -/
  | sliced
  /-- The value with something else for what matches a pattern, as in `${x/p/w}`. -/
  | replaced (extent : Extent)
  /-- The value with other letters where they match a pattern, as in `${x^^p}`. -/
  | recased (how : Recasing) (every : Bool)
  /-- The value in a form named by a letter, as in `${x@Q}`. -/
  | shown (letter : Char)
  /-- The places of the values that a variable holds, as in `${!x[@]}`. -/
  | keys
  /-- The names of the variables that start like this, as in `${!x*}`. -/
  | named
  deriving DecidableEq, Repr

/-- What follows the commands of a branch. -/
inductive BranchEnd where
  | leaves
  /-- The commands of the next branch. -/
  | falls
  /-- The next branch whose pattern matches. -/
  | resumes
  deriving DecidableEq, Repr

mutual

/-- Which value of a variable is meant. -/
inductive Place where
  /-- The only one, or the one that stands for the variable. -/
  | usual
  /-- All of them, as one text where they are joined. -/
  | all (isJoined : Bool)
  | key (expression : List Part)

/-- A part of a word. -/
inductive Part where
  | text (cs : Bytes)
  | quoted (cs : Bytes)
  /-- Parts between double quotes. -/
  | group (parts : List Part)
  /-- The value of a parameter. With a colon, an empty value counts as none. -/
  | parameter (name : Bytes) (form : Form) (colon : Bool) (word : List Part)
  /-- The output of a command, with the text of a command in back quotes. -/
  | output (c : Command) (source : Option Bytes)
  | arithmetic (expression : List Part)
  /-- A value that nothing can be done with as it is asked for. -/
  | improper (text : Bytes)
  /-- A value of a variable, or of the one whose name that is. -/
  | chosen (name : Bytes) (isIndirect : Bool) (place : Place) (form : Form) (colon : Bool)
      (word : List Part) (other : Option (List Part))
  /-- The place of a value, in an assignment. -/
  | place (expression : List Part)
  /-- A list of values, in an assignment. -/
  | list (elements : List Word)
  /-- The path by which the output of a command is read, or its input written. -/
  | stream (isOutput : Bool) (c : Command)

/-- A value given to a variable, or to a place in it, or added to what is there. -/
inductive Assignment where
  | mk (name : Bytes) (key : Option (List Part)) (isAdded : Bool) (value : List Part)

/-- A change of the streams of a command. -/
inductive Redirection where
  /-- Opens a file, which may be one that exists even where the shell keeps such files. -/
  | file (descriptor : Nat) (opening : Opening) (isForced : Bool) (name : List Part)
  /-- Makes a descriptor the same as another one, which is written as for input or for output. -/
  | copy (descriptor : Nat) (isInput : Bool) (source : List Part)
  /-- A document given in the script, by its number. -/
  | document (descriptor number : Nat)
  /-- A word as a document. -/
  | supply (descriptor : Nat) (text : List Part)
  /-- Opens a file for the output and the messages. -/
  | both (opening : Opening) (name : List Part)
  /-- A change of a descriptor that is free, of which a variable tells the number. -/
  | named (name : Bytes) (r : Redirection)

/-- Commands for some patterns. -/
inductive Branch where
  | mk (patterns : List Word) (body : Command) (after : BranchEnd)

/-- A condition with operators of its own. -/
inductive Query where
  | sole (operator : String) (w : Word)
  | pair (operator : String) (a b : Word)
  | not (q : Query)
  | both (a b : Query)
  | either (a b : Query)
  /-- A condition between parentheses. -/
  | group (q : Query)

/-- A word. -/
inductive Word where
  | mk (parts : List Part)

/-- A command. -/
inductive Command where
  | nothing
  | simple (line : Nat) (assignments : List Assignment) (words : List Word)
      (redirections : List Redirection)
  | redirected (line : Nat) (c : Command) (redirections : List Redirection)
  | sequence (first second : Command)
  | both (first second : Command)
  | either (first second : Command)
  | negated (c : Command)
  | background (c : Command)
  | pipeline (commands : List Command)
  /-- A command run by a copy of the shell. -/
  | aside (c : Command)
  /-- A command between braces. -/
  | group (c : Command)
  | choice (condition yes no : Command)
  /-- Repeats while the condition comes out as wanted. -/
  | loop (wanted : Bool) (condition body : Command)
  | each (line : Nat) (name : Bytes) (words : List Word) (body : Command)
  | select (line : Nat) (word : Word) (branches : List Branch)
  /-- Repeats with steps of arithmetic. -/
  | rounds (line : Nat) (start condition step : List Part) (body : Command)
  | calculation (line : Nat) (expression : List Part)
  | query (line : Nat) (q : Query)
  /-- Runs a command and tells how long that took. -/
  | timed (isShort : Bool) (c : Command)
  /-- Lets one of some words be chosen, again and again. -/
  | menu (line : Nat) (name : Bytes) (words : List Word) (body : Command)
  | define (name : Bytes) (body : Command)
  /-- A command in the background that is written to and read from. -/
  | partner (line : Nat) (name : Bytes) (c : Command)

end

/-- The parts of a word. -/
def Word.parts : Word → List Part
  | .mk parts => parts

/-- The text of a word in which nothing is quoted and nothing has another value. -/
def plainText? (parts : List Part) : Option Bytes :=
  parts.foldr (fun p rest => match p, rest with
    | .text cs, some rest => some (cs ++ rest)
    | _, _ => none) (some [])

/-- The literal text of parts, quoted or not. -/
def literalText : List Part → Bytes
  | [] => []
  | .text cs :: rest => cs ++ literalText rest
  | .quoted cs :: rest => cs ++ literalText rest
  | .group inside :: rest => literalText inside ++ literalText rest
  | _ :: rest => literalText rest

/-- Whether something in a word is quoted. -/
def hasQuotes (parts : List Part) : Bool :=
  parts.any fun
    | .quoted _ => true
    | .group _ => true
    | _ => false

/-- The assignment that a word is. In the rich language a value may be added to what is there, and a
place may be named. -/
def assignment? (isRich : Bool) (parts : List Part) : Option Assignment :=
  let value (cs : Bytes) (rest : List Part) : List Part := if cs = [] then rest
    else .text cs :: rest
  match parts with
  | .text name :: .place key :: .text cs :: rest =>
    match cs with
    | '=' :: cs => some (.mk name (some key) false (value cs rest))
    | '+' :: '=' :: cs => some (.mk name (some key) true (value cs rest))
    | _ => none
  | .text cs :: rest =>
    match Text.cutAt? '=' cs with
    | some (name, cs) =>
      if isName name then some (.mk name none false (value cs rest))
      else if isRich && name.getLast? = some '+' && isName name.dropLast then
        some (.mk name.dropLast none true (value cs rest))
      else none
    | none => none
  | _ => none

end LinkWatch.Host.Shell

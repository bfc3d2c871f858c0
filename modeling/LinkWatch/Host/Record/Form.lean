import LinkWatch.Host.Utility.Regex

/-!
# The form of a program on records

A program is a list of rules, each of which does something with the records that its pattern
chooses. Records are divided into fields.
-/

namespace LinkWatch.Host.Record

open LinkWatch.Text LinkWatch.Host.Utility

/-- The operators of arithmetic. -/
inductive Arithmetic where
  | plus
  | minus
  | times
  | divided
  | remainder
  | power
  deriving DecidableEq, Repr

/-- The relations between two values. -/
inductive Relation where
  | less
  | atMost
  | equal
  | different
  | greater
  | atLeast
  deriving DecidableEq, Repr

/-- The functions that every program knows. -/
inductive Function where
  | length
  | substr
  | index
  | split
  | sub
  | gsub
  | match
  | sprintf
  | sine
  | cosine
  | arctangent
  | exponential
  | logarithm
  | squareRoot
  | integer
  | random
  | seed
  | lower
  | upper
  | system
  | close
  | flush
  | time
  deriving DecidableEq, Repr

/-- Where a record is read from. -/
inductive Origin where
  | main
  | file
  | command
  deriving DecidableEq, Repr

/-- An expression. -/
inductive Expression where
  | number (x : Float)
  | text (cs : Bytes)
  | pattern (r : Regex)
  | variable (name : Bytes)
  | element (name : Bytes) (index : List Expression)
  | field (number : Expression)
  /-- Gives something a value, perhaps one that an operator makes from the old one. -/
  | assign (target : Expression) (operator : Option Arithmetic) (value : Expression)
  | choice (condition yes no : Expression)
  | either (a b : Expression)
  | both (a b : Expression)
  | not (a : Expression)
  | negative (a : Expression)
  | positive (a : Expression)
  | arithmetic (operator : Arithmetic) (a b : Expression)
  | compare (relation : Relation) (a b : Expression)
  | matches (negated : Bool) (a b : Expression)
  | joined (a b : Expression)
  /-- Whether an array has an element. -/
  | holds (index : List Expression) (name : Bytes)
  /-- Changes something by one; the value is the new one or the old one. -/
  | step (target : Expression) (isNew : Bool) (up : Bool)
  | call (name : Bytes) (arguments : List Expression)
  | apply (f : Function) (arguments : List Expression)
  /-- Reads a record into something; the source is the file or the command if there is one. -/
  | read (target : Option Expression) (origin : Origin) (source : Expression)
  /-- Several values between parentheses. -/
  | several (values : List Expression)

/-- Where output goes. -/
inductive Direction where
  | standard
  | write
  | append
  | pipe
  deriving DecidableEq, Repr

/-- A statement. -/
inductive Statement where
  | expression (e : Expression)
  | print (values : List Expression) (direction : Direction) (target : Expression)
  | fill (values : List Expression) (direction : Direction) (target : Expression)
  | block (body : List Statement)
  | choice (condition : Expression) (yes no : Statement)
  /-- Repeats while a condition holds; it may be tested after each round only. -/
  | loop (testsFirst : Bool) (condition : Expression) (step body : Statement)
  /-- Repeats for each index of an array. -/
  | each (name array : Bytes) (body : Statement)
  | next
  | nextFile
  | exit (status : Option Expression)
  | return (value : Option Expression)
  | break
  | continue
  | remove (name : Bytes) (index : Option (List Expression))

/-- Which records a rule is for. -/
inductive Choice where
  | start
  | stop
  | always
  | condition (e : Expression)
  | range (first last : Expression)

/-- A rule. -/
structure Rule where
  choice : Choice
  body : List Statement

/-- A function of a program. -/
structure Definition where
  name : Bytes
  parameters : List Bytes
  body : List Statement

/-- A program. -/
structure Form where
  rules : List Rule := []
  definitions : List Definition := []

/-- A program that cannot be read: the line, and what is wrong. -/
structure Mistake where
  line : Nat
  words : Bytes

end LinkWatch.Host.Record

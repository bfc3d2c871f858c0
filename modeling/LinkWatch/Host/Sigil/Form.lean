import LinkWatch.Text.Bytes

/-!
# Programs with marked names

In these programs the name of a variable carries a mark that tells what it holds: one value, a list
of values, or a table of values by keys. The same mark before a link stands for what the link leads
to.
-/

namespace LinkWatch.Host.Sigil

open LinkWatch.Text

mutual

/-- Something that holds values. -/
inductive Holder where
  | named (name : Bytes)
  /-- What a link leads to. -/
  | behind (link : Term)

/-- An expression for matching, with its flags. -/
inductive Pattern where
  | mk (text : Term) (flags : Bytes)

/-- An expression. -/
inductive Term where
  | text (cs : Bytes)
  | whole (n : Int)
  | real (x : Float)
  /-- The texts of some values put together. -/
  | joined (parts : List Term)
  /-- A list as a part of a text. -/
  | spread (e : Term)
  /-- What has a mark: one value, a list, a table, a routine, or the last index of a list. -/
  | held (mark : Char) (h : Holder)
  /-- A part of a list or a table, or several parts of it. -/
  | part (mark : Char) (isTable : Bool) (h : Holder) (index : Term)
  /-- Some of the values of an expression. -/
  | pick (values indices : Term)
  | several (es : List Term)
  | newList (es : List Term)
  | newTable (es : List Term)
  | closure (body : List Statement)
  /-- A variable with the word that declares it. -/
  | declared (word : String) (e : Term)
  | store (target value : Term)
  | update (operator : String) (target value : Term)
  /-- An operator or a function of the language. -/
  | apply (name : String) (es : List Term)
  | matched (p : Pattern) (target : Option Term) (isNegated : Bool)
  | replaced (p : Pattern) (replacement : Term) (target : Option Term)
  | exchanged (first second flags : Bytes) (target : Option Term)
  /-- A routine of the program; it may be given the arguments of the present one. -/
  | call (name : Bytes) (es : List Term) (passesOn : Bool)
  | perform (code : Term) (es : List Term)
  /-- A function that is given statements and values. -/
  | through (name : String) (body : List Statement) (es : List Term)
  | write (name : String) (conduit : Option Term) (es : List Term)
  /-- A line from a conduit, or from the files of the arguments. -/
  | input (conduit : Option Term)
  | block (body : List Statement)
  | attempt (body : List Statement)

/-- A statement. -/
inductive Statement where
  | plain (line : Nat) (e : Term)
  | block (label : Bytes) (body : List Statement)
  | branch (line : Nat) (cases : List (Term × List Statement)) (otherwise : List Statement)
  /-- Repeats statements as long as a condition holds; others are run after each round. -/
  | loop (label : Bytes) (line : Nat) (start : Option Term) (condition : Option Term)
      (after : List Statement) (body : List Statement)
  /-- Runs statements once, and again as long as a condition holds. -/
  | again (line : Nat) (body : List Statement) (condition : Term)
  | each (label : Bytes) (line : Nat) (target values : Term) (body : List Statement)
  | routine (name : Bytes) (body : List Statement)
  /-- Statements for the very start or the very end. -/
  | phase (isEnd : Bool) (body : List Statement)

end

/-- The variable that is meant if none is named. -/
def topic : Term :=
  .held '$' (.named ['_'])

/-- Whether an expression stands for a list where it is given values. -/
def Term.isPlural : Term → Bool
  | .several _ => true
  | .held mark _ => mark = '@' || mark = '%'
  | .part mark _ _ _ => mark = '@'
  | .declared _ e => e.isPlural
  | _ => false

end LinkWatch.Host.Sigil

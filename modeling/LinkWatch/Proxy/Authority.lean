import LinkWatch.Text.Split

/-!
# The host of a proxy address

A proxy address is a URL or a bare `host[:port]`, which is read as an `http` URL. Its host is what
stands between the scheme and the path, without user information. Whatever does not have this form
has the empty host.
-/

namespace LinkWatch.Proxy

open LinkWatch.Text

/-- A character that may stand in a scheme after its first letter. -/
def isSchemeChar (c : Char) : Bool :=
  c.isAlphanum || c == '+' || c == '-' || c == '.'

/-- A scheme: a letter, then letters, digits and `+ - .`. -/
def isScheme : List Char → Bool
  | [] => false
  | c :: cs => c.isAlpha && cs.all isSchemeChar

/-- A character that ends the authority of a URL. -/
def endsAuthority (c : Char) : Bool :=
  c == '/' || c == '?' || c == '#'

/-- A port after its colon: digits, possibly none. -/
def isPort (cs : List Char) : Bool :=
  cs.all Char.isDigit

/-- What may follow a bracketed address: nothing, or a colon and a port. -/
def isPortSuffix : List Char → Bool
  | [] => true
  | c :: cs => c == ':' && isPort cs

/-- A host: a bracketed address with an optional port, or a text in which a port follows the last
colon. It is not empty and holds no blank and no control character. -/
def isHost : List Char → Bool
  | [] => false
  | c :: cs =>
    (c :: cs).all (fun x => !isBlank x && !isControl x) &&
      if c = '[' then
        match cutAt? ']' cs with
        | some (inner, after) => inner != [] && isPortSuffix after
        | none => false
      else
        match afterLast? ':' (c :: cs) with
        | some port => isPort port
        | none => true

/-- The part of a URL after its scheme, if the scheme is a proper one. A text without `://` has no
scheme to be checked. -/
def withoutScheme? (url : List Char) : Option (List Char) :=
  match cut? [':', '/', '/'] url with
  | some (scheme, rest) => if isScheme scheme then some rest else none
  | none => some url

/-- The part of an authority after its user information. -/
def withoutUser (authority : List Char) : List Char :=
  (afterLast? '@' authority).getD authority

/-- The host of a trimmed URL, proper or not. -/
def hostPart? (url : List Char) : Option (List Char) :=
  (withoutScheme? url).map fun rest => withoutUser (rest.takeWhile fun c => !endsAuthority c)

/-- The host of a proxy address, or the empty text. -/
def hostChars (raw : List Char) : List Char :=
  match hostPart? (trim raw) with
  | some host => if isHost host then host else []
  | none => []

/-- The host of a proxy address, or the empty string. -/
def hostOf (raw : String) : String :=
  String.ofList (hostChars raw.toList)

/-- A host with its port. Without a host there is nothing; a port that is not a number is left
out. -/
def joinChars (host port : List Char) : List Char :=
  let host := trim host
  let port := trim port
  if host = [] then []
  else if port ≠ [] && isPort port then host ++ ':' :: port
  else host

/-- A host with its port, as strings. -/
def joinHostPort (host port : String) : String :=
  String.ofList (joinChars host.toList port.toList)

end LinkWatch.Proxy

import LinkWatch.Proxy.Authority
import LinkWatch.Proxy.Status

/-!
# The system's proxy dictionary

The system prints its proxy settings as a dictionary, one `key : value` to a line. The value of a
key is read from the first line that starts with it; brackets, nesting and damaged lines mean
nothing, so a dump that was cut short only has fewer entries.
-/

namespace LinkWatch.Proxy

open LinkWatch.Text

/-- The value of a key, if some line has it. -/
def value? (text key : List Char) : Option (List Char) :=
  (lines text).findSome? fun line =>
    (stripPrefix? (key ++ [' ', ':']) (trim line)).map trim

/-- The value of a key, or the empty text. -/
def value (text key : List Char) : List Char :=
  (value? text key).getD []

/-- The value of a key, as a string. -/
def valueText (text key : String) : String :=
  String.ofList (value text.toList key.toList)

/-- Whether the value of a key is `1`. -/
def isOn (text key : List Char) : Bool :=
  value text key == ['1']

/-- Where the dictionary keeps a proxy of one kind. -/
structure ManualKeys where
  kind : Kind
  enable : String
  host : String
  port : String

/-- The kinds that are set by hand, in order of precedence. -/
def manualKeys : List ManualKeys := [
  ⟨.socks, "SOCKSEnable", "SOCKSProxy", "SOCKSPort"⟩,
  ⟨.https, "HTTPSEnable", "HTTPSProxy", "HTTPSPort"⟩,
  ⟨.http, "HTTPEnable", "HTTPProxy", "HTTPPort"⟩]

/-- A host, or what is shown where it is empty. -/
def hostOr (fallback : String) (host : List Char) : String :=
  if host = [] then fallback else String.ofList host

/-- The status of a kind that is set by hand, if it is on. -/
def manualStatus? (text : List Char) (keys : ManualKeys) : Option Status :=
  if isOn text keys.enable.toList then
    let host := joinChars (value text keys.host.toList) (value text keys.port.toList)
    some (.found keys.kind (hostOr "System Proxy" host))
  else none

/-- The status of an automatic configuration script, if it is on. -/
def scriptStatus? (text : List Char) : Option Status :=
  if isOn text "ProxyAutoConfigEnable".toList then
    let host := hostChars (value text "ProxyAutoConfigURLString".toList)
    some (.found .pac (hostOr "PAC" host))
  else none

/-- The status of automatic discovery, if it is on. -/
def discoveryStatus? (text : List Char) : Option Status :=
  if isOn text "ProxyAutoDiscoveryEnable".toList then some (.found .wpad "Auto Discovery") else none

/-- The status that a dictionary asks for: a proxy set by hand before a script, and a script before
discovery. -/
def dictionaryStatus? (text : List Char) : Option Status :=
  if isBlankText text then none
  else (manualKeys.findSome? (manualStatus? text)).or
    ((scriptStatus? text).or (discoveryStatus? text))

/-- The status that a dictionary text asks for. -/
def fromDictionary (text : String) : Option Status :=
  dictionaryStatus? text.toList

end LinkWatch.Proxy

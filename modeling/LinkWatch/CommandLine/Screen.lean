import LinkWatch.Decimal.Fixed
import LinkWatch.Document.Report

/-!
# Output

A report is shown as a few lines for people, or as one line of JSON. A status is shown as one line,
or as indented JSON.
-/

namespace LinkWatch.CommandLine

open LinkWatch.Proxy LinkWatch.Traffic

/-- How output is written. -/
inductive Style where
  | plain
  | json
  deriving DecidableEq, Repr

/-- The style of a name. Every name but `json` stands for plain lines. -/
def Style.ofName (name : String) : Style :=
  if name = "json" then .json else .plain

/-- A text as a line of its own. -/
def line (text : String) : String :=
  text ++ "\n"

/-- The time of day after so many seconds since a midnight. -/
def timeOfDay (seconds : Nat) : String :=
  let two (n : Nat) : String := String.ofList (Decimal.padLeft 2 '0' (Nat.toDigits 10 n))
  two (seconds / 3600 % 24) ++ ":" ++ two (seconds / 60 % 60) ++ ":" ++ two (seconds % 60)

/-- A rate with two places, set to the right in eight columns. -/
def rateColumn (x : Float) : String :=
  String.ofList (Decimal.padLeft 8 ' ' (Decimal.fixed x 2))

/-- A name set to the left in ten columns; a longer one is written in full. -/
def nameColumn (name : String) : String :=
  String.ofList (Decimal.padRight 10 ' ' name.toList)

/-- The line of an interface. -/
def interfaceLine (t : Throughput) : String :=
  line ("  " ++ nameColumn t.name ++ " ↓" ++ rateColumn t.receiving ++ " MB/s  ↑"
    ++ rateColumn t.sending ++ " MB/s  " ++ t.address.getD "-")

/-- The line of a status. -/
def proxyLine (s : Status) : String :=
  line ("Proxy: " ++ s.display)

/-- A report in plain lines, headed by the time of day. -/
def plainReport (stamp : String) (r : Report) : String :=
  let interfaces :=
    if r.networks.isEmpty then line "  (no active interfaces)"
    else String.join (r.networks.map interfaceLine)
  line ("=== " ++ stamp ++ " ===") ++ interfaces ++ "  " ++ proxyLine r.proxy

/-- The text of a report. -/
def reportText (style : Style) (stamp : String) (r : Report) : String :=
  match style with
  | .plain => plainReport stamp r
  | .json => line r.toNode.text

/-- The text of a status. -/
def statusText (style : Style) (s : Status) : String :=
  match style with
  | .plain => proxyLine s
  | .json => line s.toNode.prettyText

/-- The text that shows the version. -/
def versionText : String :=
  line "netpulse 0.1.0"

/-- The text that shows the usage. -/
def usageText : String :=
  line "Usage: netpulse [OPTIONS] [watch|proxy|config]"

end LinkWatch.CommandLine

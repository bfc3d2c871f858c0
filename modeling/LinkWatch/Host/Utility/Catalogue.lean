import LinkWatch.Host.Record.Start
import LinkWatch.Host.Sigil.Start
import LinkWatch.Host.Utility.Arguments
import LinkWatch.Host.Utility.Batch
import LinkWatch.Host.Utility.Blocks
import LinkWatch.Host.Utility.Chance
import LinkWatch.Host.Utility.Charset
import LinkWatch.Host.Utility.Circumstance
import LinkWatch.Host.Utility.Comparing
import LinkWatch.Host.Utility.Count
import LinkWatch.Host.Utility.Date
import LinkWatch.Host.Utility.DigestList
import LinkWatch.Host.Utility.Discovery
import LinkWatch.Host.Utility.Editing
import LinkWatch.Host.Utility.Encoding
import LinkWatch.Host.Utility.Environment
import LinkWatch.Host.Utility.Excerpt
import LinkWatch.Host.Utility.Expression
import LinkWatch.Host.Utility.Factors
import LinkWatch.Host.Utility.Fields
import LinkWatch.Host.Utility.Layout
import LinkWatch.Host.Utility.Listing
import LinkWatch.Host.Utility.Numbering
import LinkWatch.Host.Utility.Packing
import LinkWatch.Host.Utility.Pages
import LinkWatch.Host.Utility.Pairing
import LinkWatch.Host.Utility.Paragraph
import LinkWatch.Host.Utility.Parts
import LinkWatch.Host.Utility.Precedence
import LinkWatch.Host.Utility.Repetition
import LinkWatch.Host.Utility.Scaling
import LinkWatch.Host.Utility.Search
import LinkWatch.Host.Utility.Station
import LinkWatch.Host.Utility.Tabs

/-!
# The installed programs by name
-/

namespace LinkWatch.Host.Utility

open LinkWatch.Text LinkWatch.Host.Kernel LinkWatch.Host.Record

/-- What an installed program of a name does, apart from the shells. Programs that start others are
told how these perform. -/
def utility (perform : Performer) (name : String) (c : Call) : Program Nat :=
  let lacking (status : Nat) (words : String) (_ : Options) : Program Nat :=
    c.misuse status words.toList
  match name with
  | "true" => return 0
  | "false" => return 1
  | "echo" => c.deliver (echoPlain c.arguments) 0
  | "printf" => printFormatted c
  | "test" => testCondition c
  | "[" => testCondition c
  | "cat" => cat c
  | "tee" => tee c
  | "yes" => yes c
  | "nl" => numberLines c
  | "tac" => reverseLines c
  | "rev" => turnLines c
  | "fold" => fold c
  | "pr" => layOutPages c
  | "fmt" => fillParagraphs c
  | "expand" => expand c
  | "unexpand" => unexpand c
  | "head" => head c
  | "tail" => tail c
  | "wc" => wordCount c
  | "tr" => exchange c
  | "cut" => cut c
  | "paste" => paste c
  | "sort" => sort c
  | "uniq" => unique c
  | "tsort" => orderNames c
  | "comm" => compareFiles c
  | "join" => joinFiles c
  | "diff" => showDifferences false c
  | "sdiff" => showDifferences true c
  | "cmp" => showDifference c
  | "base64" => convertLetters alphabet64 c
  | "base32" => convertLetters alphabet32 c
  | "basenc" => convertChosen c
  | "iconv" => convertCharacters c
  | "od" => dump c
  | "md5sum" => showDigests "md5" c
  | "sha1sum" => showDigests "sha1" c
  | "sha224sum" => showDigests "sha224" c
  | "sha256sum" => showDigests "sha256" c
  | "sha384sum" => showDigests "sha384" c
  | "sha512sum" => showDigests "sha512" c
  | "b2sum" => showDigests "blake2b" c
  | "cksum" => showChecksums c
  | "sum" => showSums c
  | "gzip" => packFiles false false c
  | "gunzip" => packFiles true false c
  | "uncompress" => packFiles true false c
  | "zcat" => packFiles true true c
  | "factor" => showFactors c
  | "seq" => series c
  | "numfmt" => convertNumbers c
  | "sleep" => sleep c
  | "basename" => baseName c
  | "dirname" => directoryName c
  | "expr" => evaluateWords c
  | "date" => date c
  | "sed" => edit perform c
  | "awk" => processRecords perform c
  | "mawk" => processRecords perform c
  | "nawk" => processRecords perform c
  | "dd" => copyBlocks c
  | "split" => cutFile perform c
  | "csplit" => cutAtLines c
  | "shuf" => mixLines c
  | "getopt" => arrangeArguments c
  | "perl" => Sigil.runScript perform c
  | "grep" => search 'G' false c
  | "egrep" => search 'E' false c
  | "fgrep" => search 'F' false c
  | "rgrep" => search 'G' true c
  | "env" => withEnvironment perform c
  | "printenv" => showEnvironment c
  | "timeout" => limitTime perform c
  | "xargs" => forInput perform c
  | "nohup" => launchAfter [] [] 125 asCommand (lacking 125 "missing operand") perform
      (request (.handle 1 .ignored)) c
  | "nice" =>
    let alone (o : Options) : Program Nat :=
      if o.has 'n' then lacking 125 "a command must be given with an adjustment" o
      else c.deliver (line ['0']) 0
    launchAfter ['n'] [] 125 inQuotes alone perform (return ()) c
  | "setsid" =>
    launchAfter [] ['c', 'f', 'w'] 1 ("failed to execute ".toList ++ ·)
      (lacking 1 "no command specified") perform (request .lead) c
  | "stdbuf" => launchAfter ['i', 'o', 'e'] [] 125 asCommand (lacking 125 "missing operand") perform
      (return ()) c
  | "taskset" => onProcessors perform c
  | "ionice" => withPriority perform c
  | "chrt" => withTurns perform c
  | "setarch" => asMachine perform c
  | "linux32" => asMachine perform { c with arguments := name.toList :: c.arguments }
  | "linux64" => asMachine perform { c with arguments := name.toList :: c.arguments }
  | "i386" => asMachine perform { c with arguments := name.toList :: c.arguments }
  | "x86_64" => asMachine perform { c with arguments := name.toList :: c.arguments }
  | "prlimit" => withinLimits perform c
  | "unshare" => withOwnSpaces perform c
  | "setpriv" => withPrivileges perform c
  | "flock" => whileLocked perform c
  | "uname" => systemName c
  | "id" => identity c
  | "whoami" => constant "root" c
  | "arch" => constant "x86_64" c
  | "nproc" => constant "1" c
  | "hostname" => constant "localhost" c
  | "logname" => c.refuse 1 "no login name".toList
  | "tty" => terminalName c
  | "pwd" => workingDirectory c
  | "which" => showPrograms c
  | "kill" => sendSignals c
  | "ls" => listFiles [] c
  | "dir" => listFiles ['C', 'b'] c
  | "vdir" => listFiles ['l', 'b'] c
  | "mkdir" => makeDirectories c
  | "rmdir" => removeDirectories c
  | "rm" => removeFiles c
  | "unlink" => unlinkFile c
  | "link" => linkFile c
  | "ln" => makeLinks c
  | "chmod" => changeModes c
  | "chown" => changeOwners c
  | "chgrp" => changeOwners c
  | "mkfifo" => makeQueues c
  | "install" => installFiles c
  | "truncate" => truncateFiles c
  | "touch" => touchFiles c
  | "cp" => copyFiles c
  | "mv" => moveFiles c
  | "mktemp" => makeTemporary c
  | "find" => findFiles perform c
  | "readlink" => readLinks c
  | "realpath" => realPaths c
  | "stat" => showKnown c
  | "du" => showRoom c
  | "pathchk" => checkPaths c
  | "groups" => constant "root" c
  | "getconf" => tellSystemValue c
  | "locale" => tellLanguage c
  | "clear" => clearTerminal c
  | "tput" => tellCapability c
  | "stty" => setTerminal c
  | "mountpoint" => tellMounted c
  | "more" => showPages c
  | "whereis" => tellPlaces c
  | "shred" => shredFiles c
  | "users" => return 0
  | "who" => return 0
  | "sync" => return 0
  | _ => return 1

end LinkWatch.Host.Utility

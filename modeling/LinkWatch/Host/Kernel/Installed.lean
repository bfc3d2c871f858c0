import LinkWatch.Host.Kernel.Disk

/-!
# What is installed

The disk of the system: its directories, the programs that can be started, and a few other files
that scripts may name. A file can be started if its permissions allow it; a text that is started
names the program that reads it.
-/

namespace LinkWatch.Host.Kernel

open LinkWatch.Text LinkWatch.Files

/-- The names of the shells. -/
def shellNames : List String :=
  ["sh", "dash", "bash", "rbash"]

/-- The programs that are installed besides the shells. -/
def utilityNames : List String :=
  ["[", "addpart", "arch", "awk", "b2sum", "base32", "base64", "basename", "basenc", "bunzip2",
    "bzcat", "bzip2", "captoinfo", "cat", "chage", "chattr", "chcon", "chgrp", "chmod", "chown",
    "chrt", "cksum", "clear", "cmp", "comm", "cp", "csplit", "cut", "date", "dd", "df", "diff",
    "diff3", "dir", "dircolors", "dirname", "dmesg", "dnsdomainname", "domainname", "dpkg", "du",
    "echo", "egrep", "env", "expand", "expr", "factor", "fallocate", "false", "fgrep", "find",
    "findmnt", "flock", "fmt", "fold", "free", "getconf", "getent", "getopt", "grep", "groups",
    "gunzip", "gzip", "head", "hostid", "hostname", "i386", "iconv", "id", "infocmp", "install",
    "ionice", "ipcs", "ischroot", "join", "kill", "last", "ldd", "link", "linux32", "linux64", "ln",
    "locale", "logger", "login", "logname", "ls", "lsattr", "lsblk", "lscpu", "mawk", "mcookie",
    "md5sum", "mkdir", "mkfifo", "mknod", "mktemp", "more", "mount", "mountpoint", "mv", "namei",
    "nawk", "nice", "nisdomainname", "nl", "nohup", "nproc", "nsenter", "numfmt", "od", "passwd",
    "paste", "pathchk", "perl", "pidof", "pinky", "pr", "printenv", "printf", "prlimit", "ps",
    "ptx", "pwd", "readlink", "realpath", "renice", "reset", "rev", "rgrep", "rm", "rmdir",
    "run-parts", "savelog", "script", "sdiff", "sed", "seq", "setarch", "setpriv", "setsid",
    "sha1sum", "sha224sum", "sha256sum", "sha384sum", "sha512sum", "shred", "shuf", "sleep", "sort",
    "split", "stat", "stdbuf", "stty", "su", "sum", "sync", "tabs", "tac", "tail", "tar", "taskset",
    "tee", "tempfile", "test", "tic", "timeout", "toe", "touch", "tput", "tr", "true", "truncate",
    "tset", "tsort", "tty", "umount", "uname", "uncompress", "unexpand", "uniq", "unlink",
    "unshare", "users", "vdir", "wc", "whereis", "which", "who", "whoami", "x86_64", "xargs", "yes",
    "ypdomainname", "zcat", "zcmp", "zdiff", "zdump", "zegrep", "zfgrep", "zgrep"]

/-- The directories of the system. -/
def systemDirectories : List String :=
  ["/boot", "/dev", "/dev/fd", "/dev/pts", "/dev/shm", "/etc", "/etc/default", "/etc/init.d",
    "/etc/ssl", "/home", "/media", "/mnt", "/opt", "/proc", "/proc/self", "/proc/sys", "/root",
    "/run", "/run/lock", "/srv", "/sys", "/tmp", "/usr", "/usr/bin", "/usr/games", "/usr/include",
    "/usr/lib", "/usr/lib64", "/usr/libexec", "/usr/local", "/usr/local/bin", "/usr/local/etc",
    "/usr/local/include", "/usr/local/lib", "/usr/local/sbin", "/usr/local/share", "/usr/local/src",
    "/usr/sbin", "/usr/share", "/usr/share/doc", "/usr/src", "/var", "/var/cache", "/var/lib",
    "/var/log", "/var/tmp", "/work"]

/-- Links of the system with their targets. -/
def systemLinks : List (String × String) :=
  [("/bin", "usr/bin"), ("/sbin", "usr/sbin"), ("/lib", "usr/lib"), ("/lib64", "usr/lib64"),
    ("/etc/os-release", "../usr/lib/os-release"), ("/var/run", "/run"), ("/var/lock", "/run/lock"),
    ("/usr/local/man", "share/man")]

/-- The devices. -/
def systemDevices : List (String × Device) :=
  [("/dev/null", .null), ("/dev/stdin", .null), ("/dev/stdout", .null), ("/dev/stderr", .null),
    ("/dev/zero", .endless), ("/dev/random", .endless), ("/dev/urandom", .endless),
    ("/dev/full", .full), ("/dev/tty", .absent), ("/dev/ptmx", .absent), ("/dev/console", .absent)]

/-- Files that exist and are not programs. -/
def ordinaryFiles : List (String × String) :=
  [("/etc/passwd", "root:x:0:0:root:/root:/bin/bash
daemon:x:1:1:daemon:/usr/sbin:/usr/sbin/nologin
bin:x:2:2:bin:/bin:/usr/sbin/nologin
sys:x:3:3:sys:/dev:/usr/sbin/nologin
sync:x:4:65534:sync:/bin:/bin/sync
games:x:5:60:games:/usr/games:/usr/sbin/nologin
man:x:6:12:man:/var/cache/man:/usr/sbin/nologin
lp:x:7:7:lp:/var/spool/lpd:/usr/sbin/nologin
mail:x:8:8:mail:/var/mail:/usr/sbin/nologin
news:x:9:9:news:/var/spool/news:/usr/sbin/nologin
uucp:x:10:10:uucp:/var/spool/uucp:/usr/sbin/nologin
proxy:x:13:13:proxy:/bin:/usr/sbin/nologin
www-data:x:33:33:www-data:/var/www:/usr/sbin/nologin
backup:x:34:34:backup:/var/backups:/usr/sbin/nologin
list:x:38:38:Mailing List Manager:/var/list:/usr/sbin/nologin
irc:x:39:39:ircd:/run/ircd:/usr/sbin/nologin
_apt:x:42:65534::/nonexistent:/usr/sbin/nologin
nobody:x:65534:65534:nobody:/nonexistent:/usr/sbin/nologin
"),
    ("/etc/group", "root:x:0:
daemon:x:1:
bin:x:2:
sys:x:3:
adm:x:4:
tty:x:5:
disk:x:6:
lp:x:7:
mail:x:8:
news:x:9:
uucp:x:10:
man:x:12:
proxy:x:13:
kmem:x:15:
dialout:x:20:
fax:x:21:
voice:x:22:
cdrom:x:24:
floppy:x:25:
tape:x:26:
sudo:x:27:
audio:x:29:
dip:x:30:
www-data:x:33:
backup:x:34:
operator:x:37:
list:x:38:
irc:x:39:
src:x:40:
shadow:x:42:
utmp:x:43:
video:x:44:
sasl:x:45:
plugdev:x:46:
staff:x:50:
games:x:60:
users:x:100:
nogroup:x:65534:
"),
    ("/etc/hosts", "127.0.0.1\tlocalhost
::1\tlocalhost ip6-localhost ip6-loopback
fe00::0\tip6-localnet
ff00::0\tip6-mcastprefix
ff02::1\tip6-allnodes
ff02::2\tip6-allrouters
"),
    ("/etc/hostname", "localhost\n"), ("/etc/shadow", "root:*:19000:0:99999:7:::\n"),
    ("/etc/gshadow", "root:*::\n"), ("/etc/resolv.conf", "\n"),
    ("/etc/fstab", "# UNCONFIGURED FSTAB FOR BASE SYSTEM\n"), ("/etc/host.conf", "multi on\n"),
    ("/etc/issue", "\n"), ("/etc/issue.net", "\n"),
    ("/etc/debian_version", "\n"), ("/etc/environment", ""), ("/etc/login.defs", "\n"),
    ("/etc/nsswitch.conf", "hosts:          files dns\n"), ("/etc/machine-id", ""),
    ("/etc/timezone", "Etc/UTC\n"), ("/etc/ld.so.conf", "include /etc/ld.so.conf.d/*.conf\n"),
    ("/etc/ld.so.cache", "ld.so-1.7.0"), ("/etc/bash.bashrc", "\n"), ("/etc/profile", "\n"),
    ("/etc/adduser.conf", "\n"), ("/etc/deluser.conf", "\n"), ("/etc/subuid", ""),
    ("/etc/subgid", ""), ("/etc/motd", "\n"), ("/etc/networks", "default\t\t0.0.0.0\n"),
    ("/etc/shells", "# /etc/shells: valid login shells
/bin/sh
/usr/bin/sh
/bin/bash
/usr/bin/bash
/bin/rbash
/usr/bin/rbash
/bin/dash
/usr/bin/dash
"),
    ("/usr/lib/os-release", "ID=debian\n"),
    ("/root/.bashrc", "\n"), ("/root/.profile", "\n")]
    ++ ["version", "cpuinfo", "meminfo", "uptime", "loadavg", "stat", "mounts", "filesystems",
      "cmdline", "modules", "devices", "partitions", "swaps", "interrupts", "kallsyms", "vmstat",
      "self/status", "self/maps", "self/environ", "self/cmdline", "self/stat", "self/comm"].map
        fun name => ("/proc/" ++ name, "\n")

/-- What every installed program begins with; its name follows. -/
def programMark : Bytes :=
  "\x7fELF".toList

/-- The location of an absolute path in which nothing is a link. -/
def locationOf (path : String) : Location :=
  (pieces '/' path.toList).filter (· ≠ [])

/-- What stands on the disk of the system, with the permissions. -/
def systemNodes : List (Location × Kind × Nat) :=
  let directory (path : String) : Location × Kind × Nat :=
    (locationOf path, .directory,
      if path ∈ ["/tmp", "/var/tmp", "/dev/shm", "/run/lock"] then 1023
      else if path = "/root" then 448
      else if path = "/sys" || path = "/proc" then 365 else 493)
  let program (name : String) : Location × Kind × Nat :=
    (locationOf ("/usr/bin/" ++ name), .file (programMark ++ name.toList), 493)
  systemDirectories.map directory
    ++ systemLinks.map (fun l => (locationOf l.1, .link l.2.toList, 511))
    ++ systemDevices.map (fun d => (locationOf d.1, .device d.2, 438))
    ++ ordinaryFiles.map (fun f => (locationOf f.1, .file f.2.toList,
        if f.1 = "/etc/shadow" || f.1 = "/etc/gshadow" then 416
        else if f.1.startsWith "/proc" then 292 else 420))
    ++ (shellNames ++ utilityNames).map program

/-- The time of what stands on the disk from the start, in nanoseconds. -/
def installedTime : Nat := 1764633600 * 1000000000

/-- The disk of the system. -/
def systemDisk : Disk :=
  let numbered := systemNodes.mapIdx fun i n => (i + 1, n)
  { entries := numbered.map fun p => (p.2.1, p.1)
    nodes := (rootNode, ⟨.directory, 493, installedTime⟩)
      :: numbered.map fun p => (p.1, ⟨p.2.2.1, p.2.2.2, installedTime⟩)
    fresh := numbered.length + 1
    working := locationOf "/work" }

/-! ## Programs -/

/-- What can be started. -/
inductive Runnable where
  /-- An installed program, by its name. -/
  | installed (name : Bytes)
  /-- A text that another program reads, which may be given an argument. -/
  | script (interpreter : Bytes) (argument : Option Bytes)
  /-- A text that does not say who reads it. -/
  | text
  deriving DecidableEq, Repr

/-- What the contents of a file can be started as. -/
def runnableOf (text : Bytes) : Runnable :=
  match stripPrefix? programMark text, text with
  | some name, _ => .installed name
  | none, '#' :: '!' :: rest =>
    let first := ((rest.takeWhile (· ≠ '\n')).take 253).dropWhile isBlankChar
    let first := (first.reverse.dropWhile isBlankChar).reverse
    let interpreter := first.takeWhile (!isBlankChar ·)
    let argument := (first.drop interpreter.length).dropWhile isBlankChar
    if interpreter = [] then .text
    else .script interpreter (if argument = [] then none else some argument)
  | none, _ => .text

/-- Whether the permissions of a node let somebody start it. -/
def Node.isExecutable (node : Node) : Bool :=
  node.mode &&& 73 ≠ 0

/-- What can be started at a path, or why nothing can. -/
def Disk.program (d : Disk) (path : Bytes) : Except OsError Runnable :=
  match d.find path with
  | .error e => .error e
  | .ok f =>
    match f.node.kind with
    | .file text =>
      if f.node.isExecutable then .ok (runnableOf text) else .error .permissionDenied
    | _ => .error .permissionDenied

/-- The path under which a program is found, and what it is, or why it cannot be started. Without a
slash it is looked for in some directories; one that is found and cannot be started counts only if
no other is found. -/
def Disk.locate (d : Disk) (directories : List Bytes) (name : Bytes) :
    Except OsError (Bytes × Runnable) :=
  if name = [] then .error .notFound
  else if name.contains '/' then (d.program name).map (name, ·)
  else if longestName < name.length then .error .nameTooLong
  else
    directories.foldr (fun directory other =>
      let path := if directory = [] then name else directory ++ '/' :: name
      match d.program path with
      | .ok program => .ok (path, program)
      | .error .permissionDenied =>
        match other with
        | .ok found => .ok found
        | .error _ => .error .permissionDenied
      | .error _ => other) (.error .notFound)

/-- The name of the installed program that runs what is found at a path, and the words that it is
called with: its name, and its arguments. A text may name another text, but not for ever. -/
def Disk.interpret (d : Disk) : Nat → Bytes → Runnable → Bytes × List Bytes →
    Except OsError (Bytes × Bytes × List Bytes)
  | 0, _, _, _ => .error .tooManyLinks
  | fuel + 1, path, r, (name, arguments) =>
    match r with
    | .installed program => .ok (program, name, arguments)
    | .text => .error .notExecutable
    | .script interpreter argument =>
      match d.program interpreter with
      | .error e => .error e
      | .ok r => d.interpret fuel interpreter r (interpreter, argument.toList ++ path :: arguments)

/-- How many texts may name one another. -/
def mostInterpreters : Nat := 6

/-- The longest argument of a program, and the longest that all of them may be. -/
def longestArgument : Nat := 131071

/-- The longest that all arguments and variables of a program may be. -/
def longestArguments : Nat := 2097152

/-- Whether arguments are more than can be passed on. -/
def areTooLong (arguments : List Bytes) : Bool :=
  arguments.any (longestArgument < ·.length)
    || longestArguments < (arguments.map fun a => a.length + 9).foldl (· + ·) 0

end LinkWatch.Host.Kernel

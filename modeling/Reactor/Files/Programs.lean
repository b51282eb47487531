namespace Reactor.Programs

/-- The programs by name, each with the status that it ends with when it is given options that it
does not know. -/
def statuses : List (String × Nat) :=
  [("[", 2), ("arch", 1), ("awk", 2), ("b2sum", 1), ("base32", 1), ("base64", 1), ("basename", 1),
    ("basenc", 1), ("bash", 2), ("cat", 1), ("chgrp", 1), ("chmod", 1), ("chown", 1), ("cksum", 1),
    ("clear", 1), ("cmp", 2), ("comm", 1), ("cp", 1), ("csplit", 1), ("cut", 1), ("dash", 2),
    ("date", 1), ("dd", 1), ("df", 1), ("diff", 2), ("diff3", 2), ("dir", 2), ("dircolors", 1),
    ("dirname", 1), ("dmesg", 1), ("dpkg", 2), ("du", 1), ("echo", 0), ("egrep", 2), ("env", 125),
    ("expand", 1), ("expr", 2), ("factor", 1), ("false", 1), ("fgrep", 2), ("find", 1), ("fmt", 1),
    ("fold", 1), ("getopt", 2), ("git", 129), ("grep", 2), ("groups", 1), ("gunzip", 1),
    ("gzip", 1), ("head", 1), ("hostid", 1), ("hostname", 255), ("iconv", 64), ("id", 1),
    ("install", 1), ("join", 1), ("kill", 1), ("ldd", 1), ("ln", 1), ("logname", 1), ("ls", 2),
    ("mawk", 2), ("md5sum", 1), ("mkdir", 1), ("mkfifo", 1), ("mknod", 1), ("mktemp", 1),
    ("more", 1), ("mv", 1), ("nice", 125), ("nl", 1), ("nohup", 125), ("nproc", 1), ("numfmt", 1),
    ("od", 1), ("paste", 1), ("pathchk", 1), ("perl", 29), ("pr", 1), ("printenv", 2),
    ("printf", 0), ("ptx", 1), ("pwd", 1), ("readlink", 1), ("realpath", 1), ("rev", 1), ("rm", 1),
    ("rmdir", 1), ("sed", 1), ("seq", 1), ("setsid", 1), ("sh", 2), ("sha1sum", 1),
    ("sha224sum", 1), ("sha256sum", 1), ("sha384sum", 1), ("sha512sum", 1), ("shred", 1),
    ("shuf", 1), ("sleep", 1), ("sort", 2), ("split", 1), ("stat", 1), ("stdbuf", 125), ("stty", 1),
    ("sum", 1), ("sync", 1), ("tac", 1), ("tail", 1), ("tar", 64), ("tee", 1), ("tempfile", 1),
    ("test", 2), ("timeout", 125), ("touch", 1), ("tr", 1), ("true", 0), ("truncate", 1),
    ("tsort", 1), ("tty", 2), ("uname", 1), ("unexpand", 1), ("uniq", 1), ("unlink", 1),
    ("users", 1), ("vdir", 2), ("wc", 1), ("which", 2), ("who", 1), ("whoami", 1), ("xargs", 1),
    ("yes", 1), ("zcat", 1)]

def isProgram (name : String) : Bool := statuses.any (·.1 == name)

def status (name : String) : Nat := (statuses.lookup name).getD 1

def directories : List (List String) :=
  [["boot"], ["etc"], ["home"], ["lib"], ["media"], ["mnt"], ["opt"], ["proc"], ["root"], ["run"],
    ["srv"], ["sys"], ["usr"], ["usr", "bin"], ["usr", "lib"], ["usr", "local"],
    ["usr", "local", "bin"], ["usr", "sbin"], ["usr", "share"], ["var"], ["var", "tmp"]]

def settingNames : List String :=
  ["fstab", "group", "hostname", "hosts", "passwd", "profile", "resolv.conf", "shells"]

end Reactor.Programs

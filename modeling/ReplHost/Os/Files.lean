import ReplHost.Error

/-! # A file system

  The host reads its configuration file and checks working directories and
  programs on a file system. `FileSystem` holds the directories that exist
  and the files with their contents; paths are resolved as the kernel does:
  component by component from the root or from the working directory, where
  every component but the last must be a directory, `.` stays and `..` goes
  up. Reading fails with the system's error numbers: no such file (2), not a
  directory (20), is a directory (21). A path with a NUL byte is refused
  before it reaches the system.
-/

namespace ReplHost

/-- Directories, and files with their contents, by absolute path. -/
structure FileSystem where
  /-- Absolute paths of the directories, the root included. -/
  dirs : List String
  /-- Absolute paths of the files, with their contents. -/
  files : List (String × List UInt8)
  /-- Absolute paths of the files that may be executed. -/
  programs : List String := []

namespace FileSystem

/-- Whether an absolute path names a directory. -/
def isDir (fs : FileSystem) (p : String) : Bool := fs.dirs.contains p

/-- The first bytes of an executable image, as a program file reads. -/
def programImage : List UInt8 := [0x7F, 0x45, 0x4C, 0x46, 0x02, 0x01, 0x01, 0x00, 0xFF]

/-- The contents of the file at an absolute path. -/
def file? (fs : FileSystem) (p : String) : Option (List UInt8) :=
  match fs.files.lookup p with
  | some bytes => some bytes
  | none => if fs.programs.contains p then some programImage else none

/-- Whether an absolute path names an executable file. -/
def isProgram (fs : FileSystem) (p : String) : Bool := fs.programs.contains p

/-- The directory that holds an absolute path; the root holds itself. -/
def parent (p : String) : String :=
  match (p.splitOn "/").dropLast.filter (· ≠ "") with
  | [] => "/"
  | parts => "/" ++ "/".intercalate parts

/-- The path of `name` inside directory `dir`. -/
def child (dir name : String) : String := if dir = "/" then "/" ++ name else dir ++ "/" ++ name

/-- The names in the directory at an absolute path, in byte order. -/
def entries (fs : FileSystem) (dir : String) : List String :=
  let paths := fs.dirs ++ fs.files.map Prod.fst ++ fs.programs
  let names := paths.filterMap fun p =>
    if p ≠ dir && parent p = dir then (p.splitOn "/").getLast? else none
  (names.mergeSort fun a b => decide (a ≤ b)).eraseDups

/-- The error of a lookup that met no directory at `p`. -/
def missing (fs : FileSystem) (p : String) : IoError :=
  if (fs.file? p).isSome then .os 20 else .os 2

/-- Walks the components of a path from `cur`. -/
def walk (fs : FileSystem) (cur : String) : List String → Except IoError String
  | [] => .ok cur
  | c :: cs =>
    if c = "" then walk fs cur cs
    else if !fs.isDir cur then .error (fs.missing cur)
    else if c = "." then walk fs cur cs
    else if c = ".." then walk fs (parent cur) cs
    else walk fs (child cur c) cs

/-- The absolute path that `path` names, seen from directory `cwd`; every
    component but the last must exist as a directory. -/
def resolve (fs : FileSystem) (cwd path : String) : Except IoError String :=
  if path = "" then .error (.os 2)
  else if path.toList.contains '\x00' then
    .error (.custom .invalidInput "file name contained an unexpected NUL byte")
  else
    let start := if path.startsWith "/" then "/" else cwd
    match walk fs start (path.splitOn "/") with
    | .error e => .error e
    | .ok p =>
      if path.endsWith "/" && !fs.isDir p then .error (fs.missing p) else .ok p

/-- Reads the file at `path`, seen from directory `cwd`. -/
def read (fs : FileSystem) (cwd path : String) : Except IoError (List UInt8) := do
  let p ← fs.resolve cwd path
  if fs.isDir p then throw (.os 21)
  match fs.file? p with
  | some bytes => pure bytes
  | none => throw (.os 2)

/-- Whether `path` names a directory, seen from directory `cwd`. -/
def dirExists (fs : FileSystem) (cwd path : String) : Bool :=
  match fs.resolve cwd path with
  | .ok p => fs.isDir p
  | .error _ => false

/-- Adds a file, replacing one at the same path. -/
def withFile (fs : FileSystem) (path : String) (bytes : List UInt8) : FileSystem :=
  { fs with files := (path, bytes) :: fs.files.filter (·.1 ≠ path) }

/-- The directories of a plain Linux system. -/
def standardDirs : List String :=
  ["/", "/bin", "/boot", "/dev", "/etc", "/home", "/lib", "/media", "/mnt", "/opt", "/proc",
   "/root", "/run", "/sbin", "/srv", "/sys", "/tmp", "/usr", "/usr/bin", "/usr/lib",
   "/usr/local", "/usr/local/bin", "/usr/sbin", "/usr/share", "/var", "/var/tmp"]

/-- The utilities a plain system has, found in both `/usr/bin` and `/bin`. -/
def standardUtilities : List String :=
  ["sh", "dash", "bash", "echo", "printf", "seq", "tail", "head", "cat", "stty", "env",
   "printenv", "pwd", "true", "false", "sleep", "wc", "tr", "basename", "dirname", "yes",
   "expr", "test", "uname", "id", "whoami", "ls", "sort", "uniq", "cut"]

/-- The accounts of a plain system, as lines of its password file: name,
    password, user and group numbers, description, home directory and
    login shell. -/
def standardUsers : List String :=
  ["root:x:0:0:root:/root:/bin/bash",
   "daemon:x:1:1:daemon:/usr/sbin:/usr/sbin/nologin",
   "bin:x:2:2:bin:/bin:/usr/sbin/nologin",
   "sys:x:3:3:sys:/dev:/usr/sbin/nologin",
   "sync:x:4:65534:sync:/bin:/bin/sync",
   "games:x:5:60:games:/usr/games:/usr/sbin/nologin",
   "man:x:6:12:man:/var/cache/man:/usr/sbin/nologin",
   "lp:x:7:7:lp:/var/spool/lpd:/usr/sbin/nologin",
   "mail:x:8:8:mail:/var/mail:/usr/sbin/nologin",
   "news:x:9:9:news:/var/spool/news:/usr/sbin/nologin",
   "uucp:x:10:10:uucp:/var/spool/uucp:/usr/sbin/nologin",
   "proxy:x:13:13:proxy:/bin:/usr/sbin/nologin",
   "www-data:x:33:33:www-data:/var/www:/usr/sbin/nologin",
   "backup:x:34:34:backup:/var/backups:/usr/sbin/nologin",
   "list:x:38:38:Mailing List Manager:/var/list:/usr/sbin/nologin",
   "irc:x:39:39:ircd:/run/ircd:/usr/sbin/nologin",
   "_apt:x:42:65534::/nonexistent:/usr/sbin/nologin",
   "nobody:x:65534:65534:nobody:/nonexistent:/usr/sbin/nologin"]

/-- The files every system has: the empty device and the account list. -/
def standardFiles : List (String × List UInt8) :=
  [("/dev/null", []),
   ("/etc/passwd", String.toUTF8 (String.join (standardUsers.map (· ++ "\n"))) |>.toList)]

/-- A plain Linux system: the standard directories, files and utilities. -/
def standard : FileSystem :=
  { dirs := standardDirs, files := standardFiles,
    programs := standardUtilities.flatMap fun u => ["/usr/bin/" ++ u, "/bin/" ++ u] }

end FileSystem

end ReplHost

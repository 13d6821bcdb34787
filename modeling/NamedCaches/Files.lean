set_option autoImplicit false
/-!
# A working directory

The files a program can read: regular files (bytes) and directories, by their paths relative
to the working directory, and a few well-known entries of the system around it (`/etc/passwd`,
`/proc/version`, `/usr/bin/env`, `/dev/null` and the usual top-level directories). A path is read component by component, as the
operating system does: `.` and an empty component (from a doubled or trailing `/`) stay where
they are, `..` goes up from the directory reached so far (so `sub/../a` needs `sub` to be a
directory, and `..` at the root stays there), and no component may follow a file. An absolute
path starts at the root, any other in the working directory. The directories on the way down to
the working directory are known; what else they hold is not.
-/

namespace NamedCaches

/-- What stands at a path: a regular file, a directory, or a file that is not regular (a device)
with what reading it gives. -/
inductive FileEntry where
  | file (bytes : ByteArray)
  | directory
  | special (bytes : ByteArray)
  deriving Inhabited

/-- Why reading a file failed. -/
inductive ReadError where
  | notFound
  | isDirectory
  | notDirectory
  | invalidText
  deriving DecidableEq, Repr, Inhabited

/-- The system's text for a read failure. -/
def ReadError.text : ReadError → String
  | .notFound => "No such file or directory (os error 2)"
  | .isDirectory => "Is a directory (os error 21)"
  | .notDirectory => "Not a directory (os error 20)"
  | .invalidText => "stream did not contain valid UTF-8"

/-- A working directory: its entries by relative path, and where it stands, as the names of
the directories from the root down to it. A working directory whose own name is unknown ends in
an empty name, which no path can spell. -/
structure Files where
  entries : List (String × FileEntry)
  home : List String := ["tmp", ""]
  deriving Inhabited

namespace Files

/-- No files at all. -/
def empty : Files := ⟨[], ["tmp", ""]⟩

/-- The start of a program file: the ELF header, whose entry address holds a byte that no UTF-8
text can, so reading it as text fails. -/
def executable : ByteArray :=
  ⟨#[0x7F, 0x45, 0x4C, 0x46, 0x02, 0x01, 0x01, 0x00, 0x00, 0x00, 0x00, 0x00, 0x00, 0x00, 0x00,
    0x00, 0x03, 0x00, 0x3E, 0x00, 0x01, 0x00, 0x00, 0x00, 0xC0, 0x3A, 0x00, 0x00]⟩

/-- The well-known entries of the system, by path from the root. -/
def system : List (String × FileEntry) :=
  ["bin", "boot", "dev", "etc", "home", "lib", "lib64", "media", "mnt", "opt", "proc", "root",
    "run", "sbin", "srv", "sys", "tmp", "usr", "usr/bin", "usr/lib", "usr/local", "usr/share",
    "var", "var/lib", "var/log", "var/tmp"].map (fun d => (d, FileEntry.directory)) ++
  [("etc/passwd", .file "root:x:0:0:root:/root:/bin/bash\n".toUTF8),
   ("etc/group", .file "root:x:0:\n".toUTF8),
   ("etc/hosts", .file "127.0.0.1\tlocalhost\n".toUTF8),
   ("etc/os-release", .file "PRETTY_NAME=\"Debian GNU/Linux\"\n".toUTF8),
   ("proc/self", .directory),
   ("proc/version", .file "Linux version 6.1.0\n".toUTF8),
   ("proc/cpuinfo", .file "processor\t: 0\n".toUTF8),
   ("proc/meminfo", .file "MemTotal:\n".toUTF8),
   ("bin/sh", .file executable),
   ("usr/bin/sh", .file executable),
   ("usr/bin/env", .file executable),
   ("dev/null", .special ByteArray.empty)]

/-- What stands at a path given as names from the root: inside the working directory its
entries decide; the directories down to it are directories; elsewhere the system's well-known
entries. -/
def entryAt? (fs : Files) (path : List String) : Option FileEntry :=
  if fs.home.isPrefixOf path then
    match path.drop fs.home.length with
    | [] => some .directory
    | rest => (fs.entries.find? fun e => e.1 == "/".intercalate rest).map Prod.snd
  else if path.isPrefixOf fs.home then some .directory
  else (system.find? fun e => e.1 == "/".intercalate path).map Prod.snd

/-- Walks along the components of a path from a directory (given as names from the root): `.`
and empty components stay, `..` goes up, a name is looked up in the directory the walk stands
in. A file ends the walk: a component after it, even `.` or an empty one, finds no directory. -/
def walk (fs : Files) : List String → List String → Except ReadError FileEntry
  | _, [] => .ok .directory
  | here, c :: rest =>
    if c == "" || c == "." then walk fs here rest
    else if c == ".." then walk fs here.dropLast rest
    else
      match fs.entryAt? (here ++ [c]) with
      | none => .error .notFound
      | some .directory => walk fs (here ++ [c]) rest
      | some e => if rest.isEmpty then .ok e else .error .notDirectory

/-- What stands at a path: an empty path names nothing, an absolute one starts at the root,
any other in the working directory. -/
def lookup (fs : Files) (path : String) : Except ReadError FileEntry :=
  if path.isEmpty then .error .notFound
  else if path.startsWith "/" then walk fs [] (path.splitOn "/")
  else walk fs fs.home (path.splitOn "/")

/-- Whether a regular file stands at a path. -/
def isFile (fs : Files) (path : String) : Bool :=
  match fs.lookup path with
  | .ok (.file _) => true
  | _ => false

/-- The text of the file at a path. -/
def readText (fs : Files) (path : String) : Except ReadError String :=
  match fs.lookup path with
  | .ok (.file b) | .ok (.special b) =>
    match String.fromUTF8? b with
    | some s => .ok s
    | none => .error .invalidText
  | .ok .directory => .error .isDirectory
  | .error e => .error e

end Files

end NamedCaches

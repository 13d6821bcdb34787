import NamedCaches.Request.Step
import NamedCaches.Report
import NamedCaches.Request.Config
set_option autoImplicit false
/-!
# Command-line requests

The `cli` request runs the settings report in a working directory holding the given files
(`files` as text, `files_hex` as bytes) and directories (`dirs`), with the given environment
variables and `NO_COLOR=1`; a value that is not a string counts as empty. Names must be plain
entries the system can make (see `entryName`). The answer is the exit code and the lines written
to standard output and standard error, each line without a carriage return at its end and without
a leading time stamp.
-/

namespace NamedCaches

open Json

namespace Request

/-- The value of a hexadecimal digit. -/
def hexDigit (c : Char) : Option Nat :=
  if c.isDigit then some (c.toNat - '0'.toNat)
  else if 'a' ≤ c && c ≤ 'f' then some (c.toNat - 'a'.toNat + 10)
  else if 'A' ≤ c && c ≤ 'F' then some (c.toNat - 'A'.toNat + 10)
  else none

/-- One byte written as two characters read as a number in base 16: two hexadecimal digits, or
`+` and one. -/
def hexPair (a b : Char) : Option UInt8 :=
  if a == '+' then (hexDigit b).map Nat.toUInt8
  else do
    let hi ← hexDigit a
    let lo ← hexDigit b
    pure (16 * hi + lo).toUInt8

/-- Bytes written as pairs of characters, each pair one byte. -/
def hexBytes : List Char → Option (List UInt8)
  | [] => some []
  | a :: b :: rest => do pure ((← hexPair a b) :: (← hexBytes rest))
  | [_] => none

/-- The text a request gives for a file or variable: a string as it is, anything else empty. -/
def plainText (v : Value) : String :=
  match v with
  | .str s => s
  | _ => ""

/-- The longest name a directory entry may have, in bytes. -/
def nameLimit : Nat := 255

/-- Checks the name of a file or directory (`what`) to be made in the working directory: it must
be plain (not empty, `.` or `..`, and without `/`), hold no NUL character and fit in 255 bytes. -/
def entryName (what name : String) : Reply String :=
  if name.isEmpty || name == "." || name == ".." || name.contains '/' then
    Reply.bad ("bad " ++ what ++ " name " ++ name)
  else if name.contains (Char.ofNat 0) then Reply.bad "file name contained an unexpected NUL byte"
  else if name.utf8ByteSize > nameLimit then Reply.bad "File name too long (os error 36)"
  else .ok name

/-- Writes a file into a list of entries, replacing one of the same name. -/
def writeEntry (entries : List (String × FileEntry)) (name : String) (bytes : ByteArray) :
    List (String × FileEntry) :=
  entries.filter (·.1 != name) ++ [(name, .file bytes)]

/-- Makes a directory in a list of entries; one that exists already is fine, a file of that name
is not. -/
def makeDirectory (entries : List (String × FileEntry)) (name : String) :
    Reply (List (String × FileEntry)) :=
  match entries.find? (·.1 == name) with
  | some (_, .directory) => .ok entries
  | some _ => Reply.bad "File exists (os error 17)"
  | none => .ok (entries ++ [(name, .directory)])

/-- The working directory a request describes. All hexadecimal contents are read first; then the
text files, the binary files and the directories are made in turn. -/
def workingFiles (req : Value) : Reply Files := do
  let binaries ← ((req.get "files_hex").obj?.getD []).mapM fun (n, v) => do
    let cs := (plainText v).toList
    match if cs.all (·.toNat < 128) then hexBytes cs else none with
    | some bs => pure (n, ByteArray.mk bs.toArray)
    | none => Reply.bad "bad hex"
  let texts := ((req.get "files").obj?.getD []).map fun (n, v) => (n, (plainText v).toUTF8)
  let written ← (texts ++ binaries).foldlM (fun es (n, bs) => do
    pure (writeEntry es (← entryName "file" n) bs)) []
  let entries ← ((req.get "dirs").arr?.getD []).foldlM (fun es v => do
    makeDirectory es (← entryName "dir" (plainText v))) written
  pure { entries }

/-- A line without the carriage return it may end with. -/
def dropReturn (cs : List Char) : List Char :=
  match cs.reverse with
  | '\r' :: rest => rest.reverse
  | _ => cs

/-- A line without a leading time stamp: a first word that starts with a digit and holds a `T`,
followed by a space, goes with the blanks after it. Only the space ends the word: a tab or any
other blank belongs to it. -/
def dropStamp (cs : List Char) : List Char :=
  let word := cs.takeWhile (· != ' ')
  let rest := cs.dropWhile (· != ' ')
  match word, rest with
  | d :: _, _ :: _ => if d.isDigit && word.contains 'T' then Text.dropBlanks rest else cs
  | _, _ => cs

/-- The lines of what a run wrote, as the answer shows them: every record split at its line
breaks, each line without a carriage return at its end and without a time stamp in front. -/
def shownLines (records : List String) : List String :=
  (records.flatMap (·.splitOn "\n")).map fun l => String.ofList (dropStamp (dropReturn l.toList))

example : dropStamp "1T y".toList = "y".toList := by decide

example : dropStamp "INFO x: y".toList = "INFO x: y".toList := by decide

example : dropStamp "1T\tx y".toList = "y".toList := by decide

/-- `cli`: runs the report and answers its exit code and output lines. -/
def cli (req : Value) : Reply Value := do
  let files ← workingFiles req
  let env := ((req.get "env").obj?.getD []).map (fun (k, v) => (k, plainText v)) ++
    [("NO_COLOR", "1")]
  let o := Id.run (Report.run (Host.ofFiles files env))
  pure (.object [("exit_code", .ofNat o.code.toNat), ("stdout", .arr ((shownLines o.out).map .str)),
    ("stderr", .arr ((shownLines o.err).map .str))])

end Request

end NamedCaches

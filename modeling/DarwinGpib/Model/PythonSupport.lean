import Mathlib.Data.List.Infix

/-!
# The shell snippet

`PythonSupport.installShellSnippet`, by which the app has the user's shells source its `env.sh`, and
`removeShellSnippet`. A Swift string is a list of Unicode scalars; what Foundation makes of files
and strings is a parameter.
-/

namespace DarwinGpib

namespace PythonSupport

/-! ## Strings and files -/

/-- UTF-8. -/
def encode (t : List Char) : List UInt8 := t.flatMap String.utf8EncodeChar

def byteOrderMark : List UInt8 := [0xEF, 0xBB, 0xBF]

/-- Strict decoding of UTF-8, which may drop a byte-order mark. -/
def decode (dropsMark : Bool) (c : List UInt8) : Option (List Char) :=
  let c := if dropsMark ∧ byteOrderMark <+: c then c.drop byteOrderMark.length else c
  c.toByteArray.utf8Decode?.map Array.toList

def beginMarker : List Char := "# >>> Open GPIB >>>".toList
def endMarker : List Char := "# <<< Open GPIB <<<".toList

/-- What Foundation does with strings. Swift compares characters, not scalars, so that `contains`
and `hasSuffix` are not those of lists; but line breaks delimit characters. -/
structure Foundation where
  dropsMark : Bool
  contains : List Char → List Char → Bool
  hasSuffix : List Char → List Char → Bool
  contains_line : ∀ a b, contains (a ++ '\n' :: (beginMarker ++ '\n' :: b)) beginMarker = true

inductive StartupFile where
  | zshrc
  | bashProfile
  | bashrc
  | profile
  deriving DecidableEq, Repr

/-- The files in the user's home; `none` is a file that does not exist. -/
structure Disk where
  envSh : Option (List UInt8)
  startup : StartupFile → Option (List UInt8)

/-- Which files the process may read and write. -/
structure Access where
  envShWritable : Bool
  readable : StartupFile → Bool
  writable : StartupFile → Bool

def Disk.write (d : Disk) (f : StartupFile) (c : List UInt8) : Disk :=
  { d with startup := fun g => if g = f then some c else d.startup g }

/-! ## What is written -/

def dyldBuiltinDefault : String := "/usr/local/lib:/lib:/usr/lib"

/-- `env.sh` for the library directory `dir`. -/
def envScript (dir : String) : String :=
  "# Written by Open GPIB. Edits here are overwritten on reinstall.\n" ++
  "# Makes libgpib.dylib discoverable by gpib_ctypes / pyvisa-py.\n" ++
  "case \":$DYLD_FALLBACK_LIBRARY_PATH:\" in\n" ++
  "  *\":" ++ dir ++ ":\"*) ;;\n" ++
  "  *)\n" ++
  "    if [ -n \"$DYLD_FALLBACK_LIBRARY_PATH\" ]; then\n" ++
  "      export DYLD_FALLBACK_LIBRARY_PATH=\"" ++ dir ++ ":$DYLD_FALLBACK_LIBRARY_PATH\"\n" ++
  "    else\n" ++
  "      export DYLD_FALLBACK_LIBRARY_PATH=\"" ++ dir ++ ":" ++ dyldBuiltinDefault ++ "\"\n" ++
  "    fi\n" ++
  "    ;;\n" ++
  "esac\n"

/-- The line between the markers, for the snippet at `path`. -/
def sourceLine (path : String) : List Char :=
  "[ -f \"".toList ++ path.toList ++ "\" ] && . \"".toList ++ path.toList ++ "\"".toList

def block (path : String) : List Char :=
  beginMarker ++ '\n' :: (sourceLine path ++ '\n' :: endMarker)

/-- `updated`, from the text that the file has. -/
def updated (F : Foundation) (path : String) (existing : List Char) : List Char :=
  let separator := if existing = [] ∨ F.hasSuffix existing ['\n'] then [] else ['\n']
  existing ++ separator ++ '\n' :: (block path ++ ['\n'])

/-! ## The installation -/

/-- `try? String(contentsOf: file, encoding: .utf8)`. -/
def readText (F : Foundation) (access : Access) (d : Disk) (f : StartupFile) :
    Option (List Char) :=
  if access.readable f then d.startup f >>= decode F.dropsMark else none

def shellStartupFiles (d : Disk) : List StartupFile :=
  .zshrc :: [.bashProfile, .bashrc, .profile].filter fun f => (d.startup f).isSome

/-- The body of the loop over the startup files. -/
def installIn (F : Foundation) (access : Access) (path : String) (d : Disk) (f : StartupFile) :
    Disk :=
  let existing := (readText F access d f).getD []
  if F.contains existing beginMarker then d
  else if access.writable f then d.write f (encode (updated F path existing))
  else d

def installShellSnippet (F : Foundation) (access : Access) (dir path : String) (d : Disk) : Disk :=
  if access.envShWritable then
    let d := { d with envSh := some (encode (envScript dir).toList) }
    (shellStartupFiles d).foldl (installIn F access path) d
  else d

/-! ## The removal -/

/-- The loop over the lines of a file, with the flag `inBlock`. -/
def keptLines (F : Foundation) : (inBlock : Bool) → (lines : List (List Char)) → List (List Char)
  | _, [] => []
  | inBlock, line :: lines =>
      if F.contains line beginMarker then keptLines F true lines
      else if F.contains line endMarker then keptLines F false lines
      else if !inBlock then line :: keptLines F inBlock lines
      else keptLines F inBlock lines

/-- `components(separatedBy: "\n")` compares literally, so that it cuts at every line break. -/
def linesOf (text : List Char) : List (List Char) := text.splitOn '\n'

/-- `joined(separator: "\n")`. -/
def joined (lines : List (List Char)) : List Char := ['\n'].intercalate lines

/-- The body of the loop over the startup files. -/
def removeIn (F : Foundation) (access : Access) (d : Disk) (f : StartupFile) : Disk :=
  match readText F access d f with
  | none => d
  | some text =>
      if F.contains text beginMarker then
        if access.writable f then d.write f (encode (joined (keptLines F false (linesOf text))))
        else d
      else d

def removeShellSnippet (F : Foundation) (access : Access) (d : Disk) : Disk :=
  let d := (shellStartupFiles d).foldl (removeIn F access) d
  if access.envShWritable then { d with envSh := none } else d

end PythonSupport

end DarwinGpib

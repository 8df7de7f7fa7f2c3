import DarwinGpib.Model.PythonSupport
import Mathlib.Data.List.DropRight

/-!
# The search path of the session

The part of `PythonSupport.swift` that keeps the library's directory in
`DYLD_FALLBACK_LIBRARY_PATH`: `extendSearchPath`, `removeSearchPathEntry` and the script of the
login agent. launchd holds the variable, which may be unset.
-/

namespace DarwinGpib

namespace PythonSupport

/-- What `launchctl` keeps under the name of the variable. -/
abbrev Variable := Option (List Char)

/-- The strings of Foundation, as far as it matters here. -/
structure Strings where
  /-- The characters of `whitespacesAndNewlines`. -/
  blank : Char → Bool
  /-- Two strings compare equal. -/
  same : List Char → List Char → Bool

/-- What `getenv` prints, trimmed; a variable that is not set prints nothing. -/
def getenv (S : Strings) (v : Variable) : List Char :=
  ((v.getD []).dropWhile S.blank).rdropWhile S.blank

/-- `components(separatedBy: ":")`. -/
def entriesOf (text : List Char) : List (List Char) := text.splitOn ':'

/-- `joined(separator: ":")`. -/
def joinedEntries (entries : List (List Char)) : List Char := [':'].intercalate entries

def extendSearchPath (S : Strings) (dir : List Char) (v : Variable) : Variable :=
  let current := getenv S v
  let entries := entriesOf (if current = [] then dyldBuiltinDefault.toList else current)
  if entries.any (S.same dir) then v else some (joinedEntries (dir :: entries))

/-- An explicit value that is the default is unset as well. -/
def removeSearchPathEntry (S : Strings) (dir : List Char) (v : Variable) : Variable :=
  let current := getenv S v
  if current = [] then v
  else
    let entries := (entriesOf current).filter fun e => !S.same dir e
    if entries = [] ∨ joinedEntries entries = dyldBuiltinDefault.toList then none
    else some (joinedEntries entries)

/-- The script of the login agent, for a directory that the shell takes as it stands. Command
substitution drops the newlines at the end. -/
def loginAgent (dir : List Char) (v : Variable) : Variable :=
  let current := (v.getD []).rdropWhile (· = '\n')
  if ':' :: (dir ++ [':']) <:+: ':' :: (current ++ [':']) then v
  else if current ≠ [] then some (dir ++ ':' :: current)
  else some (dir ++ ':' :: dyldBuiltinDefault.toList)

/-- What changes the variable in a session. -/
inductive PathAction where
  /-- `install`, which also starts the agent; the agent runs when it gets to. -/
  | install
  | uninstall
  | agent
  deriving DecidableEq, Repr

def pathStep (S : Strings) (dir : List Char) (v : Variable) : PathAction → Variable
  | .install => extendSearchPath S dir v
  | .uninstall => removeSearchPathEntry S dir v
  | .agent => loginAgent dir v

end PythonSupport

end DarwinGpib

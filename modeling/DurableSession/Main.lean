import DurableSession.Configuration.Load
import DurableSession.Configuration.Validation
import DurableSession.Password.Phc

/-!
The command line: `hash-password` prints a new hash of a password, and any other word names a file
whose settings are loaded and checked.
-/

namespace DurableSession.CommandLine

open DurableSession.Configuration (Settings)

/-- How the program ended. -/
def succeeded : UInt32 := 0

def failed : UInt32 := 1

/-- Say why the program fails. -/
def complain (messages : List String) : IO UInt32 := do
  for message in messages do
    IO.eprintln ("Error: " ++ message)
  return failed

/-- Print a hash of a password with a salt of sixteen random bytes. -/
def hashPassword (password : String) : IO UInt32 := do
  let salt ← IO.getRandomBytes 16
  IO.println (Password.protect salt.toList password)
  return succeeded

def announcement (s : Settings) : String :=
  "server=" ++ s.server.name ++ " version=" ++ s.server.version ++ " accounts=" ++
    toString s.accountTable.size ++ " " ++ s.boundary.describe

/-- Load and check the settings in a file. -/
def checkSettings (path : String) : IO UInt32 := do
  let content ← try
      let bytes ← IO.FS.readBinFile path
      pure (some bytes.toList)
    catch _ => pure none
  match Settings.load content with
  | .error e => complain [e.message]
  | .ok s =>
    if s.isValid then
      IO.println (announcement s)
      return succeeded
    else
      complain (s.problems.map (·.message) ++
        [toString s.problems.length ++ " configuration error(s) in " ++ path])

end DurableSession.CommandLine

open DurableSession in
/-- Act on the words of the command line. -/
def main (arguments : List String) : IO UInt32 :=
  match arguments with
  | ["hash-password"] => CommandLine.complain ["usage: tetherd hash-password <password>"]
  | "hash-password" :: password :: _ => CommandLine.hashPassword password
  | path :: _ => CommandLine.checkSettings path
  | [] => CommandLine.checkSettings "config.toml"

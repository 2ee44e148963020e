import HttpDigest.CommandLine
import Std.Time

open HttpDigest

def randomLength : CommandLine.Command → Nat
  | .secretGenerate length _ _ _ => length.toNat
  | _ => 0

def settingsFile : CommandLine.Command → Option String
  | .verify file _ _ _ _ _ _ _ _ => file
  | _ => none

def readSettings (path : Option String) : IO (Option (List UInt8)) :=
  match path with
  | none => pure none
  | some path => do
    match ← (IO.FS.readBinFile path).toBaseIO with
    | .ok bytes => pure (some bytes.toList)
    | .error _ => pure none

def main (words : List String) : IO UInt32 := do
  let now ← Std.Time.Timestamp.now
  let command := match CommandLine.parse words with
    | .ok command => command
    | .error _ => .nothing
  let random ← IO.getRandomBytes (randomLength command).toUSize
  let settings ← readSettings (settingsFile command)
  let environment : CommandLine.Environment := {
    interpreter := .plain
    now := now.toMillisecondsSinceUnixEpoch.val
    random := fun length => random.toList.take length
    keyring := { locked := some "no keyring is available" }
    file := fun _ => settings }
  match CommandLine.run environment words with
  | .ok ending =>
    IO.print ending.out
    IO.eprint ending.err
    return UInt32.ofNat ending.code
  | .error _ =>
    IO.eprintln "Error: a value has the wrong form"
    return 1

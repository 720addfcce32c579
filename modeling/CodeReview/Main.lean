import CodeReview.CommandLine.Run
import CodeReview.Shell.Machine
import Std.Time.DateTime.Timestamp

/-!
The program: what the command line lets it look at is read from the host, the command is carried out on it,
and what has changed is written back. A link on the host is taken for what it leads to, except in a
directory that is walked through, where links are left out. No interpreter is started but the commands of
`Shell.Host.plain`, and there is no network.
-/

namespace CodeReview.Program

open CommandLine

section Reading

def hostPath (place : Place) : String := String.ofList ('/' :: Path.ofNames place)

/-- The places that a path leads through, last one first; two dots lead back along the path. -/
def placesOf (here : Place) (path : String) : List Place :=
  (Files.pieces path.toList).foldl (fun places piece =>
    let place := places.headD here
    match piece with
    | .root => [] :: places
    | .here => places
    | .up => place.dropLast :: places
    | .name name => (place ++ [name]) :: places) [here]

def placeOf (here : Place) (path : String) : Place := (placesOf here path).headD here

def readFile (files : Files) (place : Place) : IO Files := do
  let content ← IO.FS.readBinFile (hostPath place)
  return files.put place (.file content.toList)

def readEntry (files : Files) (place : Place) : IO Files := do
  if (files.entryAt place).isSome then return files
  match (← (System.mkFilePath [hostPath place]).metadata).type with
  | .dir => return files.put place .directory
  | .file => readFile files place
  | _ => return files

def readPlace (files : Files) (place : Place) : IO Files :=
  (List.range (place.length + 1)).foldlM (fun files n =>
    readEntry files (place.take n) <|> pure files) files

def readPath (files : Files) (path : String) : IO Files := do
  let place := placeOf files.here path
  let files ← (placesOf files.here path).foldlM readPlace files
  if files.entryAt place != some .directory then return files
  (← (System.mkFilePath [hostPath place]).readDir).foldlM (fun files entry =>
    readEntry files (place ++ [entry.fileName.toList]) <|> pure files) files

/-- Adds a directory and all below it, down to a depth, but no file that is too large to be indexed. -/
def readTree (depth : Nat) (files : Files) (place : Place) : IO Files := do
  match depth with
  | 0 => return files
  | n + 1 =>
      (← (System.mkFilePath [hostPath place]).readDir).foldlM (fun files entry => do
        let place := place ++ [entry.fileName.toList]
        let found ← entry.path.symlinkMetadata
        match found.type with
        | .dir =>
            if Loader.passedOver.contains entry.fileName.toList then return files
            else readTree n (files.put place .directory) place <|> pure files
        | .file =>
            if Loader.mostBytes < found.byteSize.toNat then return files
            else readFile files place <|> pure files
        | _ => return files) files

def mostDepth : Nat := 64

def readScope (files : Files) (scope : Scope) : IO Files := do
  let files ← scope.paths.foldlM readPath files
  match scope.tree with
  | none => return files
  | some root =>
      let place := placeOf files.here root
      let files ← readPlace files place
      readTree mostDepth files place <|> pure files

end Reading

section Writing

def isKept (before : Files) (place : Place) (entry : Entry) : Bool :=
  match before.entryAt place, entry with
  | some (.file old), .file new => List.beq old new
  | some .directory, .directory => true
  | _, _ => false

def writeChanges (before after : Files) : IO Unit := do
  for (place, entry) in after.entries do
    if !isKept before place entry then
      match entry with
      | .directory => IO.FS.createDirAll (hostPath place)
      | .file content => IO.FS.writeBinFile (hostPath place) ⟨content.toArray⟩
      | .link _ => pure ()

end Writing

section Starting

def readEnvironment : IO Settings.Environment := do
  let names := "PYTHONPATH" :: Settings.overrides.map Settings.Override.name
  let found ← names.filterMapM fun name => do
    return (← IO.getEnv name).map fun value => (name, value)
  return fun name => (found.find? fun v => v.1 == name).map (·.2)

def readClock (started : Nat) : IO Clock := do
  let now := (← Std.Time.Timestamp.now).toNanosecondsSinceUnixEpoch.val
  let elapsed := (← IO.monoNanosNow) - started
  return {
    now := Timestamp.ofUnix (now / 1000000000) (now % 1000000000).toNat
    elapsed := Decimal.nearest elapsed 9 }

def start (words : List String) : IO UInt32 := do
  let started ← IO.monoNanosNow
  let environment ← readEnvironment
  let here := placeOf [] (← IO.currentDir).toString
  let bare ← readPlace { Shell.Host.plain.files with here } here
  -- What the settings name is known only after the first reading.
  let first ← readScope bare { Scope.of environment words bare with tree := none }
  let files ← readScope first (Scope.of environment words first)
  let around : Surroundings :=
    { environment, send := ChatApi.unreachable
      machine := { Shell.Host.plain with clock := started }.machine, clock := ← readClock started }
  let (changed, ended) := run around words files
  writeChanges files changed
  IO.print ended.stdout
  IO.eprint ended.stderr
  return UInt32.ofNat ended.exitCode

end Starting

end CodeReview.Program

def main (words : List String) : IO UInt32 := CodeReview.Program.start words

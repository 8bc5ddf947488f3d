import Compendium.CommandLine
import Compendium.Export.Plan
import Compendium.SettingsFile

/-!
# The program

Reads corpus files, converts them in one run, and writes the documents, indexes
and listing pages below the output directory.
-/

namespace Compendium

/-- The bytes of a file, if it can be read. -/
def readBytes? (path : String) : IO (Option (List UInt8)) := do
  try
    let bytes ← IO.FS.readBinFile path
    return some bytes.toList
  catch _ => return none

/-- The settings of a file, or the default ones. -/
def loadSettings (path? : Option String) : IO (Except Error Settings) := do
  match path? with
  | none => return .ok Settings.default
  | some path =>
    match ← readBytes? path with
    | none => return .error .io
    | some bytes =>
      match String.fromUTF8? ⟨bytes.toArray⟩ with
      | none => return .error .io
      | some text => return Settings.parse text

/-- Converts files one after another; one that fails is left out. -/
def convertFiles (verbose : Bool) (inputs : List String) (c : Converter) :
    IO (List Document × Converter) := do
  let mut converter := c
  let mut documents := []
  for path in inputs do
    let (answer, next) := converter.convertFile (← readBytes? path)
    converter := next
    match answer with
    | .ok converted =>
      if verbose then
        IO.eprintln (path ++ ": " ++ toString converted.length ++ " document(s)")
      documents := documents ++ converted
    | .error e => IO.eprintln ("warning: skipping " ++ path ++ ": " ++ e.text)
  return (documents, converter)

/-- Writes a file below a root. -/
def writeBelow (root : String) (file : OutputFile) : ExceptT Error IO Unit := do
  if Directory.escapes file.path then throw (.outsideOutput file.path)
  let target := (⟨root, []⟩ : Directory.Root).target file.path
  let parent := "/".intercalate (Directory.parentParts target)
  let written : IO Unit := do
    if !parent.isEmpty then IO.FS.createDirAll parent
    IO.FS.writeFile target file.contents
  if let .error _ ← written.toBaseIO then throw .io

/-- Runs a conversion. -/
def runConversion (options : CommandLine.Options) (output : String) : IO (Except Error Unit) := do
  match ← loadSettings options.config? with
  | .error e => return .error e
  | .ok loaded =>
    let settings := { loaded with
      sources := if options.sources.isEmpty then loaded.sources else options.sources
      linkReferences := loaded.linkReferences || options.linkReferences }
    let (documents, c) ← convertFiles options.verbose options.inputs (.new settings)
    let plan := Export.plan ⟨settings.categoryPages, true⟩ documents c.catalog
    match ← (plan.writeTo (writeBelow output)).run with
    | .error e => return .error e
    | .ok report =>
      if !options.quiet then
        IO.println ("Wrote " ++ toString report.documents ++ " document(s) to " ++ output ++
          " (" ++ toString c.stats.filtered ++ " filtered, " ++ toString c.stats.rejected ++
          " rejected, " ++ toString c.stats.collisions ++ " collision(s))")
      return .ok ()

/-- Does what the arguments ask for, and gives the exit code. -/
def runArguments (args : List String) : IO UInt32 := do
  match CommandLine.parse args with
  | .error message =>
    IO.eprintln ("error: " ++ message ++ "\n\n" ++ CommandLine.usage)
    return 2
  | .ok .help =>
    IO.print CommandLine.usage
    return 0
  | .ok .version =>
    IO.println CommandLine.versionLine
    return 0
  | .ok (.convert options output) =>
    match ← runConversion options output with
    | .ok () => return 0
    | .error e =>
      IO.eprintln ("error: " ++ e.text)
      return 1

end Compendium

/-- The entry point. -/
def main (args : List String) : IO UInt32 :=
  Compendium.runArguments args

import Compendium.Text.Basic

/-!
# The command line

What a user asks for, read from the arguments of the program.
-/

namespace Compendium.CommandLine

/-- What a conversion from the command line is told. -/
structure Options where
  /-- The corpus files. -/
  inputs : List String
  /-- The output directory. -/
  output? : Option String
  /-- The settings file. -/
  config? : Option String
  /-- The codes of the sources that are wanted. -/
  sources : List String
  linkReferences : Bool
  quiet : Bool
  verbose : Bool

/-- What the program is asked to do. -/
inductive Request where
  | help
  | version
  | convert (options : Options) (output : String)

/-- The options when nothing is told. -/
def Options.empty : Options :=
  ⟨[], none, none, [], false, false, false⟩

/-- The arguments that one argument stands for: a long option may carry its value
behind an equals sign. -/
def split (arg : String) : List String :=
  if Text.beginsWith "--" arg && Text.contains "=" arg then
    let name := Text.before '=' arg
    [name, String.ofList (arg.toList.drop (name.length + 1))]
  else [arg]

/-- Reads arguments into options. -/
def read (o : Options) : List String → Except String Request
  | [] =>
    match o.inputs, o.output? with
    | [], _ => .error "no input file is given"
    | _, none => .error "no output directory is given"
    | _, some output => .ok (.convert o output)
  | "--" :: rest => read { o with inputs := o.inputs ++ rest } []
  | "-h" :: _ => .ok .help
  | "--help" :: _ => .ok .help
  | "-V" :: _ => .ok .version
  | "--version" :: _ => .ok .version
  | "-o" :: dir :: rest => read { o with output? := some dir } rest
  | "--output" :: dir :: rest => read { o with output? := some dir } rest
  | "-s" :: code :: rest => read { o with sources := o.sources ++ [code] } rest
  | "--source" :: code :: rest => read { o with sources := o.sources ++ [code] } rest
  | "-c" :: file :: rest => read { o with config? := some file } rest
  | "--config" :: file :: rest => read { o with config? := some file } rest
  | "--link-references" :: rest => read { o with linkReferences := true } rest
  | "-q" :: rest => read { o with quiet := true } rest
  | "--quiet" :: rest => read { o with quiet := true } rest
  | "-v" :: rest => read { o with verbose := true } rest
  | "--verbose" :: rest => read { o with verbose := true } rest
  | "-vv" :: rest => read { o with verbose := true } rest
  | arg :: rest =>
    if Text.beginsWith "-" arg then .error ("unexpected argument " ++ arg)
    else read { o with inputs := o.inputs ++ [arg] } rest
termination_by args => args.length

/-- Reads the arguments of the program. -/
def parse (args : List String) : Except String Request :=
  let isEnd (arg : String) : Bool := arg = "--"
  read .empty ((args.takeWhile fun arg => !isEnd arg).flatMap split ++
    args.dropWhile fun arg => !isEnd arg)

/-- How the program is used. -/
def usage : String :=
  "Render tabletop reference data into Markdown\n\n" ++
  "Usage: compendium [OPTIONS] --output <DIR> <INPUT>...\n\n" ++
  "Arguments:\n" ++
  "  <INPUT>...              Corpus JSON files\n\n" ++
  "Options:\n" ++
  "  -o, --output <DIR>      Output directory\n" ++
  "  -s, --source <CODE>     Allowed source code (repeatable; default all)\n" ++
  "  -c, --config <FILE>     TOML configuration file\n" ++
  "      --link-references   Turn references into links between documents\n" ++
  "  -q, --quiet             Suppress the summary line\n" ++
  "  -v, --verbose           Report every file\n" ++
  "  -h, --help              Print help\n" ++
  "  -V, --version           Print version\n"

/-- The version of the program. -/
def versionLine : String := "compendium 0.1.0"

end Compendium.CommandLine

import PropForge.CommandLine.Read
import PropForge.Project.Generate

/-!
The commands and their grammars: what is asked for on the command line as values.
-/

namespace PropForge.CommandLine

/-- What a command line asks for. -/
inductive Command where
  | extract (file : Path) (asDocument : Bool) (output : Option Path)
  | generate (files : List Path) (choices : GenerateChoices)
  | isolate (file outputDir : Path) (templates : Bool) (frameworks : List String)
  | syncRoutes (root : Path)
  | initManifest (root : Path)
  | showManifest (root : Path)
  deriving DecidableEq, Repr

/-- A command with what holds for every command. -/
structure Request where
  verbose : Bool
  logFile : Option Path
  command : Command
  deriving DecidableEq, Repr

def Command.name : Command → String
  | extract .. => "extract"
  | generate .. => "generate"
  | isolate .. => "isolate"
  | syncRoutes _ => "sync-routes"
  | initManifest _ | showManifest _ => "manifest"

/-- The directory of the project that a command is for. -/
def Command.root : Command → Path
  | syncRoutes root | initManifest root | showManifest root => root
  | _ => .ofText "."

section Grammars

def helpFlag : Argument := ⟨["-h", "--help"], "help", .help, [], false⟩

def verboseFlag : Argument := .flag ["-v", "--verbose"] "verbose"

def frameworkNames : List String := Framework.all.map Framework.name

def rootPlace : Argument := .place "root" .optional

def extractGrammar : Grammar where
  program := "pfgen extract"
  usage := ["usage: pfgen extract [-h] [-v] [--json] [--output OUTPUT] path"]
  help := [
    "positional arguments:",
    "  path             Path to a .ts/.tsx component source file.",
    "",
    "options:",
    "  -h, --help       show this help message and exit",
    "  -v, --verbose    Increase log verbosity for troubleshooting.",
    "  --json           Print the full schema as JSON instead of the summary",
    "                   report.",
    "  --output OUTPUT  Write the output to this file instead of stdout."]
  arguments := [helpFlag, verboseFlag, .place "path" .one, .flag ["--json"] "json",
    .option ["--output"] "output"]

def generateGrammar : Grammar where
  program := "pfgen generate"
  usage := [
    "usage: pfgen generate [-h] [-v] [--framework \x7bnextjs,vue,svelte\x7d]",
    "                      [--output-dir OUTPUT_DIR] [--no-tests] [--no-stories]",
    "                      [--no-types] [--no-docs] [--with-config] [--with-styles]",
    "                      paths [paths ...]"]
  help := [
    "positional arguments:",
    "  paths                 Component source files.",
    "",
    "options:",
    "  -h, --help            show this help message and exit",
    "  -v, --verbose         Increase log verbosity for troubleshooting.",
    "  --framework \x7bnextjs,vue,svelte\x7d",
    "                        Target framework (defaults to the configured",
    "                        framework).",
    "  --output-dir OUTPUT_DIR",
    "                        Directory that receives one folder per component.",
    "  --no-tests            Skip the test file.",
    "  --no-stories          Skip the stories file.",
    "  --no-types            Skip the types file.",
    "  --no-docs             Skip the Markdown docs.",
    "  --with-config         Also write the framework config file.",
    "  --with-styles         Also write a CSS module."]
  arguments := [helpFlag, verboseFlag, .place "paths" .several,
    { Argument.option ["--framework"] "framework" with choices := frameworkNames },
    .option ["--output-dir"] "output_dir", .flag ["--no-tests"] "no_tests",
    .flag ["--no-stories"] "no_stories", .flag ["--no-types"] "no_types",
    .flag ["--no-docs"] "no_docs", .flag ["--with-config"] "with_config",
    .flag ["--with-styles"] "with_styles"]

def isolateGrammar : Grammar where
  program := "pfgen isolate"
  usage := [
    "usage: pfgen isolate [-h] [-v] --output-dir OUTPUT_DIR [--templates]",
    "                     [--framework \x7bnextjs,vue,svelte\x7d]",
    "                     path"]
  help := [
    "positional arguments:",
    "  path                  Path to a .ts/.tsx component source file.",
    "",
    "options:",
    "  -h, --help            show this help message and exit",
    "  -v, --verbose         Increase log verbosity for troubleshooting.",
    "  --output-dir OUTPUT_DIR",
    "                        Directory that receives the component schema folder.",
    "  --templates           Also write framework template previews.",
    "  --framework \x7bnextjs,vue,svelte\x7d",
    "                        Framework preview to write; repeat for several",
    "                        (default: nextjs)."]
  arguments := [helpFlag, verboseFlag, .place "path" .one,
    { Argument.option ["--output-dir"] "output_dir" with required := true },
    .flag ["--templates"] "templates",
    { Argument.option ["--framework"] "frameworks" with choices := frameworkNames }]

def syncRoutesGrammar : Grammar where
  program := "pfgen sync-routes"
  usage := ["usage: pfgen sync-routes [-h] [-v] [root]"]
  help := [
    "positional arguments:",
    "  root           Path to the project root (defaults to current directory).",
    "",
    "options:",
    "  -h, --help     show this help message and exit",
    "  -v, --verbose  Increase log verbosity for troubleshooting."]
  arguments := [helpFlag, verboseFlag, rootPlace]

def manifestGrammar : Grammar where
  program := "pfgen manifest"
  usage := ["usage: pfgen manifest [-h] [-v] \x7binit,show\x7d [root]"]
  help := [
    "positional arguments:",
    "  \x7binit,show\x7d",
    "  root           Path to the project root (defaults to current directory).",
    "",
    "options:",
    "  -h, --help     show this help message and exit",
    "  -v, --verbose  Increase log verbosity for troubleshooting."]
  arguments := [helpFlag, verboseFlag,
    { Argument.place "action" .one with choices := ["init", "show"] }, rootPlace]

/-- The grammars of the commands by their names. -/
def commandGrammars : List (String × Grammar) :=
  [("extract", extractGrammar), ("generate", generateGrammar), ("isolate", isolateGrammar),
    ("sync-routes", syncRoutesGrammar), ("manifest", manifestGrammar)]

def mainGrammar : Grammar where
  program := "pfgen"
  usage := [
    "usage: pfgen [-h] [-v] [--log-file LOG_FILE]",
    "             \x7bextract,generate,isolate,sync-routes,manifest\x7d ..."]
  help := [
    "Extract PatternFly component schemas and generate framework templates.",
    "",
    "positional arguments:",
    "  \x7bextract,generate,isolate,sync-routes,manifest\x7d",
    "    extract             Extract a component schema and print a summary.",
    "    generate            Generate framework files for one or more components.",
    "    isolate             Save a component schema, types and validation rules as",
    "                        isolated files.",
    "    sync-routes         Sync page routes from the app directory into",
    "                        public/routes.json.",
    "    manifest            Create or show the .build.json project manifest.",
    "",
    "options:",
    "  -h, --help            show this help message and exit",
    "  -v, --verbose         Increase log verbosity for troubleshooting.",
    "  --log-file LOG_FILE   Also write DEBUG-level logs to this file."]
  arguments := [helpFlag, verboseFlag, .option ["--log-file"] "log_file",
    { Argument.place "command" .command with choices := commandGrammars.map (·.1) }]

end Grammars

section Requests

/-- The path that an argument was given last. -/
def pathOf (r : Reading) (name : String) : Option Path := (r.value? name).map Path.ofText

/-- A choice that an option makes. -/
def choice (r : Reading) (name : String) (value : Bool) : Option Bool :=
  if r.has name then some value else none

def rootOf (r : Reading) : Path := .ofText ((r.value? "root").getD ".")

/-- The command of a name with its arguments. -/
def commandOf (name : String) (r : Reading) : Command :=
  match name with
  | "extract" =>
    .extract ((pathOf r "path").getD (.ofText "")) (r.has "json") (pathOf r "output")
  | "generate" =>
    .generate ((r.values "paths").map Path.ofText) {
      framework := r.value? "framework"
      outputDir := pathOf r "output_dir"
      includeTests := choice r "no_tests" false
      includeStories := choice r "no_stories" false
      includeTypes := choice r "no_types" false
      includeDocumentation := choice r "no_docs" false
      includeConfig := choice r "with_config" true
      includeStyles := choice r "with_styles" true }
  | "isolate" =>
    .isolate ((pathOf r "path").getD (.ofText "")) ((pathOf r "output_dir").getD (.ofText ""))
      (r.has "templates") (r.allValues "frameworks")
  | "manifest" =>
    if r.value? "action" = some "init" then .initManifest (rootOf r)
    else .showManifest (rootOf r)
  | _ => .syncRoutes (rootOf r)

/-- The request that a command line makes. A command's own misuse is reported by its grammar; what
nothing takes is reported last. -/
def request (words : List String) : Except Stop Request := do
  let outer ← read mainGrammar words
  let name := (outer.value? "command").getD ""
  let grammar := ((commandGrammars.find? fun (n, _) => n = name).map (·.2)).getD mainGrammar
  let inner ← read grammar ((outer.values "command").drop 1)
  match outer.leftOver ++ inner.leftOver with
  | [] => return {
      verbose := outer.has "verbose" || inner.has "verbose"
      logFile := pathOf outer "log_file"
      command := commandOf name inner }
  | words => .error (.misuse mainGrammar (.unrecognized words))

end Requests

end PropForge.CommandLine

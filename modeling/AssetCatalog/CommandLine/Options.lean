import AssetCatalog.Text

/-! The options of the command line, and the text that explains them. -/

namespace AssetCatalog.CommandLine

/-- What an option is about. -/
inductive Subject where
  /-- The explanation of the options. -/
  | help
  /-- The project directory. -/
  | input
  /-- The place of the module. -/
  | output
  /-- The configuration file. -/
  | config
  /-- The name of the outermost class. -/
  | className
  /-- What every web path starts with. -/
  | pathBase
  /-- The directory of the assets. -/
  | rootDirectory
  /-- Whether extensions are taken off the names. -/
  | stripExtensions
  /-- The names to skip. -/
  | exclude
  /-- Whether sources are checked. -/
  | check
  /-- Whether the module is shown and not written. -/
  | dryRun
  /-- Whether the configuration is shown. -/
  | dumpConfig
  /-- Whether the log goes into details. -/
  | debug
  /-- The log file. -/
  | logFile
  /-- Whether the report is shown as JSON. -/
  | json
deriving DecidableEq, Repr

/-- An option. -/
structure CommandOption where
  /-- What it is about. -/
  subject : Subject
  /-- Its spellings, the short one first. -/
  spellings : List Text
  /-- Whether an argument belongs to it. -/
  takesValue : Bool
deriving DecidableEq, Repr

/-- The options in order. -/
def options : List CommandOption := [
  ⟨.help, ["-h", "--help"], false⟩,
  ⟨.input, ["-i", "--input"], true⟩,
  ⟨.output, ["-o", "--output"], true⟩,
  ⟨.config, ["-c", "--config"], true⟩,
  ⟨.className, ["--class-name"], true⟩,
  ⟨.pathBase, ["--path-base"], true⟩,
  ⟨.rootDirectory, ["--root-dir"], true⟩,
  ⟨.stripExtensions, ["--no-flatten-extensions"], false⟩,
  ⟨.exclude, ["--exclude"], true⟩,
  ⟨.check, ["--check"], false⟩,
  ⟨.dryRun, ["--dry-run"], false⟩,
  ⟨.dumpConfig, ["--dump-config"], false⟩,
  ⟨.debug, ["--debug"], false⟩,
  ⟨.logFile, ["--log-file"], true⟩,
  ⟨.json, ["--json"], false⟩]

/-- All spellings with their options, in order. -/
def spellings : List (Text × CommandOption) :=
  options.flatMap fun option => option.spellings.map fun spelling => (spelling, option)

/-- How an option is called in messages. -/
def CommandOption.name (option : CommandOption) : Text :=
  Text.joinWith ['/'] option.spellings

/-- Lines of text, each of them ended. -/
def lines (texts : List String) : Text :=
  texts.flatMap fun text => text.toList ++ ['\n']

/-- How the command is called, on lines that fit a screen. -/
def usage : Text := lines [
  "usage: assetgen [-h] [-i INPUT_PATH] [-o OUTPUT_PATH] [-c CONFIG_PATH]",
  "                [--class-name CLASS_NAME] [--path-base PATH_BASE]",
  "                [--root-dir ROOT_DIRECTORY] [--no-flatten-extensions]",
  "                [--exclude EXCLUDE_PATTERNS] [--check] [--dry-run]",
  "                [--dump-config] [--debug] [--log-file LOG_FILE] [--json]"]

/-- The explanation of the command and its options. -/
def help : Text := usage ++ lines [
  "",
  "Generate a Python module of strongly-typed static asset paths from the files",
  "under a project's asset root.",
  "",
  "options:",
  "  -h, --help            show this help message and exit",
  "  -i INPUT_PATH, --input INPUT_PATH",
  "                        Project directory to scan (default: current",
  "                        directory).",
  "  -o OUTPUT_PATH, --output OUTPUT_PATH",
  "                        Generated module path (default:",
  "                        <input>/<class_name_in_snake_case>.py).",
  "  -c CONFIG_PATH, --config CONFIG_PATH",
  "                        JSON configuration file (default:",
  "                        <input>/assetgen.json when present).",
  "  --class-name CLASS_NAME",
  "                        Name of the outermost generated class (default:",
  "                        StaticAssets).",
  "  --path-base PATH_BASE",
  "                        Prefix for every emitted path; '.' emits relative",
  "                        paths (default: /).",
  "  --root-dir ROOT_DIRECTORY",
  "                        Name of the asset root directory (default: wwwroot).",
  "  --no-flatten-extensions",
  "                        Strip only the last extension from identifiers",
  "                        (style.min.css -> StyleMin).",
  "  --exclude EXCLUDE_PATTERNS",
  "                        Comma-separated regexes for directory/file names to",
  "                        skip while scanning.",
  "  --check               Also report hardcoded asset paths in the project's",
  "                        Python sources.",
  "  --dry-run             Print the generated module instead of writing it.",
  "  --dump-config         Print the effective configuration and exit.",
  "  --debug               Elevate logging verbosity to DEBUG.",
  "  --log-file LOG_FILE   Also write logs to this rotating file.",
  "  --json                Print the result as JSON."]

end AssetCatalog.CommandLine

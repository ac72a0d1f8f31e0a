import Reroute.Text

set_option autoImplicit false

namespace Reroute.Command

def programName : Text :=
  "import-rename".toList

def versionText : Text :=
  line (programName ++ " 0.1.0".toList)

def usageLines : List Text :=
  ["Rename import paths with prefix, major version and regexp rules".toList,
   [],
   "Usage: import-rename [OPTIONS] [PATHS]... [COMMAND]".toList,
   [],
   "Commands:".toList,
   "  check RULE       Parse and compile a single rule, then describe it".toList,
   "  config show      Display the config cascade with source annotations".toList,
   "  config validate  Check all config files for errors without matching anything".toList,
   [],
   "Options:".toList,
   "  -r, --rule RULE   Rule to apply, may be repeated".toList,
   "      --init        Create a template .import-rename.toml in the current directory".toList,
   "      --force       Overwrite existing .import-rename.toml when using --init".toList,
   "      --color WHEN  When to color rule diagnostics: auto, always or never".toList,
   "  -v, --verbose     Increase log verbosity (-v, -vv, -vvv)".toList,
   "  -h, --help        Print help".toList,
   "  -V, --version     Print version".toList]

def usageText : Text :=
  usageLines.flatMap line

def misuseText : Text :=
  line "error: invalid arguments".toList ++ line [] ++
    line "For more information, try '--help'.".toList

end Reroute.Command

import Reroute.Text

set_option autoImplicit false

namespace Reroute.Settings

def starterLines : List Text :=
  ["# import-rename configuration".toList,
   "#".toList,
   "# Rules are tried in order, the first one that matches an import path wins.".toList,
   "# Config files in parent directories are consulted too, unless \x60root = true\x60.".toList,
   [],
   "root = true".toList,
   [],
   "# Skip ~/.import-rename.toml when this variable is set (e.g. on CI).".toList,
   "# root-config-lookup-disable-env-var = \x22CI\x22".toList,
   [],
   "# Replace a prefix. A prefix ending in / also matches the bare path.".toList,
   "[[rules]]".toList,
   "rule = \x22github.com/old-org/ => github.com/new-org/\x22".toList,
   "description = \x22organisation moved\x22".toList,
   [],
   "# Bump the major version suffix: \x60++\x60 for one step, \x60+= N\x60 for N steps.".toList,
   "# [[rules]]".toList,
   "# rule = \x22github.com/new-org/project ++\x22".toList,
   [],
   "# Regexp with a substitution template.".toList,
   "# [[rules]]".toList,
   "# rule = '^gen/(.*)$ // example.com/schema/$1'".toList]

def starter : Text :=
  starterLines.flatMap line

end Reroute.Settings

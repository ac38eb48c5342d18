import Shorthand.Text.Basic

/-! The texts a command shows about itself: usage, help and version. -/
namespace Shorthand.CommandLine

/-- Lines of text, each ended by a line feed. -/
def textOfLines (lines : List String) : Text := lines.flatMap fun l => l.toList ++ ['\n']

/-- Name of the command that generates code. -/
def commandName : Text := "autotyper".toList

/-- Name of the command that serves requests. -/
def serverName : Text := "autotyper-server".toList

/-- Version of the program. -/
def version : Text := "0.1.0".toList

/-- What is shown for the version. -/
def versionLine : Text := commandName ++ " v".toList ++ version ++ ['\n']

/-- How the command is called. -/
def usage : Text := textOfLines
  ["usage: autotyper [-h] [-v] [--mode \x7btype,interface,zod,all,json\x7d] [--type]",
   "                 [--interface] [--zod] [--outdir PATH] [--dry-run] [--strict]",
   "                 [--optional-by-default] [--no-zod] [--no-interface]",
   "                 [--no-example] [--config FILE]",
   "                 [--log-level \x7bdebug,info,warning,error,critical\x7d]",
   "                 [dsl ...]"]

/-- What the command says about itself. -/
def help : Text := usage ++ textOfLines
  ["",
   "autotyper: generate TypeScript (and Zod) from a tiny DSL",
   "",
   "positional arguments:",
   "  dsl                   DSL words (joined with spaces), or: completion",
   "                        <bash|zsh|fish>",
   "",
   "options:",
   "  -h, --help            show this help message and exit",
   "  -v, --version         Print version",
   "  --log-level \x7bdebug,info,warning,error,critical\x7d",
   "                        Logging level (default: $AUTOTYPER_LOG_LEVEL or",
   "                        warning)",
   "",
   "output:",
   "  --mode \x7btype,interface,zod,all,json\x7d",
   "                        Output mode (default: type)",
   "  --type                Write <outdir>/<type-name>.type.ts",
   "  --interface           Write <outdir>/<type-name>.interface.ts",
   "  --zod                 Write <outdir>/<type-name>.zod.ts",
   "  --outdir PATH         Output directory (default: ./core)",
   "  --dry-run             Print what would be written without writing",
   "",
   "generation options:",
   "  --strict              Zod: add .strict()",
   "  --optional-by-default",
   "                        Make fields optional unless you mark them with !",
   "  --no-zod              Disable zod output (only affects json/all)",
   "  --no-interface        Disable interface output (only affects json/all)",
   "  --no-example          Disable example output (only affects json/all)",
   "  --config FILE         JSON file with generation options",
   "",
   "Examples:",
   "  autotyper \"User email:s password:s isAdmin?:b createdAt:d tags:s[]\"",
   "  echo \"User email:s isAdmin?:b\" | autotyper",
   "  autotyper --mode all \"User email:s isAdmin?:b\"",
   "  autotyper --mode json --strict \"User email:s createdAt:d\"",
   "  autotyper --type --zod --outdir src/models \"User email:s\"",
   "  autotyper completion <bash|zsh|fish>",
   "",
   "Also supports the old format:",
   "  autotyper \"type:user-email:s/password:s/isAdmin:b:o\"",
   "",
   "Shell completion:",
   "  autotyper completion bash > ~/.bash_completion.d/autotyper",
   "  autotyper completion zsh  > ~/.zsh/completions/_autotyper",
   "  autotyper completion fish > ~/.config/fish/completions/autotyper.fish"]

/-- How the server is called. -/
def serverUsage : Text := textOfLines
  ["usage: autotyper-server [-h] [--host HOST] [--port PORT]",
   "                        [--log-level \x7bdebug,info,warning,error,critical\x7d]"]

/-- What the server says about itself. -/
def serverHelp : Text := serverUsage ++ textOfLines
  ["",
   "Serve the autotyper DSL API over HTTP",
   "",
   "options:",
   "  -h, --help            show this help message and exit",
   "  --host HOST           Bind address (default: 127.0.0.1)",
   "  --port PORT           Port (default: 3000)",
   "  --log-level \x7bdebug,info,warning,error,critical\x7d",
   "                        Logging level (default: info)"]

end Shorthand.CommandLine

import Shorthand.CommandLine.Usage
import Shorthand.Text.Lowercase

/-! Scripts that teach a shell to complete the command's arguments. -/
namespace Shorthand.CommandLine

/-- The shells there is a script for. -/
inductive Shell where
  | bash
  | zsh
  | fish
  deriving DecidableEq, Repr

namespace Shell

def list : List Shell := [.bash, .zsh, .fish]

def name : Shell → Text
  | .bash => "bash".toList
  | .zsh => "zsh".toList
  | .fish => "fish".toList

/-- The shell with this name, in capitals or not. -/
def ofName? (name : Text) : Option Shell := list.find? (·.name == Text.lower name)

/-- Completion for bash. -/
def bashScript : Text := textOfLines
  ["_autotyper() \x7b",
   "  local cur prev opts",
   "  COMPREPLY=()",
   "  cur=\"$\x7bCOMP_WORDS[COMP_CWORD]\x7d\"",
   "  prev=\"$\x7bCOMP_WORDS[COMP_CWORD-1]\x7d\"",
   "",
   "  opts=\"--help -h --version -v --mode --strict --optional-by-default --no-zod --no-interface --no-example --type --zod --interface --outdir --dry-run --config --log-level completion\"",
   "",
   "  if [[ \"$\x7bprev\x7d\" == \"--mode\" ]]; then",
   "    COMPREPLY=( $(compgen -W \"type interface zod all json\" -- \"$\x7bcur\x7d\") )",
   "    return 0",
   "  fi",
   "",
   "  if [[ \"$\x7bprev\x7d\" == \"--outdir\" ]]; then",
   "    COMPREPLY=( $(compgen -d -- \"$\x7bcur\x7d\") )",
   "    return 0",
   "  fi",
   "",
   "  if [[ \"$\x7bprev\x7d\" == \"--config\" ]]; then",
   "    COMPREPLY=( $(compgen -f -- \"$\x7bcur\x7d\") )",
   "    return 0",
   "  fi",
   "",
   "  COMPREPLY=( $(compgen -W \"$\x7bopts\x7d\" -- \"$\x7bcur\x7d\") )",
   "  return 0",
   "\x7d",
   "complete -F _autotyper autotyper"]

/-- Completion for zsh. -/
def zshScript : Text := textOfLines
  ["#compdef autotyper",
   "_arguments \\",
   "  '--help[Show help]' \\",
   "  '--version[Show version]' \\",
   "  '--mode[Output mode]:mode:(type interface zod all json)' \\",
   "  '--strict[Zod strict mode]' \\",
   "  '--optional-by-default[Optional fields unless !]' \\",
   "  '--no-zod[Disable zod output]' \\",
   "  '--no-interface[Disable interface output]' \\",
   "  '--no-example[Disable example output]' \\",
   "  '--type[Write <outdir>/<name>.type.ts]' \\",
   "  '--zod[Write <outdir>/<name>.zod.ts]' \\",
   "  '--interface[Write <outdir>/<name>.interface.ts]' \\",
   "  '--outdir[Output directory]:dir:_files -/' \\",
   "  '--dry-run[Show what would be written]' \\",
   "  '--config[JSON options file]:file:_files' \\",
   "  '--log-level[Logging level]:level:(debug info warning error critical)' \\",
   "  '1: :_guard \"^-*\" \"dsl or subcommand\"' \\",
   "  '*: :_files'"]

/-- Completion for fish. -/
def fishScript : Text := textOfLines
  ["complete -c autotyper -l help -s h -d \"Show help\"",
   "complete -c autotyper -l version -s v -d \"Show version\"",
   "complete -c autotyper -l mode -d \"Output mode\" -xa \"type interface zod all json\"",
   "complete -c autotyper -l strict -d \"Zod strict mode\"",
   "complete -c autotyper -l optional-by-default -d \"Optional fields unless !\"",
   "complete -c autotyper -l no-zod -d \"Disable zod output\"",
   "complete -c autotyper -l no-interface -d \"Disable interface output\"",
   "complete -c autotyper -l no-example -d \"Disable example output\"",
   "complete -c autotyper -l type -d \"Write <outdir>/<name>.type.ts\"",
   "complete -c autotyper -l zod -d \"Write <outdir>/<name>.zod.ts\"",
   "complete -c autotyper -l interface -d \"Write <outdir>/<name>.interface.ts\"",
   "complete -c autotyper -l outdir -d \"Output directory\" -r",
   "complete -c autotyper -l dry-run -d \"Show what would be written\"",
   "complete -c autotyper -l config -d \"JSON options file\" -r",
   "complete -c autotyper -l log-level -d \"Logging level\" -xa \"debug info warning error critical\"",
   "complete -c autotyper -f -a \"completion\" -d \"Print shell completion\""]

/-- The script for a shell. -/
def script : Shell → Text
  | .bash => bashScript
  | .zsh => zshScript
  | .fish => fishScript

end Shell

/-- How completion is asked for. -/
def completionUsage : Text :=
  "Usage: autotyper completion <".toList ++ Text.join ['|'] (Shell.list.map Shell.name) ++
    ">".toList

end Shorthand.CommandLine

import StructuralDiff.CommandLine.Arguments

/-!
# Help texts

What the program prints about its commands and options.
-/

namespace StructuralDiff.Topic

/-- The lines about a topic. -/
def lines : Topic → List String
  | .program => [
    "Structural, semantics-aware diffs of code graphs",
    "",
    "Usage: rift [OPTIONS] <COMMAND>",
    "",
    "Commands:",
    "  diff     Diff two checkouts and print per-file risk",
    "  clear    Remove every stored graph",
    "  version  Show version",
    "  help     Print this message or the help of the given subcommand(s)",
    "",
    "Options:",
    "  -v, --verbose      Enable verbose logging",
    "  -r, --root <ROOT>  Directory holding rift.toml and the graph store (defaults to current directory)"
      ++ " [default: .]",
    "  -h, --help         Print help"]
  | .diff => [
    "Diff two checkouts and print per-file risk",
    "",
    "Usage: rift diff [OPTIONS] <OLD> <NEW>",
    "",
    "Arguments:",
    "  <OLD>  Old snapshot directory",
    "  <NEW>  New snapshot directory",
    "",
    "Options:",
    "      --repo <REPO>      Repository id used for graph storage",
    "      --patch <PATCH>    Unified diff (`git diff` output) supplying hunks and file statuses",
    "      --search <SEARCH>  Also list new-side nodes matching this query",
    "      --json             Print summaries as JSON",
    "  -h, --help             Print help"]
  | .clear => [
    "Remove every stored graph",
    "",
    "Usage: rift clear",
    "",
    "Options:",
    "  -h, --help  Print help"]
  | .version => [
    "Show version",
    "",
    "Usage: rift version",
    "",
    "Options:",
    "  -h, --help  Print help"]
  | .help => [
    "Print this message or the help of the given subcommand(s)",
    "",
    "Usage: rift help [COMMAND]...",
    "",
    "Arguments:",
    "  [COMMAND]...  Print help for the subcommand(s)"]

/-- The text about a topic. -/
def text (topic : Topic) : String :=
  String.join (topic.lines.map (· ++ "\n"))

end StructuralDiff.Topic

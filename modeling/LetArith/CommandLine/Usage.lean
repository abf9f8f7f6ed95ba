namespace LetArith.CommandLine

/-- The name by which the program is called. -/
def programName : String := "ringo"

/-- How the program is called. -/
def usage : String :=
  "usage: ringo [-h] [-s] [--tokens] [--json] [-o OUTFILE] [--repl] [--verbose]\n"
  ++ "             [--log-level \x7bDEBUG,INFO,WARNING,ERROR\x7d]\n"
  ++ "             [source]\n"

/-- How the program is called, and what its argument and its options mean. -/
def help : String :=
  usage
  ++ "\n"
  ++ "positional arguments:\n"
  ++ "  source                Filename or raw source (with -s)\n"
  ++ "\n"
  ++ "options:\n"
  ++ "  -h, --help            show this help message and exit\n"
  ++ "  -s, --string          Interpret source as literal string\n"
  ++ "  --tokens              Print the token stream instead of the tree\n"
  ++ "  --json                Print the tree as JSON\n"
  ++ "  -o OUTFILE, --out OUTFILE\n"
  ++ "                        Output to file\n"
  ++ "  --repl                Launch the interactive REPL\n"
  ++ "  --verbose             Debug logging; token echo in the REPL\n"
  ++ "  --log-level \x7bDEBUG,INFO,WARNING,ERROR\x7d\n"
  ++ "                        Logging level (default: $RINGO_LOG_LEVEL or WARNING)\n"

end LetArith.CommandLine

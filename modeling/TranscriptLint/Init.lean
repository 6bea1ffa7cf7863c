import TranscriptLint.FileTree

namespace TranscriptLint

/-!
# The default configuration file

A file with every option at its default, for users to change. An existing file is never touched.
-/

namespace Init

/-- The lines of the default configuration file. -/
def defaultLines : List String := [
  "# shdoclint configuration file",
  "",
  "# Language tags treated as shell transcripts (sh, bash, dash, ksh)",
  "dialects = [\"sh\", \"bash\", \"dash\", \"ksh\"]",
  "",
  "# shellcheck binary, looked up on PATH (version 0.4.0 or later)",
  "executable = \"shellcheck\"",
  "",
  "# Character that starts a command line in a transcript",
  "prompt = \"$\"",
  "",
  "# Trace blocks, generated scripts and linter output (0 or 1)",
  "debug = 0",
  "",
  "# Tab stop used when expanding tabs in documents and Python sources",
  "tab-width = 8",
  "",
  "# Linter timeout in milliseconds (0 disables it)",
  "timeout = 30000",
  "",
  "# Write the report to a file as well (truncated on every run)",
  "# report-file = \"_build/shellcheck/output.txt\"",
  "",
  "# Where modules named by `.. autofunction::` are looked up",
  "python-path = [\".\"]",
  "",
  "# Glob patterns skipped when searching directories",
  "exclude = [\"_build/**\", \".tox/**\", \"node_modules/**\"]"]

/-- The text of the default configuration file. -/
def defaultText : Text := defaultLines.flatMap fun line => line.toList ++ ['\n']

/-- Writes the default configuration file, unless something is at its path already. The flag says
that it was written. -/
def create (d : Disk) (path : Path) : Except Fault (Bool × Disk) :=
  if d.exists? path then .ok (false, d)
  else
    match d.write? path defaultText with
    | .ok d => .ok (true, d)
    | .error fault => .error fault

/-- The wording for a file that could not be written. -/
def failure (path : Path) (fault : Fault) : Text :=
  "Failed to access file ".toList ++ path.text ++ ": ".toList ++ fault.message

end Init
end TranscriptLint

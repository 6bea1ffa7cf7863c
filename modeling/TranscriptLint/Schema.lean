import TranscriptLint.Config
import TranscriptLint.Json.Writer

namespace TranscriptLint

/-!
# The schema of the configuration file

A JSON schema that editors use to check configuration files. It is built from the default
configuration, so it never names another default than the one that applies.

* `Schema.value` is the schema, `Schema.text` is how it is written.
* `Schema.file` is where it is kept.
-/

namespace Schema

/-- A text option. -/
def textType : List (String × Json) := [("type", .ofString "string")]

/-- An option that is a list of texts. -/
def textsType : List (String × Json) :=
  [("type", .ofString "array"), ("items", .ofMembers textType)]

/-- An option that counts something, in the given number format. -/
def countType (format : String) : List (String × Json) :=
  [("type", .ofString "integer"), ("format", .ofString format), ("minimum", .ofNat 0)]

/-- An option that is a text or absent. -/
def optionalTextType : List (String × Json) :=
  [("type", .array [.ofString "string", .ofString "null"])]

/-- The name under which the type of the `debug` option is defined. -/
def debugName : String := "DebugFlag"

/-- The `debug` option, by reference to its definition. -/
def debugType : List (String × Json) := [("$ref", .ofString ("#/$defs/" ++ debugName))]

/-- The type of the `debug` option: a truth value or a number. -/
def debugDefinition : Json :=
  .ofMembers [("description", .ofString "`debug` accepts `0`/`1` as well as booleans."),
    ("anyOf", .array [.ofMembers [("type", .ofString "boolean")],
      .ofMembers [("type", .ofString "integer"), ("format", .ofString "int64")]])]

/-- The value of the `debug` option. -/
def debugJson : DebugFlag → Json
  | .bool b => .bool b
  | .int n => .number (Text.ofInt n)

/-- A member of the schema that describes one option. -/
def property (name description : String) (type : List (String × Json)) (default : Json) :
    String × Json :=
  (name, .ofMembers
    (("description", .ofString description) :: type ++ [("default", default)]))

/-- The options of a configuration file with their defaults. -/
def properties (c : Config) : List (String × Json) := [
  property "dialects" "Language tags treated as shell transcripts" textsType
    (.ofTexts c.dialects),
  property "executable" "Name or path of the shellcheck binary" textType (.string c.executable),
  property "prompt" "Character that starts a command line in a transcript" textType
    (.string c.prompt),
  property "debug" "Trace blocks, generated scripts and linter output" debugType
    (debugJson c.debug),
  property "tab-width" "Tab stop used when expanding tabs in sources" (countType "uint")
    (.ofNat c.tabWidth),
  property "timeout" "Linter timeout in milliseconds (0 disables the timeout)"
    (countType "uint64") (.ofNat c.timeout),
  property "report-file" "File the report is written to, truncated at the start of each run"
    optionalTextType ((c.reportFile.map fun p => Json.string p.text).getD .null),
  property "python-path" "Directories searched for modules named by `.. autofunction::`"
    textsType (.ofTexts (c.searchPath.map Path.text)),
  property "exclude" "Glob patterns excluded from directory discovery" textsType
    (.ofTexts c.exclude)]

/-- The schema. -/
def value : Json :=
  .ofMembers [("$schema", .ofString "https://json-schema.org/draft/2020-12/schema"),
    ("title", .ofString "Config"),
    ("description", .ofString "Configuration as written in the config file"),
    ("type", .ofString "object"), ("properties", .ofMembers (properties {})),
    ("additionalProperties", .bool false),
    ("$defs", .ofMembers [(debugName, debugDefinition)])]

/-- The text of the schema. -/
def text : Text := value.pretty

/-- The name of the schema file. -/
def fileName : Path := .ofString "shdoclint.schema.json"

/-- The name of the file that marks the directory of the schema file. -/
def marker : Path := .ofString "Cargo.toml"

/-- The current directory and those above it, from the inside out. -/
def directoriesAbove (d : Disk) : List Path :=
  ((List.range (d.cwd.length + 1)).map fun k => Disk.pathOf (d.cwd.take k)).reverse

/-- Where the schema file is: beside the nearest marker, or in the current directory. -/
def file (d : Disk) : Path :=
  (((directoriesAbove d).find? fun dir => d.exists? (dir.join marker)).getD d.cwdPath).join fileName

end Schema
end TranscriptLint

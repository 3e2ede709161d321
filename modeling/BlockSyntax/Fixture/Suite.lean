import BlockSyntax.Command.Run
import BlockSyntax.Text.Space

/-!
# Fixture suites

A fixture is a sample program `tNAME.pdef` in a fixtures directory, beside the file
`tNAME.expected.txt` that holds what checking it must print.  A suite run finds the fixtures,
checks each one as the command `parse FILE` does, and compares the printed text with the
expected text, both with unified newlines and without white space at the end.  The checker's
output streams are read as text, so their newlines are unified as well.

The run prints a banner, the number of fixtures, a line per fixture and its verdict, and a
summary with the failed fixtures and why they failed; with `--verbose` a mismatch also shows both
texts.  It logs, at level `DEBUG` only with `--verbose`, the fixtures found, each command it runs
and the command's error stream.  With `--fail-fast` it stops after the first failure.  The exit
status is 0 when no fixture failed.

The fixtures directory is made absolute first, against the root for a path that starts with `/`
and against the working directory otherwise.  The fixtures are the entries directly in it whose
names start with `t` and end with `.pdef`, directories included, in the order of their names.  An
expected file that is not UTF-8, or that is a directory, ends the run with an error.
-/

namespace BlockSyntax.Fixture

/-- The options of a suite run. -/
structure Options where
  /-- The fixtures directory, if one was given. -/
  dir : Option String
  verbose : Bool
  failFast : Bool
  deriving DecidableEq, Repr

/-- The grammar of the suite's command line. -/
def grammar : Command.Grammar :=
  ⟨[Command.helpOption, ⟨["--fixtures-dir"], "dir", .value none⟩,
    ⟨["--verbose", "-v"], "verbose", .flag⟩, ⟨["--fail-fast", "-x"], "failFast", .flag⟩], []⟩

/-- What the suite's command line asks for. -/
inductive Request where
  | run (o : Options)
  | help
  | usage
  deriving DecidableEq, Repr

/-- Reads the suite's command line. -/
def request (args : List String) : Request :=
  match grammar.read args with
  | .error .help => .help
  | .error .usage => .usage
  | .ok t =>
    if t.extras.isEmpty then .run ⟨t.last? "dir", t.has "verbose", t.has "failFast"⟩ else .usage

/-- The help text of the suite's command line, set in 78 columns: what does not fit goes on the
next line, under the first option or under the start of the help. -/
def helpText : String :=
  "usage: run_fixtures.py [-h] [--fixtures-dir FIXTURES_DIR] [--verbose]\n" ++
  Command.spaces 23 ++ "[--fail-fast]\n" ++
  "\n" ++
  "Run pdef fixture programs\n" ++
  "\n" ++
  "options:\n" ++
  "  -h, --help            show this help message and exit\n" ++
  "  --fixtures-dir FIXTURES_DIR\n" ++
  Command.spaces 24 ++ "Directory containing fixtures (default:\n" ++
  Command.spaces 24 ++ "../tests/fixtures)\n" ++
  "  --verbose, -v         Enable verbose output\n" ++
  "  --fail-fast, -x       Stop on first failure\n"

/-- How a request that runs no suite ends: the exit status and what is printed on standard output.
Help prints its text and ends with status 0; a usage error prints its message on the error stream
and ends with status 2. -/
def Request.exit? : Request → Option (Nat × String)
  | .help => some (0, helpText)
  | .usage => some (2, "")
  | .run _ => none

/-- Where the run takes place: the directory tree, the text of the working directory, the command
that runs the checker, and the text of the fixtures directory used when none is given. -/
structure Context where
  disk : Disk
  root : String
  interpreter : String
  defaultDir : String

/-- A directory: a spot in the file system, or somewhere nothing is known of, by its text. -/
inductive Place where
  | known (s : Spot)
  | outside (text : String)
  deriving DecidableEq, Repr

/-- A path made absolute, `..` taking away the name before it: against the root for a path that
starts with `/` (the root is its own parent), else against the working directory. -/
def resolve (path : String) : Place :=
  .known ((Spot.start path).follow (pathNames path))

/-- The absolute text of a place. -/
def Context.text (ctx : Context) : Place → String
  | .known (.below ns) => ctx.root ++ String.join (ns.map ("/" ++ ·))
  | .known (.absolute []) => "/"
  | .known (.absolute ns) => String.join (ns.map ("/" ++ ·))
  | .outside t => t

/-- The place a name leads to inside a place. -/
def Place.down (p : Place) (name : String) : Place :=
  match p with
  | .known s => .known (s.down name)
  | .outside t => .outside (t ++ "/" ++ name)

/-- What a place holds, if the system can say; a name too long for a directory entry is an
error. -/
def Context.stat (ctx : Context) : Place → Except OpenError (Option Node)
  | .known s => ctx.disk.stat s
  | .outside _ => .ok none

/-- Opens the file at a place. -/
def Context.openAt (ctx : Context) : Place → Except OpenError (List UInt8)
  | .known s => ctx.disk.openAt s false
  | .outside _ => .error .missing

/-- The entries directly inside the directory at a place. -/
def Context.children (ctx : Context) : Place → List String
  | .known s => ctx.disk.children s
  | .outside _ => []

/-- Whether an entry's name makes it a fixture. -/
def isFixtureName (name : String) : Bool :=
  name.startsWith "t" && name.endsWith ".pdef"

/-- A fixture's name: its file name without `.pdef`. -/
def stem (name : String) : String :=
  String.ofList (name.toList.take (name.length - 5))

/-- A text with unified newlines and without white space at its end. -/
def normalize (cs : List Char) : String :=
  Text.trimEnd (String.ofList (Feed.unifyNewlines cs))

/-- Why a run stopped with an error. -/
inductive Crash where
  /-- An expected file is not UTF-8. -/
  | undecodable (e : Utf8.DecodeError)
  /-- An expected file is a directory. -/
  | directory (path : String)
  /-- A name on the path is too long for a directory entry. -/
  | nameTooLong (path : String)
  /-- The fixtures directory's path holds the character U+0000. -/
  | nullCharacter
  deriving DecidableEq, Repr

/-- The message of a crash. -/
def Crash.message : Crash → String
  | .undecodable e => e.message
  | .directory path => OpenError.describe .isDirectory path
  | .nameTooLong path => OpenError.describe .nameTooLong path
  | .nullCharacter => OpenError.describe .nullCharacter ""

/-- The verdict on one fixture. -/
structure Result where
  name : String
  passed : Bool
  error : String
  deriving DecidableEq, Repr

/-- What a run shows: the printed text, the log lines, and the exit status or the crash. -/
structure Outcome where
  stdout : String
  log : List String
  ending : Except Crash Nat

/-- A line of 50 `=`. -/
def rule : String := String.ofList (List.replicate 50 '=')

/-- The summary after the fixtures. -/
def summary (results : List Result) : String :=
  let passed := (results.filter (·.passed)).length
  let failed := results.length - passed
  let head := "\n" ++ rule ++ "\nFixture Summary: " ++ toString passed ++ " passed, " ++
    toString failed ++ " failed\n" ++ rule ++ "\n"
  if failed = 0 then head
  else head ++ "\nFailed fixtures:\n" ++
    String.join ((results.filter (!·.passed)).map fun r => "  - " ++ r.name ++ ": " ++ r.error ++ "\n")

/-- The state of a run between fixtures. -/
structure Progress where
  stdout : String
  log : List String
  results : List Result

/-- Checks one fixture, the entry `name` of the directory `dir`. -/
def Context.check (ctx : Context) (o : Options) (dir : Place) (name : String)
    (p : Progress) : Except (Crash × Progress) Progress :=
  let fixtureName := stem name
  let p := { p with stdout := p.stdout ++ "\n==> [fixture] " ++ fixtureName ++ "\n" }
  let expectedPlace := dir.down (fixtureName ++ ".expected.txt")
  match ctx.stat expectedPlace with
  | .error _ => .error (.nameTooLong (ctx.text expectedPlace), p)
  | .ok none =>
    .ok { p with results := p.results ++
      [⟨fixtureName, false, "Missing expected file: " ++ ctx.text expectedPlace⟩] }
  | .ok (some node) =>
    let path := ctx.text (dir.down name)
    let p := if o.verbose then
        { p with log := p.log ++ ["DEBUG: Running: " ++ ctx.interpreter ++ " -m pdef parse " ++ path] }
      else p
    let run := Command.runParse ⟨path, "", false, [], false⟩ (ctx.openAt (dir.down name))
    let p := if o.verbose && !run.stderr.isEmpty then
        { p with log := p.log ++ ["DEBUG: " ++ normalize run.stderr.toList] }
      else p
    let actual := normalize run.stdout.toList
    let expected : Except Crash String := match node with
      | .dir => .error (.directory (ctx.text expectedPlace))
      | .file bytes => (Utf8.decode bytes).map normalize |>.mapError .undecodable
    match expected with
    | .error c => .error (c, p)
    | .ok expected =>
      if actual = expected then
        .ok { p with
          stdout := p.stdout ++ "[fixture] PASS: " ++ fixtureName ++ "\n"
          results := p.results ++ [⟨fixtureName, true, ""⟩] }
      else
        let shown := if o.verbose then
            "---- expected ----\n" ++ expected ++ "\n---- actual ----\n" ++ actual ++ "\n"
          else ""
        .ok { p with
          stdout := p.stdout ++ "[fixture] FAIL: " ++ fixtureName ++ "\n" ++ shown
          results := p.results ++ [⟨fixtureName, false, "Output mismatch"⟩] }

/-- Checks the fixtures in order, stopping after a failure when asked to. -/
def Context.checkAll (ctx : Context) (o : Options) (dir : Place) :
    List String → Progress → Except (Crash × Progress) Progress
  | [], p => .ok p
  | name :: rest, p =>
    match ctx.check o dir name p with
    | .error e => .error e
    | .ok p =>
      if o.failFast && p.results.any (!·.passed) then
        .ok { p with log := p.log ++ ["INFO: Fail-fast enabled, stopping after first failure"] }
      else ctx.checkAll o dir rest p

/-- A suite run.  A fixtures directory whose path holds the character U+0000 stops it before
anything is printed. -/
def Context.run (ctx : Context) (o : Options) : Outcome :=
  if (o.dir.getD "").contains (Char.ofNat 0) then ⟨"", [], .error .nullCharacter⟩ else
  let place := match o.dir with
    | some d => resolve d
    | none => .outside ctx.defaultDir
  let shown := ctx.text place
  let banner := rule ++ "\npdef Fixture Runner\n" ++ rule ++ "\nFixtures directory: " ++ shown ++ "\n"
  let discovery : Except (Option String) (List String) :=
    match ctx.stat place with
    | .error _ => .error none
    | .ok none => .error (some ("Fixtures directory not found: " ++ shown))
    | .ok (some .dir) =>
      let names := ((ctx.children place).filter isFixtureName).mergeSort fun a b => a ≤ b
      if names.isEmpty then .error (some ("No fixtures found in " ++ shown)) else .ok names
    | .ok (some (.file _)) => .error (some ("No fixtures found in " ++ shown))
  match discovery with
  | .error none => ⟨banner, [], .error (.nameTooLong shown)⟩
  | .error (some message) => ⟨banner, ["ERROR: Fixture discovery failed: " ++ message], .ok 1⟩
  | .ok names =>
    let log := if o.verbose then ["DEBUG: Discovered " ++ toString names.length ++ " fixtures"] else []
    let start : Progress :=
      ⟨banner ++ "\nFound " ++ toString names.length ++ " fixture(s)\n", log, []⟩
    match ctx.checkAll o place names start with
    | .error (c, p) => ⟨p.stdout, p.log, .error c⟩
    | .ok p =>
      let failed := p.results.any (!·.passed)
      ⟨p.stdout ++ summary p.results, p.log, .ok (if failed then 1 else 0)⟩

end BlockSyntax.Fixture

import BlockSyntax.Command.Line
import BlockSyntax.Report
import BlockSyntax.Disk

/-!
# The checker's command line

`pdef parse FILE [FLAGS] [--echo] [--trace CHANNEL]... [-v]` checks a file,
`pdef tokens FILE [FLAGS] ...` lists its tokens, and `pdef version` shows the version.
`Command.request` reads the words of a command line into a `Request`; `Request.run` carries it out
on a way to open files, and gives the exit status and the texts of the two output streams.

The first word that is not an option names the command, and all words after it belong to the
command.  Options before it may only ask for help; any other is left over, and a word left over
anywhere is a usage error.

Checking a file prints, with `-v`, the file and the settings first; then the echo of the input
and a line end, when echo is on; then `Program parsed!`, or every syntax error and their count.
A file that cannot be opened or read is reported on the error stream.  Trace lines go to the
error stream as `pdef.CHANNEL: LINE`, and the checker's own messages as
`pdef.core.checker: MESSAGE`: `Checking FILE` and `Open failed: ...` with `-v` only,
`Read failed: ...` always.

Listing tokens prints each token on a line of its own, after the echo of the characters read
for it.
-/

namespace BlockSyntax.Command

/-- The options of `parse` and `tokens`. -/
structure Options where
  input : String
  flags : String
  echo : Bool
  traces : List String
  verbose : Bool
  deriving DecidableEq, Repr

/-- What a command line asks for. -/
inductive Request where
  | parse (o : Options)
  | tokens (o : Options)
  | version
  /-- Help on the command line as a whole, or on one command. -/
  | help (command : Option String)
  /-- The words break the command line's grammar. -/
  | usage
  deriving DecidableEq, Repr

/-- The help option, known to every command. -/
def helpOption : OptionSpec := ⟨["-h", "--help"], "help", .help⟩

/-- The grammar before the command. -/
def topGrammar : Grammar := ⟨[helpOption], []⟩

/-- The grammar of `parse` and `tokens`. -/
def fileGrammar : Grammar :=
  ⟨[helpOption, ⟨["--echo"], "echo", .flag⟩,
    ⟨["--trace"], "trace", .value (some ["tokenizer", "parser"])⟩,
    ⟨["-v", "--verbose"], "verbose", .flag⟩],
   [⟨"input", .one⟩, ⟨"flags", .optional⟩]⟩

/-- The grammar of `version`. -/
def versionGrammar : Grammar := ⟨[helpOption], []⟩

/-- The options a reading of `fileGrammar` gathered. -/
def Options.ofTally (t : Tally) : Options :=
  ⟨(t.slot? "input").getD "", (t.slot? "flags").getD "", t.has "echo", t.valuesOf "trace",
    t.has "verbose"⟩

/-- The request of the command `name` with the words after it; `extra` tells that words were
left over before it. -/
def commandRequest (name : String) (args : List String) (extra : Bool) : Request :=
  let read (g : Grammar) (k : Tally → Request) : Request :=
    match g.read args with
    | .error .help => .help (some name)
    | .error .usage => .usage
    | .ok t => if extra || !t.extras.isEmpty then .usage else k t
  match name with
  | "parse" => read fileGrammar fun t => .parse (Options.ofTally t)
  | "tokens" => read fileGrammar fun t => .tokens (Options.ofTally t)
  | "version" => read versionGrammar fun _ => .version
  | _ => .usage

/-- Reads the words before the command: options, of which only help means anything, until the
first word that is not an option. -/
def requestOf (ws : List Word) (extra : Bool) : Request :=
  match ws with
  | [] => .usage
  | .known h _ :: rest =>
    match topGrammar.option h rest Tally.empty with
    | .error .help => .help none
    | .error .usage => .usage
    | .ok (t, n) => requestOf (rest.drop n) (extra || !t.extras.isEmpty)
  | .unknown _ :: rest => requestOf rest true
  | w :: rest => commandRequest w.text (rest.map Word.text) extra
termination_by ws.length
decreasing_by all_goals (simp only [List.length_cons, List.length_drop]; omega)

/-- What a command line asks for. -/
def request (args : List String) : Request :=
  match topGrammar.words args with
  | .error _ => .usage
  | .ok ws => requestOf ws false

/-- What running a command shows. -/
structure Outcome where
  exit : Nat
  stdout : String
  stderr : String
  deriving DecidableEq, Repr

/-- A line of the error stream from the logger `logger`. -/
def logLine (logger message : String) : String :=
  logger ++ ": " ++ message ++ "\n"

/-- The logger of the checker's own messages. -/
def checkerLogger : String := "pdef.core.checker"

/-- The logger of a trace channel. -/
def channelLogger (c : Channel) : String := "pdef." ++ c.name

/-- The error stream's lines for trace lines. -/
def traceText (lines : List (Channel × String)) : String :=
  String.join (lines.map fun (c, l) => logLine (channelLogger c) l)

/-- The settings that the flag letters and the options select together. -/
def Options.settings (o : Options) : Settings :=
  let s := Settings.ofFlags o.flags
  ⟨s.echo || o.echo, s.traceTokenizer || o.traces.contains "tokenizer",
    s.traceParser || o.traces.contains "parser"⟩

/-- The line that ends a list of syntax errors. -/
def errorCount (n : Nat) : String :=
  toString n ++ " syntax error" ++ (if n = 1 then "" else "s") ++ " found"

/-- What checking a file shows.  `opened` is what opening the file gave. -/
def runParse (o : Options) (opened : Except OpenError (List UInt8)) : Outcome :=
  let settings := o.settings
  let shown := pathText o.input
  let head := if o.verbose then
      "[pdef] Checking: " ++ o.input ++ "\n[pdef] Settings: " ++ settings.render ++ "\n"
    else ""
  let log := if o.verbose then logLine checkerLogger ("Checking " ++ shown) else ""
  let (echo, log, result) : String × String × Except String (List SyntaxError) :=
    match opened with
    | .error e =>
      ("", log ++ (if o.verbose then logLine checkerLogger ("Open failed: " ++ e.describe shown)
        else ""), .error ("Could not open file `" ++ shown ++ "'"))
    | .ok bytes =>
      let r := Report.ofFeed (Feed.ofBytes bytes)
      let log := log ++ traceText (traceOf settings r.entries)
      match r.readFailure? with
      | some f => (echoOf r.entries, log ++ logLine checkerLogger ("Read failed: " ++ f.render),
          .error f.render)
      | none => (echoOf r.entries, log, .ok r.errors)
  let out := head ++ (if settings.echo then echo ++ "\n" else "")
  match result with
  | .error message => ⟨1, out, log ++ "[pdef] Error: " ++ message ++ "\n"⟩
  | .ok [] => ⟨0, out ++ "Program parsed!\n", log⟩
  | .ok errors =>
    ⟨1, out ++ String.join (errors.map (·.render ++ "\n")) ++ errorCount errors.length ++ "\n", log⟩

/-- What listing the tokens of a file shows.  `opened` is what opening the file gave. -/
def runTokens (o : Options) (opened : Except OpenError (List UInt8)) : Outcome :=
  match opened with
  | .error _ => ⟨1, "", "[pdef] Error: Could not open file `" ++ o.input ++ "'\n"⟩
  | .ok bytes =>
    let settings := o.settings
    let tape := (Reader.ofFeed (Feed.ofBytes bytes)).tape
    let echo (notes : Array Note) := if settings.echo then echoText notes.toList else ""
    let out := String.join (tape.steps.map fun s => echo s.notes ++ s.token.render ++ "\n")
    let log := if settings.traceTokenizer then
        String.join ((traceLines tape.notes).map (logLine (channelLogger .tokenizer)))
      else ""
    match tape.failure with
    | some (notes, f) => ⟨1, out ++ echo notes, log ++ "[pdef] Error: " ++ f.render ++ "\n"⟩
    | none => ⟨0, out, log⟩

/-- The version and authors. -/
def versionText : String :=
  "pdef version 0.1.0\nAuthor: pdef Team\n"

/-- Spaces, `n` of them. -/
def spaces (n : Nat) : String :=
  String.ofList (List.replicate n ' ')

/-- The help text of the command line as a whole. -/
def mainHelp : String :=
  "usage: pdef [-h] \x7bparse,tokens,version\x7d ...\n" ++
  "\n" ++
  "pdef: PDef-light syntax checker\n" ++
  "\n" ++
  "positional arguments:\n" ++
  "  \x7bparse,tokens,version\x7d\n" ++
  "    parse               Check that a file is a valid PDef-light program\n" ++
  "    tokens              Print the tokens of a file, one per line\n" ++
  "    version             Show version information\n" ++
  "\n" ++
  "options:\n" ++
  "  -h, --help            show this help message and exit\n" ++
  "\n" ++
  "Examples:\n" ++
  "  python -m pdef parse prog.pdef\n" ++
  "  python -m pdef parse prog.pdef etp\n" ++
  "  python -m pdef parse prog.pdef --trace parser\n" ++
  "  python -m pdef tokens prog.pdef\n" ++
  "\n" ++
  "Flag letters: e = echo input, t = trace tokenizer, p = trace parser\n" ++
  spaces 8 ++ "\n"

/-- The help text of `parse` or `tokens`.  Help is set in 78 columns, and the usage line with all
its words would pass them, so the positional words go on a line of their own, under the first
option; a help text that does not fit beside its option goes on under it. -/
def fileHelp (name : String) : String :=
  let prog := "pdef " ++ name
  "usage: " ++ prog ++ " [-h] [--echo] [--trace \x7btokenizer,parser\x7d] [-v]\n" ++
  spaces (prog.length + 8) ++ "input [flags]\n" ++
  "\n" ++
  "positional arguments:\n" ++
  "  input                 Input PDef-light source file\n" ++
  "  flags                 Debug flag letters: e (echo), t (tokenizer trace), p\n" ++
  spaces 24 ++ "(parser trace)\n" ++
  "\n" ++
  "options:\n" ++
  "  -h, --help            show this help message and exit\n" ++
  "  --echo                Echo the input as it is read\n" ++
  "  --trace \x7btokenizer,parser\x7d\n" ++
  spaces 24 ++ "Enable a trace channel (may be repeated)\n" ++
  "  -v, --verbose         Enable verbose output\n"

/-- The help text of `version`. -/
def versionHelp : String :=
  "usage: pdef version [-h]\n" ++
  "\n" ++
  "options:\n" ++
  "  -h, --help  show this help message and exit\n"

/-- The help text of the command line, or of one command. -/
def helpText : Option String → String
  | none => mainHelp
  | some "version" => versionHelp
  | some name => fileHelp name

/-- How a request ends. -/
inductive Answer where
  /-- The command ran, with this outcome. -/
  | done (o : Outcome)
  /-- Reading the command line ended the program before a command ran, with an exit status and
  what was printed: help, with status 0, or a usage error, with status 2 and its message on the
  error stream. -/
  | exit (code : Nat) (stdout : String)
  /-- Opening the file failed in a way the checker does not handle. -/
  | crash (e : OpenError)
  deriving DecidableEq, Repr

/-- Carries out a request; `openFile` opens a file by its path.  A path that no file name can be
is not a failure to open a file: the checker stops on it. -/
def Request.run (r : Request) (openFile : String → Except OpenError (List UInt8)) : Answer :=
  match r with
  | .parse o =>
    match openFile (pathText o.input) with
    | .error .nullCharacter => .crash .nullCharacter
    | opened => .done (runParse o opened)
  | .tokens o =>
    match openFile o.input with
    | .error .nullCharacter => .crash .nullCharacter
    | opened => .done (runTokens o opened)
  | .version => .done ⟨0, versionText, ""⟩
  | .help command => .exit 0 (helpText command)
  | .usage => .exit 2 ""

end BlockSyntax.Command

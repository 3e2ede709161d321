import BlockSyntax.Text.Quote

/-!
# Settings and trace channels

A check can echo its input and trace two channels: the scanner's (`tokenizer`) and the checker's
(`parser`).  `Settings.ofFlags` reads them from a string of flag letters: `e` for the echo, `t`
and `p` for the channels; other letters mean nothing.

`Diagnostics` is the registry of the two channels, switched on one flag at a time.  A flag or a
channel name it does not know is an error.  The null channel is a third channel that no flag
reaches and that stays off.
-/

namespace BlockSyntax

/-- The two trace channels. -/
inductive Channel where
  | tokenizer
  | parser
  deriving DecidableEq, Repr

namespace Channel

/-- The name of a channel. -/
def name : Channel → String
  | tokenizer => "tokenizer"
  | parser => "parser"

/-- The channel a name names. -/
def ofName? : String → Option Channel
  | "tokenizer" => some tokenizer
  | "parser" => some parser
  | _ => none

/-- The channel a flag switches on. -/
def ofFlag? : String → Option Channel
  | "t" => some tokenizer
  | "p" => some parser
  | _ => none

/-- The text form of a channel with `name`, on or off. -/
def describe (name : String) (enabled : Bool) : String :=
  "TraceChannel(" ++ Text.quote name ++ ", " ++ (if enabled then "on" else "off") ++ ")"

/-- The name of the channel that is always off. -/
def nullName : String := "null"

end Channel

/-- What a check shows besides its result. -/
structure Settings where
  echo : Bool
  traceTokenizer : Bool
  traceParser : Bool
  deriving DecidableEq, Repr

namespace Settings

/-- Everything off. -/
def quiet : Settings := ⟨false, false, false⟩

/-- The settings after one flag letter. -/
def withFlag (s : Settings) (c : Char) : Settings :=
  if c = 'e' then { s with echo := true }
  else if c = 't' then { s with traceTokenizer := true }
  else if c = 'p' then { s with traceParser := true }
  else s

/-- The settings that a string of flag letters selects. -/
def ofFlags (flags : String) : Settings :=
  flags.toList.foldl withFlag quiet

/-- Whether a channel is traced. -/
def traces (s : Settings) : Channel → Bool
  | .tokenizer => s.traceTokenizer
  | .parser => s.traceParser

/-- A truth value as the settings' text form writes it. -/
def showBool (b : Bool) : String :=
  if b then "True" else "False"

/-- The text form of settings. -/
def render (s : Settings) : String :=
  "Settings(echo=" ++ showBool s.echo ++ ", trace_tokenizer=" ++ showBool s.traceTokenizer ++
    ", trace_parser=" ++ showBool s.traceParser ++ ")"

end Settings

/-- Why the registry refused a request. -/
inductive DiagnosticsError where
  | unknownFlag (flag : String)
  | unknownChannel (name : String)
  deriving DecidableEq, Repr

/-- The message of a refused request. -/
def DiagnosticsError.message : DiagnosticsError → String
  | .unknownFlag flag => "Unknown trace flag: " ++ Text.quote flag
  | .unknownChannel name => "Unknown trace channel: " ++ Text.quote name

/-- The registry of trace channels: which are on. -/
structure Diagnostics where
  tokenizer : Bool
  parser : Bool
  deriving DecidableEq, Repr

namespace Diagnostics

/-- Both channels off. -/
def empty : Diagnostics := ⟨false, false⟩

/-- Whether a channel is on. -/
def enabled (d : Diagnostics) : Channel → Bool
  | .tokenizer => d.tokenizer
  | .parser => d.parser

/-- Switches on the channel of a flag. -/
def register (d : Diagnostics) (flag : String) : Except DiagnosticsError Diagnostics :=
  match Channel.ofFlag? flag with
  | some .tokenizer => .ok { d with tokenizer := true }
  | some .parser => .ok { d with parser := true }
  | none => .error (.unknownFlag flag)

/-- The channel of a name, and whether it is on. -/
def channel (d : Diagnostics) (name : String) : Except DiagnosticsError (Channel × Bool) :=
  match Channel.ofName? name with
  | some c => .ok (c, d.enabled c)
  | none => .error (.unknownChannel name)

/-- Whether some channel is on. -/
def anyEnabled (d : Diagnostics) : Bool :=
  d.tokenizer || d.parser

/-- The registry with the channel of every letter of `letters` switched on, letter by letter; the
first letter that names no channel is an error. -/
def ofLetters (letters : String) : Except DiagnosticsError Diagnostics :=
  letters.toList.foldlM (fun d c => d.register (String.singleton c)) empty

/-- The registry of the settings' channels. -/
def ofSettings (s : Settings) : Diagnostics :=
  ⟨s.traceTokenizer, s.traceParser⟩

end Diagnostics

end BlockSyntax

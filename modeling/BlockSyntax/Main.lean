import BlockSyntax.Command.Run

/-!
# The `pdef` executable

Reads the command line, opens the file the command names, and prints what `Request.run` gives.
-/

open BlockSyntax BlockSyntax.Command

/-- The path a request opens, if it opens one. -/
def requestPath : Request → Option String
  | .parse o => some (pathText o.input)
  | .tokens o => some o.input
  | _ => none

/-- Reads a file's bytes, or tells why it could not be opened. -/
def readBytes (path : String) : IO (Except OpenError (List UInt8)) := do
  if path.contains (Char.ofNat 0) then return .error .nullCharacter
  try
    let bytes ← IO.FS.readBinFile path
    return .ok bytes.toList
  catch e =>
    match e with
    | .noFileOrDirectory .. => return .error .missing
    | _ => return .error .isDirectory

def main (args : List String) : IO UInt32 := do
  let r := request args
  let opened ← match requestPath r with
    | some path => readBytes path
    | none => pure (.error .missing)
  match r.run (fun _ => opened) with
  | .exit code out =>
    IO.print out
    if code != 0 then IO.eprintln "usage: pdef [-h] \x7bparse,tokens,version\x7d ..."
    return code.toUInt32
  | .crash e =>
    IO.eprintln ("ValueError: " ++ e.describe "")
    return 1
  | .done o =>
    IO.print o.stdout
    IO.eprint o.stderr
    return o.exit.toUInt32

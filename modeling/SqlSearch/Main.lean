import SqlSearch.Program.Run

/-!
# The program

Reads the arguments and, if they hold no statement, the standard input; prints what
`runProgram` says. The reader of SQL text does not say where a text goes wrong, so nothing is
added to the message of a syntax error.
-/

namespace SqlSearch

/-- What the standard input holds, as far as it is asked for. -/
def readInput (arguments : List String) : IO Input := do
  match Invocation.ofArguments? arguments with
  | some (.command _ _ none) =>
    let stdin ← IO.getStdin
    if ← stdin.isTty then return .terminal
    let mut bytes := ByteArray.empty
    repeat
      let chunk ← stdin.read 65536
      if chunk.isEmpty then break
      bytes := bytes ++ chunk
    return Input.ofBytes bytes
  | _ => return .terminal

end SqlSearch

/-- The program. -/
def main (arguments : List String) : IO UInt32 := do
  let input ← SqlSearch.readInput arguments
  let outcome := SqlSearch.runProgram (fun _ _ => "") arguments input
  IO.print outcome.out
  if outcome.message ≠ "" then IO.eprintln outcome.message
  return outcome.exitCode.toUInt32

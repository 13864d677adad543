import Laminate.Plugin

/-! The plugin as a program: it reads a request from standard input and writes the response to
standard output. -/

/-- Everything that a stream has left. -/
partial def readAll (input : IO.FS.Stream) (read : ByteArray) : IO ByteArray := do
  let chunk ← input.read 65536
  if chunk.isEmpty then return read
  readAll input (read ++ chunk)

def main : IO UInt32 := do
  let octets ← readAll (← IO.getStdin) ByteArray.empty
  match Laminate.reply? octets.toList with
  | some reply =>
    let output ← IO.getStdout
    output.write ⟨reply.toArray⟩
    output.flush
    return 0
  | none => return 101

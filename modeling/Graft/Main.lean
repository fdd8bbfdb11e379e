import Graft.Command.File
import Graft.Command.Session

/-!
The program: sessions in the world of files and streams.
-/

set_option autoImplicit false

namespace Graft.Command

/-- The number of an error of the system, which may come with its sign turned. -/
def systemNumber (code : UInt32) : Nat :=
  if code.toInt32 < 0 then (-code.toInt32).toNatClampNeg else code.toNat

/-- The words for a failure with a number of the system. -/
def wordsOf (e : IO.Error) (code : UInt32) : String :=
  match ReadFailure.ofNumber? (systemNumber code) with
  | some failure => failure.message
  | none => toString e

/-- Why something cannot be read, in words. -/
def reasonOf (e : IO.Error) : String :=
  match e with
  | .noFileOrDirectory _ code _ => wordsOf e code
  | .permissionDenied _ code _ => wordsOf e code
  | .inappropriateType _ code _ => wordsOf e code
  | .invalidArgument _ code _ => wordsOf e code
  | e => toString e

/-- Bytes as a text. -/
def textOfBytes (bytes : ByteArray) : Except String String :=
  match String.fromUTF8? bytes with
  | some text => .ok text
  | none => .error ReadFailure.notText.message

/-- The text that an action reads. -/
def attempt (read : IO ByteArray) : IO (Except String String) := do
  try
    return textOfBytes (← read)
  catch e =>
    return .error (reasonOf e)

/-- Everything that is left of a stream, behind the bytes that have been read. -/
partial def drain (stream : IO.FS.Stream) (bytes : ByteArray) : IO ByteArray := do
  let more ← stream.read 65536
  if more.isEmpty then return bytes else drain stream (bytes ++ more)

/-- The world of files and streams. -/
def world : Surroundings IO where
  file path := attempt (IO.FS.readBinFile path)
  input := do
    let stream ← IO.getStdin
    if ← stream.isTty then return none
    return some (← attempt (drain stream .empty))

end Graft.Command

/-- Carries out what the command line asks for. -/
def main (arguments : List String) : IO UInt32 := do
  let response ← Graft.Command.respond Graft.Command.world arguments
  IO.print response.output
  IO.eprint response.complaint
  return response.code.toUInt32

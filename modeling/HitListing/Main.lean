import HitListing.CommandLine

/-!
# The program

Reads an index from the disk and answers a request from it.  The files that a
page is made from are the copies in the index.
-/

namespace HitListing.CommandLine

/-- The bytes of the file at a path, if it can be read. -/
def readBytes? (p : Path) : IO (Option Bytes) := do
  try
    let bytes ← IO.FS.readBinFile (String.ofList p.toText)
    return some bytes.toList
  catch _ => return none

/-- The outcome for arguments, with the index that they name. -/
def outcome (args : List Text) : IO Outcome := do
  match Request.read args with
  | .error refusal => return .refuse refusal
  | .ok r =>
    match ← readBytes? r.config.indexPath with
    | none => return .ofExcept (r.answer (.ofFiles []) none)
    | some bytes =>
      return .ofExcept do
        let x ← IndexFile.ofBytes bytes
        r.answer (.ofFiles x.files) (some x)

/-- Say on the error output why the program fails. -/
def complain : Ending → IO Unit
  | .done => return ()
  | .misused => IO.eprint (String.ofList usage)
  | .failed f => IO.eprintln (String.ofList ((f.message?).getD "The request failed."))

/-- Print and write what an outcome says. -/
def carryOut (o : Outcome) : IO UInt32 := do
  match o.written with
  | none => pure ()
  | some (p, t) =>
    IO.FS.createDirAll (String.ofList p.parent.toText)
    IO.FS.writeFile (String.ofList p.toText) (String.ofList t)
  IO.print (String.ofList o.printed)
  complain o.ending
  return o.ending.code.toUInt32

end HitListing.CommandLine

/-- Run the program. -/
def main (args : List String) : IO UInt32 := do
  HitListing.CommandLine.carryOut (← HitListing.CommandLine.outcome (args.map String.toList))

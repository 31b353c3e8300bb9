import Formulary.CommandLine.Program

namespace Formulary

/-! # The executable

Files, standard input and standard output for the program; everything that it
decides is decided in the modules above this one.
-/

def entryAt (path : Path) : IO Entry := do
  let name := path.text.toString
  let here ← IO.currentDir
  match ← (here / name).metadata.toBaseIO with
  | .ok found =>
    match found.type with
    | .dir => return .directory
    | _ => return .file (← IO.FS.readBinFile name).toList
  | .error (.noFileOrDirectory ..) => return .missing
  | .error (.inappropriateType ..) => return .notDirectory
  | .error (.invalidArgument _ 36 _) => return .nameTooLong
  | .error error => throw error

def inputText : IO Text := do
  let content ← (← IO.getStdin).readBinToEnd
  match Encoding.decodeUtf8 false content.toList with
  | some text => return text
  | none => throw (IO.userError "standard input is not UTF-8")

def surroundings : IO (CommandLine.Surroundings IO) := do
  let here ← IO.currentDir
  return ⟨.ofText here.toString, entryAt, inputText⟩

end Formulary

open Formulary in
def main (words : List String) : IO UInt32 := do
  let errors ← IO.getStderr
  match ← CommandLine.program (← surroundings) (words.map Text.ofString) with
  | .ok outcome =>
    errors.putStr outcome.errorText.toString
    IO.print outcome.output.toString
    return outcome.status.toUInt32
  | .error error =>
    let message : Text := error.message?.getD "the input cannot be processed"
    errors.putStrLn ("fatal: " ++ message.toString)
    return 1

import RecipeDiag.FileTree
import RecipeDiag.Server.Commands
import RecipeDiag.Snapshot.Report

/-! # Command line

`--reconcile PATH`, given once or several times, reconciles the snapshots in these files and prints
the report on them. The files of generated documents are read beforehand, so that the report itself
is computed from texts alone. -/

namespace RecipeDiag.CommandLine

/-- What the arguments ask for. -/
inductive Invocation where
  | reconcile (paths : List String)
  | version
  | help
  /-- An argument that is not known, or lacks its value. -/
  | misused (argument : String)

def reconcileOption : String := "--reconcile"

/-- The value in `NAME=VALUE`. -/
def valueOf? (name argument : String) : Option String :=
  let start := name.toList ++ ['=']
  if start.isPrefixOf argument.toList then some (String.ofList (argument.toList.drop start.length))
  else none

/-- Reads the arguments after those that named the given paths. -/
def Invocation.ofArguments (paths : List String) : List String → Invocation
  | [] => if paths.isEmpty then help else reconcile paths
  | "--help" :: _ | "-h" :: _ => help
  | "--version" :: _ | "-V" :: _ => version
  | argument :: rest =>
    match valueOf? reconcileOption argument with
    | some path => ofArguments (paths ++ [path]) rest
    | none =>
      match rest with
      | path :: rest =>
        if argument = reconcileOption then ofArguments (paths ++ [path]) rest else misused argument
      | [] => misused argument

def usage : String :=
  "Reconciles embedded-language diagnostics of BitBake recipes\n\n" ++
  "Usage: " ++ Server.programName ++ " --reconcile PATH...\n\n" ++
  "Options:\n" ++
  "      --reconcile <PATH>  Reconcile a workspace snapshot (JSON) and print the published diagnostics\n" ++
  "  -h, --help              Print help\n" ++
  "  -V, --version           Print version"

/-- What the system's refusal to read a file means. -/
def fileError : IO.Error → FileError
  | .noFileOrDirectory .. => .notFound
  | .permissionDenied .. => .permissionDenied
  | .inappropriateType _ 21 _ => .isADirectory
  | .inappropriateType .. => .notADirectory
  | .invalidArgument .. => .nameTooLong
  | e => .other (toString e)

/-- Reads a file as text. -/
def readText (path : String) : IO (Except FileError String) := do
  if path.toList.contains '\x00' then return .error .nulInName
  match ← (IO.FS.readBinFile path).toBaseIO with
  | .ok bytes => return (String.fromUTF8? bytes).elim (.error .invalidText) .ok
  | .error e => return .error (fileError e)

/-- The paths of the generated documents that a snapshot may have to read from files. -/
def documentPaths (s : Snapshot) : List (List UInt8) := s.documents.filterMap fun d => d.uri.filePath?

/-- Reads files of which only the bytes of the path are known. -/
def readAll (paths : List (List UInt8)) : IO FileReader := do
  let texts ← paths.mapM fun bytes =>
    return (bytes, ← match FileTree.text? bytes with
      | some path => readText path
      | none => pure (.error .notFound))
  return fun path => (texts.lookup path).getD (.error .notFound)

/-- Prints the report on snapshot files, and the complaints about them as errors. -/
def printReport (paths : List String) : IO Unit := do
  let contents ← paths.mapM fun path => return (path, ← readText path)
  let snapshots := contents.filterMap fun c => c.2.toOption.bind Snapshot.ofText?
  let files ← readAll (snapshots.flatMap documentPaths)
  let (lines, complaints) := Report.ofFiles (.ofFiles files) contents
  for c in complaints do
    IO.eprintln (c.message "not a workspace snapshot")
  for line in lines do
    IO.println line

end RecipeDiag.CommandLine

open RecipeDiag CommandLine in
def main (args : List String) : IO UInt32 := do
  match Invocation.ofArguments [] args with
  | .reconcile paths => printReport paths
  | .version => IO.println (Server.programName ++ " " ++ Server.programVersion)
  | .help => IO.println usage
  | .misused argument =>
    IO.eprintln ("error: unexpected argument '" ++ argument ++ "' found\n\n" ++ usage)
    return 2
  return 0

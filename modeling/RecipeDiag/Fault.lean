import RecipeDiag.Uri.Basic

/-! # Faults

What keeps a reconciliation from finishing: a generated document that cannot be read, or a question
to the language tooling that fails. `Fault.message` words them. -/

namespace RecipeDiag

/-- Why a file could not be read. -/
inductive FileError where
  | notFound
  | notADirectory
  | isADirectory
  | invalidText
  | nulInName
  | nameTooLong
  | permissionDenied
  /-- Anything else that the system may say. -/
  | other (description : String)
  deriving DecidableEq, Repr

def FileError.message : FileError → String
  | notFound => "No such file or directory (os error 2)"
  | notADirectory => "Not a directory (os error 20)"
  | isADirectory => "Is a directory (os error 21)"
  | invalidText => "stream did not contain valid UTF-8"
  | nulInName => "file name contained an unexpected NUL byte"
  | nameTooLong => "File name too long (os error 36)"
  | permissionDenied => "Permission denied (os error 13)"
  | other description => description

/-- The answer of a peer that refuses a request. -/
structure RpcError where
  code : Int
  message : String
  deriving DecidableEq, Repr

/-- What a code stands for. -/
def RpcError.description (e : RpcError) : String :=
  match e.code with
  | -32700 => "Parse error"
  | -32600 => "Invalid request"
  | -32601 => "Method not found"
  | -32602 => "Invalid params"
  | -32603 => "Internal error"
  | -32800 => "Canceled"
  | -32801 => "Content modified"
  | _ => "Server error"

inductive Fault where
  | unreadable (document : Uri) (cause : FileError)
  | notAFile (document : Uri)
  | request (method : String) (cause : RpcError)
  deriving DecidableEq, Repr

def Fault.message : Fault → String
  | unreadable u cause => "could not read embedded document " ++ u.text ++ ": " ++ cause.message
  | notAFile u => "embedded document " ++ u.text ++ " is neither in memory nor a local file"
  | request method cause =>
    "request " ++ method ++ " failed: " ++ cause.description ++ ": " ++ cause.message

end RecipeDiag

import KernelCharts.Text.Quoted

/-!
# Faults of files

* `FileFault` — why a file cannot be read or written, with `FileFault.message` as its wording;
* `FileFault.details` — all that is known about a fault, over several lines.
-/

namespace KernelCharts

inductive FileFault where
  | notFound
  | exists
  | notDirectory
  | isDirectory
  /-- the bytes are no text -/
  | notText
  /-- a stream broke off and said why -/
  | broken (reason : String)
deriving DecidableEq, Repr

namespace FileFault

/-- the name and the number of a fault of the operating system -/
def system? : FileFault → Option (String × Nat)
  | notFound => some ("No such file or directory", 2)
  | .exists => some ("File exists", 17)
  | notDirectory => some ("Not a directory", 20)
  | isDirectory => some ("Is a directory", 21)
  | notText | broken _ => none

def message (fault : FileFault) : String :=
  match fault.system? with
  | some (text, number) => s!"{text} (os error {number})"
  | none =>
    match fault with
    | broken reason => reason
    | _ => "stream did not contain valid UTF-8"

def kind : FileFault → String
  | notFound => "NotFound"
  | .exists => "AlreadyExists"
  | notDirectory => "NotADirectory"
  | isDirectory => "IsADirectory"
  | notText => "InvalidData"
  | broken _ => "Other"

def details (fault : FileFault) : String :=
  match fault.system? with
  | some (text, number) =>
    Text.spread "Os \x7b"
      [s!"code: {number}", "kind: " ++ fault.kind, "message: " ++ Text.quoted text.toList] "\x7d"
  | none =>
    match fault with
    | broken reason =>
      Text.spread "Custom \x7b" ["kind: " ++ fault.kind, "error: " ++ Text.quoted reason.toList] "\x7d"
    | _ =>
      Text.spread "Error \x7b"
        ["kind: " ++ fault.kind, "message: " ++ Text.quoted fault.message.toList] "\x7d"

end FileFault

end KernelCharts

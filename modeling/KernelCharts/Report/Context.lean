import KernelCharts.Text.Blank
import KernelCharts.Text.Word

/-!
# Context lines

A line of a report names the matrix that the rows after it belong to, as in
`## M : 1, N: 2, sparsity: 0.1%, file: /data/a.mtx`: the word `file`, a colon, and a path whose last
part is a file name with an extension.

* `extended?` — a file name that ends in an extension;
* `fileName?` — the file name at the end of a path;
* `contextFile?` — the file that a line names.
-/

namespace KernelCharts.Report

/-- a character of a file name: none that ends a path or a part of it -/
def isNameChar (c : Char) : Bool := !(c = '/' || c = ',' || c = '|' || Text.isBlank c)

/-- the longest start of a text that ends in a dot and then letters and digits only, the last dot
counting that has one of them after it -/
def extended? : List Char → Option (List Char)
  | [] => none
  | c :: cs =>
    match extended? cs with
    | some rest => some (c :: rest)
    | none =>
      let extension := cs.takeWhile Text.isAlphanumeric
      if c = '.' ∧ extension ≠ [] then some (c :: extension) else none

/-- the file name at the start of a text: at least one character, a dot and an extension -/
def nameAtStart? (s : List Char) : Option (List Char) :=
  match s.takeWhile isNameChar with
  | [] => none
  | c :: cs => (extended? cs).map (c :: ·)

/-- what follows each slash of a text, the last slash first -/
def afterSlashes : List Char → List (List Char)
  | [] => []
  | c :: cs => if c = '/' then afterSlashes cs ++ [cs] else afterSlashes cs

/-- the file name of a path: after the last slash that one follows, or else at the start -/
def fileName? (path : List Char) : Option (List Char) :=
  (afterSlashes path ++ [path]).findSome? nameAtStart?

/-- the file named after the word `file`: a colon and a path, with blanks around the colon -/
def afterWord? (s : List Char) : Option (List Char) :=
  match Text.trimStart s with
  | ':' :: rest => fileName? ((Text.trimStart rest).takeWhile fun c => !Text.isBlank c)
  | _ => none

/-- the file that a text names, where `inWord` tells whether a word goes on at its start -/
def contextFrom? (inWord : Bool) : List Char → Option (List Char)
  | [] => none
  | c :: cs =>
    let here := if inWord then none else (Text.after? "file".toList (c :: cs)).bind afterWord?
    match here with
    | some name => some name
    | none => contextFrom? (Text.isWord c) cs

/-- the file that a line names, by the first word `file` that a path follows -/
def contextFile? (line : List Char) : Option (List Char) := contextFrom? false line

end KernelCharts.Report

/-!
# Pages

A page of vectors stands in a PDF file: numbered objects, and a table of the places where they start.

* `blankPdf` — the file of a page without marks.
-/

namespace KernelCharts.Image

/-- the first lines of a file; the bytes above seven bits tell that it is no plain text -/
def pdfHead : List UInt8 := "%PDF-1.4\n%".toUTF8.toList ++ [0xE2, 0xE3, 0xCF, 0xD3, 0x0A]

/-- the objects of a file with one page of some size, in points -/
def pageObjects (width height : Nat) : List String :=
  ["<</Type/Catalog/Pages 2 0 R>>", "<</Type/Pages/Kids[3 0 R]/Count 1>>",
    s!"<</Type/Page/Parent 2 0 R/MediaBox[0 0 {width} {height}]>>"]

def numbered (objects : List String) : List String :=
  objects.zipIdx.map fun (object, index) =>
    let number := index + 1
    s!"{number} 0 obj" ++ object ++ "endobj\n"

/-- the places where texts start that follow one another, and the place behind the last -/
def places (start : Nat) : List String → List Nat
  | [] => [start]
  | text :: texts => start :: places (start + text.utf8ByteSize) texts

def tenDigits (n : Nat) : String :=
  let digits := toString n
  String.ofList (List.replicate (10 - digits.length) '0') ++ digits

def blankPdf (width height : Nat) : List UInt8 :=
  let objects := numbered (pageObjects width height)
  let starts := places pdfHead.length objects
  let table := starts.dropLast.map fun start => tenDigits start ++ " 00000 n \n"
  let behind := starts.getLastD 0
  let tail := "xref\n0 4\n0000000000 65535 f \n" ++ String.join table ++
    s!"trailer<</Size 4/Root 1 0 R>>\nstartxref\n{behind}\n%%EOF\n"
  pdfHead ++ (String.join objects ++ tail).toUTF8.toList

end KernelCharts.Image

/-!
# Lines

* `Lines.split` — the lines of some bytes, each with the byte that ends it;
* `Lines.content` — a line without its line feed and a carriage return before that.
-/

namespace KernelCharts.Lines

def lineFeed : UInt8 := 10

/-- the byte that may stand before a line feed -/
def carriageReturn : UInt8 := 13

/-- the lines of some bytes with one more byte in front -/
def prepend (b : UInt8) (lines : List (List UInt8)) : List (List UInt8) :=
  if b = lineFeed then [b] :: lines
  else match lines with
    | [] => [[b]]
    | line :: rest => (b :: line) :: rest

/-- the lines of some bytes, each with its line feed; the last one may have none -/
def split (bytes : List UInt8) : List (List UInt8) := bytes.foldr prepend []

/-- a line without its line feed and one carriage return before that; a line that the input cuts off
keeps its carriage return -/
def content (line : List UInt8) : List UInt8 :=
  match line.reverse with
  | [] => []
  | b :: rest =>
    if b = lineFeed then
      match rest with
      | [] => []
      | c :: cs => if c = carriageReturn then cs.reverse else rest.reverse
    else line

def isComplete (line : List UInt8) : Bool := line.getLast? == some lineFeed

end KernelCharts.Lines

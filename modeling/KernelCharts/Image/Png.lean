/-!
# Raster images

A raster image stands in a PNG file: a signature and some chunks, each with its length and a checksum.

* `crc`, `adler` — the checksums of a chunk and of compressed data;
* `blankPng` — the file of an image without marks.
-/

namespace KernelCharts.Image

/-- a number in four bytes, the highest first -/
def bigEndian (n : Nat) : List UInt8 := [n >>> 24, n >>> 16, n >>> 8, n].map UInt8.ofNat

/-- a number in two bytes, the lowest first -/
def littleEndian (n : Nat) : List UInt8 := [n, n >>> 8].map UInt8.ofNat

/-! ## Checksums -/

/-- the remainder after one more bit -/
def crcBit (crc : UInt32) : UInt32 :=
  if crc &&& 1 = 1 then (crc >>> 1) ^^^ 0xEDB88320 else crc >>> 1

/-- the remainder after one more byte -/
def crcByte (crc : UInt32) (byte : UInt8) : UInt32 := Nat.repeat crcBit 8 (crc ^^^ byte.toUInt32)

/-- the checksum of a chunk: a remainder of polynomials over two elements -/
def crc (data : List UInt8) : Nat := ((data.foldl crcByte 0xFFFFFFFF) ^^^ 0xFFFFFFFF).toNat

/-- the checksum of compressed data: the sum of its bytes and the sum of these sums -/
def adler (data : List UInt8) : Nat :=
  let (low, high) := data.foldl
    (fun (low, high) byte =>
      let low := (low + byte.toNat) % 65521
      (low, (high + low) % 65521))
    (1, 0)
  high <<< 16 ||| low

/-! ## Files -/

/-- a chunk of a file: its length, its kind, its data and their checksum -/
def chunk (kind : String) (data : List UInt8) : List UInt8 :=
  let body := kind.toUTF8.toList ++ data
  bigEndian data.length ++ body ++ bigEndian (crc body)

/-- a block of data that are stored as they are -/
def storedBlock (last : Bool) (data : List UInt8) : List UInt8 :=
  (if last then 1 else 0) :: littleEndian data.length ++ littleEndian (65535 - data.length) ++ data

/-- the rows of a white image with one bit for each pixel; the byte ahead of a row names its filter -/
def whiteRows (width height : Nat) : List (List UInt8) :=
  List.replicate height (0 :: List.replicate ((width + 7) / 8) 255)

def blankPng (width height : Nat) : List UInt8 :=
  let rows := whiteRows width height
  let stored := rows.flatMap (storedBlock false) ++ storedBlock true []
  [0x89, 0x50, 0x4E, 0x47, 0x0D, 0x0A, 0x1A, 0x0A] ++
    chunk "IHDR" (bigEndian width ++ bigEndian height ++ [1, 0, 0, 0, 0]) ++
    chunk "IDAT" ([0x78, 0x01] ++ stored ++ bigEndian (adler rows.flatten)) ++
    chunk "IEND" []

end KernelCharts.Image

import Chroma420.Colour.UnitRange
import Chroma420.Outputs

/-!
# Pictures to keep

What is kept of a conversion is a picture of bytes in tight rows: either grey
samples or pixels of four channels.  Colours of floats are turned into bytes,
channel by channel, before they are kept.

A picture is kept as a PNG file, in the plainest form that the format allows:
every row is stored without a filter, and the compressed stream consists of
stored blocks, that is, of the bytes as they are.  Two check sums protect the
content, a cyclic redundancy check for every chunk and a pair of sums for the
stream.
-/

namespace Chroma420

inductive PixelFormat where
  /-- One grey sample for each pixel. -/
  | grey
  /-- Red, green, blue and alpha for each pixel. -/
  | rgba
deriving DecidableEq, Repr

def PixelFormat.channels : PixelFormat → Nat
  | grey => 1
  | rgba => 4

structure Picture where
  size : Size
  format : PixelFormat
  bytes : Array UInt8
deriving DecidableEq, Repr

namespace Picture

def ofGrey (image : GreyImage) : Picture := ⟨image.size, .grey, image.plane.samples⟩

def ofBytes (size : Size) (colour : Array UInt8) : Picture := ⟨size, .rgba, colour⟩

def ofFloats (size : Size) (colour : Array Float32) : Picture :=
  ⟨size, .rgba, colour.map UnitRange.toByte⟩

/-- The bytes of `count` pixels of one row, from a coordinate on. -/
def pixels (picture : Picture) (point : Point) (count : Nat) : Array UInt8 :=
  let channels := picture.format.channels
  let start := (point.y.toNat * picture.size.width.toNat + point.x.toNat) * channels
  picture.bytes.extract start (start + count * channels)

end Picture

/-! ### PNG files -/

namespace Png

/-- A number as four bytes, the highest first. -/
def word (n : UInt32) : Array UInt8 :=
  #[(n >>> 24).toUInt8, (n >>> 16).toUInt8, (n >>> 8).toUInt8, n.toUInt8]

/-- A number below 2 ^ 16 as two bytes, the lowest first. -/
def halfWord (n : Nat) : Array UInt8 := #[n.toUInt8, (n / 256).toUInt8]

/-! ### Check sums -/

/-- The remainder of the redundancy check after one more bit. -/
def crcBit (remainder : UInt32) : UInt32 :=
  if remainder &&& 1 = 1 then (remainder >>> 1) ^^^ 0xEDB88320 else remainder >>> 1

def crcByte (remainder : UInt32) (byte : UInt8) : UInt32 :=
  Nat.repeat crcBit 8 (remainder ^^^ byte.toUInt32)

def crc (bytes : Array UInt8) : UInt32 := bytes.foldl crcByte 0xFFFFFFFF ^^^ 0xFFFFFFFF

/-- The check sum of a stream: the sum of its bytes and the sum of those sums,
    both modulo the largest prime below 2 ^ 16. -/
def adler (bytes : Array UInt8) : UInt32 :=
  let (low, high) := bytes.foldl
    (fun (low, high) byte =>
      let low := (low + byte.toUInt32) % 65521
      (low, (high + low) % 65521)) ((1 : UInt32), (0 : UInt32))
  high <<< 16 ||| low

/-! ### Chunks -/

/-- A chunk: the length of its content, its kind, the content and a check sum of
    the last two. -/
def chunk (kind : String) (content : Array UInt8) : Array UInt8 :=
  let body := kind.toUTF8.data ++ content
  word content.size.toUInt32 ++ body ++ word (crc body)

/-- The size and the format of a picture: eight bits to a channel, no
    compression but the usual one, no interlacing. -/
def header (picture : Picture) : Array UInt8 :=
  let colour : UInt8 := match picture.format with
    | .grey => 0
    | .rgba => 6
  word picture.size.width ++ word picture.size.height ++ #[8, colour, 0, 0, 0]

/-- The rows of a picture, each after the mark of an unfiltered row. -/
def scanLines (picture : Picture) : Array UInt8 :=
  let length := picture.size.width.toNat * picture.format.channels
  (List.range picture.size.height.toNat).foldl
    (fun lines y => lines.push 0 ++ picture.bytes.extract (y * length) (y * length + length)) #[]

/-- The greatest length of a stored block. -/
def blockLength : Nat := 65535

def stored (bytes : Array UInt8) : Array UInt8 :=
  let last := (bytes.size - 1) / blockLength
  let blocks := (List.range (last + 1)).foldl
    (fun blocks i =>
      let block := bytes.extract (i * blockLength) (i * blockLength + blockLength)
      blocks.push (if i = last then 1 else 0) ++ halfWord block.size
        ++ halfWord (blockLength - block.size) ++ block) #[0x78, 0x01]
  blocks ++ word (adler bytes)

def encode (picture : Picture) : ByteArray :=
  ⟨#[0x89, 0x50, 0x4E, 0x47, 0x0D, 0x0A, 0x1A, 0x0A] ++ chunk "IHDR" (header picture)
    ++ chunk "IDAT" (stored (scanLines picture)) ++ chunk "IEND" #[]⟩

end Png

end Chroma420

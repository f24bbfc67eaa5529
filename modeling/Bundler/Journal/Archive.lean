/-!
# Bundler.Journal.Archive

Archives of journal files in the gzip format. The contents are kept as they are, in blocks without
compression, between a header and a checksum.

* `pack`, `unpack?`: an archive and its contents.
-/

namespace Bundler.Journal.Archive

def checksumBit (c : UInt32) : UInt32 :=
  if c &&& 1 = 1 then (c >>> 1) ^^^ 0xedb88320 else c >>> 1

def checksumByte (c : UInt32) (b : UInt8) : UInt32 :=
  (List.range 8).foldl (fun c _ => checksumBit c) (c ^^^ b.toUInt32)

def checksum (bytes : List UInt8) : UInt32 :=
  bytes.foldl checksumByte 0xffffffff ^^^ 0xffffffff

/-- The lowest `count` bytes of a number, lowest first. -/
def littleEndian (n : Nat) : (count : Nat) → List UInt8
  | 0 => []
  | count + 1 => UInt8.ofNat (n % 256) :: littleEndian (n / 256) count

/-- The header: the format, no name, no time, an unknown system. -/
def header : List UInt8 :=
  [0x1f, 0x8b, 8, 0, 0, 0, 0, 0, 0, 0xff]

def maxBlock : Nat := 65535

def block (last : Bool) (bytes : List UInt8) : List UInt8 :=
  (if last then 1 else 0) :: (littleEndian bytes.length 2 ++ littleEndian (65535 - bytes.length) 2 ++ bytes)

/-- The contents in blocks; `fuel` bounds their number. -/
def blocks : (fuel : Nat) → List UInt8 → List UInt8
  | 0, bytes => block true bytes
  | fuel + 1, bytes =>
    if bytes.length ≤ maxBlock then block true bytes
    else block false (bytes.take maxBlock) ++ blocks fuel (bytes.drop maxBlock)

def pack (bytes : List UInt8) : List UInt8 :=
  header ++ blocks bytes.length bytes ++ littleEndian (checksum bytes).toNat 4 ++
    littleEndian bytes.length 4

def readBlocks? : (fuel : Nat) → List UInt8 → Option (List UInt8)
  | 0, _ => none
  | fuel + 1, last :: a :: b :: _ :: _ :: rest =>
    let n := a.toNat + 256 * b.toNat
    if rest.length < n then none
    else if last = 1 then some (rest.take n)
    else (readBlocks? fuel (rest.drop n)).map (rest.take n ++ ·)
  | _ + 1, _ => none

def unpack? (bytes : List UInt8) : Option (List UInt8) :=
  if header.isPrefixOf bytes then readBlocks? bytes.length (bytes.drop header.length) else none

end Bundler.Journal.Archive

import Unmask.Error

/-!
# Executable images

Checks that bytes are a portable executable with managed code in it: the headers can be read, the
directory of the managed runtime is there, and its header and metadata lie inside the file.
-/

namespace Unmask

structure Image where
  data : ByteArray
  /-- Address and size of the managed runtime's header. -/
  clr : Nat × Nat
  /-- Whether the image has the wide header format. -/
  isWide : Bool

namespace Image

/-- A little-endian number of `size` bytes. -/
def read? (data : ByteArray) (offset size : Nat) : Option Nat :=
  if offset + size ≤ data.size then
    some ((List.range size).foldr (fun i n => n * 256 + (data[offset + i]?.getD 0).toNat) 0)
  else none

structure Section where
  virtualSize : Nat
  address : Nat
  rawSize : Nat
  rawPointer : Nat

def readSection? (data : ByteArray) (offset : Nat) : Option Section := do
  let virtualSize ← read? data (offset + 8) 4
  let address ← read? data (offset + 12) 4
  let rawSize ← read? data (offset + 16) 4
  let rawPointer ← read? data (offset + 20) 4
  if offset + 40 ≤ data.size then some ⟨virtualSize, address, rawSize, rawPointer⟩ else none

def roundUp (n unit : Nat) : Nat := (n + unit - 1) / unit * unit

/-- The number of bytes of a section that are in memory and in the file. -/
def Section.mappedSize (s : Section) (alignment : Nat) : Nat :=
  if s.rawSize = 0 then 0
  else
    let inFile := roundUp (s.rawPointer + s.rawSize) alignment - s.rawPointer / 0x200 * 0x200
    let inPages := min inFile (roundUp s.rawSize 0x1000)
    if s.virtualSize = 0 then inPages else min inPages (roundUp s.virtualSize 0x1000)

def isPowerOfTwo (n : Nat) : Bool := n ≠ 0 && n &&& (n - 1) = 0

/-- The place in the file of an address, by the first section that holds it. -/
def offset? (sections : List Section) (alignment address : Nat) : Option Nat :=
  if !isPowerOfTwo alignment then none
  else
    (sections.find? fun s =>
      s.address ≤ address && address < s.address + s.mappedSize alignment).map fun s =>
        s.rawPointer + (address - s.address)

/-- The metadata root: a fixed part, a version text, and two more fields. -/
def checkMetadata (data : ByteArray) (offset : Nat) : Option Unit := do
  let length ← read? data (offset + 12) 4
  let start := offset + 16
  if start + length + 4 ≤ data.size then
    if (String.fromUTF8? (data.extract start (start + length))).isSome then some () else none
  else none

/-- The header of the managed runtime and the metadata it points to. -/
def checkRuntime (data : ByteArray) (sections : List Section) (alignment address : Nat) :
    Option Unit := do
  let header ← offset? sections alignment address
  if header + 72 ≤ data.size then
    let metadata ← read? data (header + 8) 4
    let size ← read? data (header + 12) 4
    let start ← offset? sections alignment metadata
    if start + size ≤ data.size then checkMetadata data start else none
  else none

/-- The part of the optional header that matters. -/
structure Optional where
  isWide : Bool
  alignment : Nat
  /-- The data directories in order, as address and size. -/
  directories : List (Nat × Nat)

def readOptional? (data : ByteArray) (offset : Nat) : Option Optional := do
  let magic ← read? data offset 2
  let isWide ← if magic = 0x10B then some false else if magic = 0x20B then some true else none
  let fixedSize := if isWide then 112 else 96
  let alignment ← read? data (offset + 36) 4
  let count ← read? data (offset + fixedSize - 4) 4
  if count ≤ 16 then
    let directories ← (List.range count).mapM fun i => do
      let address ← read? data (offset + fixedSize + 8 * i) 4
      let size ← read? data (offset + fixedSize + 8 * i + 4) 4
      return (address, size)
    return ⟨isWide, alignment, directories⟩
  else none

/-- Position of the managed runtime's entry among the data directories. -/
def runtimeDirectory : Nat := 14

/-- The address and size of the managed runtime's header; an entry of zeros is none. -/
def Optional.runtime? (o : Optional) : Option (Nat × Nat) :=
  match o.directories[runtimeDirectory]? with
  | some (0, 0) => none
  | entry => entry

/-- The optional header of an image whose headers, sections and managed parts can all be read. -/
def parse? (data : ByteArray) : Option (Option Optional) := do
  let mz ← read? data 0 2
  let pe ← read? data 0x3C 4
  if mz ≠ 0x5A4D || pe < 0x40 then none
  else
    let signature ← read? data pe 4
    if signature ≠ 0x4550 || data.size < pe + 24 then none
    else
      let sectionCount ← read? data (pe + 6) 2
      let optionalSize ← read? data (pe + 20) 2
      let start := pe + 24
      let optional ← if optionalSize = 0 then some none else (readOptional? data start).map some
      if data.size / 40 < sectionCount then none
      else
        let sections ← (List.range sectionCount).mapM fun i =>
          readSection? data (start + optionalSize + 40 * i)
        match optional.bind fun o => o.runtime?.map fun entry => (o, entry) with
        | none => return optional
        | some (o, entry) =>
          checkRuntime data sections o.alignment entry.1
          return optional

/-- Checks the bytes of an image. -/
def ofBytes (data : ByteArray) : Except Error Image :=
  if data.isEmpty then .error .empty
  else
    match parse? data with
    | none => .error .image
    | some none => .error (.malformed "File does not have an OptionalHeader")
    | some (some optional) =>
      match optional.runtime? with
      | none => .error (.malformed "File does not have a CLR runtime header directory")
      | some clr => .ok ⟨data, clr, optional.isWide⟩

/-- `length` bytes from `offset` on. Both count in 64 bits, and so does their sum. -/
def slice (image : Image) (offset length : Nat) : Except Error ByteArray :=
  if UInt64.size ≤ offset + length || image.data.size < offset + length then .error .outOfBounds
  else .ok (image.data.extract offset (offset + length))

end Image

end Unmask

/-
# The manifest as a device tree

The FF-A manifest is a flattened device tree, and the package reads it through `FdtLib`.
A manifest is taken here as the tree `FdtLib` walks: a node has a name, properties and
subnodes, all in the order of the blob, and a property is a pointer into the blob with a
length.  The lookups are those of `FdtLib`, with nodes in place of offsets; an offset that
is negative is `none`.

`ReadProperty32` and `ReadProperty64` read four and eight bytes from the pointer, whatever
the length of the property.
-/

import FfaFeature.Message

namespace FfaFeature

/-- A property: the bytes from its data on, and `LenP`. -/
structure FdtProperty where
  data : ℕ → BitVec 8
  len : BitVec 32

/-- The bytes of a string. -/
def stringBytes (s : String) : List (BitVec 8) := s.toList.map fun c => BitVec.ofNat 8 c.toNat

namespace FdtProperty

/-- The bytes of a property. -/
def bytes (p : FdtProperty) : List (BitVec 8) := (List.range p.len.toNat).map p.data

/-- The string a property holds: its bytes before the first zero byte. -/
def string (p : FdtProperty) : List (BitVec 8) := p.bytes.takeWhile (· ≠ 0)

/-- `Fdt32ToCpu (ReadUnaligned32 (Data))`. -/
def read32 (p : FdtProperty) : BitVec 32 := p.data 0 ++ p.data 1 ++ p.data 2 ++ p.data 3

/-- `Fdt64ToCpu (ReadUnaligned64 (Data))`. -/
def read64 (p : FdtProperty) : BitVec 64 :=
  p.data 0 ++ p.data 1 ++ p.data 2 ++ p.data 3 ++ p.data 4 ++ p.data 5 ++ p.data 6 ++ p.data 7

/-- The number that bytes are, most significant byte first. -/
def bigEndian (l : List (BitVec 8)) : ℕ := l.foldl (fun n b => 256 * n + b.toNat) 0

/-- A byte behind a word. -/
theorem toNat_append_byte {w : ℕ} (x : BitVec w) (b : BitVec 8) :
    (x ++ b).toNat = 256 * x.toNat + b.toNat := by
  have hb : b.toNat < 2 ^ 8 := b.isLt
  rw [BitVec.toNat_append, ← Nat.shiftLeft_add_eq_or_of_lt hb, Nat.shiftLeft_eq]
  omega

/-- **`ReadProperty32` reads a property of four bytes as the number they are.** -/
theorem read32_toNat {p : FdtProperty} (h : p.len.toNat = 4) :
    p.read32.toNat = bigEndian p.bytes := by
  simp only [read32, bytes, h, toNat_append_byte]
  simp [bigEndian, List.range_succ]

/-- **`ReadProperty64` reads a property of eight bytes as the number they are.** -/
theorem read64_toNat {p : FdtProperty} (h : p.len.toNat = 8) :
    p.read64.toNat = bigEndian p.bytes := by
  simp only [read64, bytes, h, toNat_append_byte]
  simp [bigEndian, List.range_succ]

/-- A property that holds the bytes `l` and nothing else. -/
def ofBytes (l : List (BitVec 8)) : FdtProperty := ⟨fun k => l.getD k 0, BitVec.ofNat 32 l.length⟩

end FdtProperty

/-- A node of the tree. -/
inductive FdtNode
  | mk (name : String) (properties : List (String × FdtProperty)) (subnodes : List FdtNode)

namespace FdtNode

/-- The name of a node. -/
def name : FdtNode → String
  | mk name _ _ => name

/-- The properties of a node, in order. -/
def properties : FdtNode → List (String × FdtProperty)
  | mk _ properties _ => properties

/-- The subnodes of a node, in order. -/
def subnodes : FdtNode → List FdtNode
  | mk _ _ subnodes => subnodes

/-- `FdtGetProperty`. -/
def getProperty (node : FdtNode) (property : String) : Option FdtProperty :=
  node.properties.lookup property

/-- `ReadProperty32`. -/
def readProperty32 (node : FdtNode) (property : String) : Except EfiStatus (BitVec 32) :=
  match node.getProperty property with
  | none => .error .invalidParameter
  | some p => .ok p.read32

/-- `ReadProperty64`. -/
def readProperty64 (node : FdtNode) (property : String) : Except EfiStatus (BitVec 64) :=
  match node.getProperty property with
  | none => .error .invalidParameter
  | some p => .ok p.read64

mutual

/-- A node and all nodes under it, in the order of the blob. -/
def nodes : FdtNode → List FdtNode
  | mk name properties subnodes => mk name properties subnodes :: nodesOf subnodes

/-- The nodes of several subtrees. -/
def nodesOf : List FdtNode → List FdtNode
  | [] => []
  | node :: rest => nodes node ++ nodesOf rest

end

/-- The node is compatible: `compatible` is one of the strings, each with its zero byte, of
its property of that name. -/
def isCompatible (node : FdtNode) (compatible : String) : Bool :=
  match node.getProperty "compatible" with
  | none => false
  | some p => stringBytes compatible ∈ (p.bytes.splitOn 0).dropLast

/-- `FdtNodeOffsetByCompatible`, from the start of the blob. -/
def nodeOffsetByCompatible (root : FdtNode) (compatible : String) : Option FdtNode :=
  root.nodes.find? (·.isCompatible compatible)

/-- `FdtSubnodeOffsetNameLen`: a name without a unit address stands for any unit address. -/
def subnodeOffsetNameLen (node : FdtNode) (name : String) : Option FdtNode :=
  node.subnodes.find? fun subnode =>
    subnode.name = name ∨
      ('@' ∉ name.toList ∧ (name.toList ++ ['@']).isPrefixOf subnode.name.toList)

end FdtNode

end FfaFeature

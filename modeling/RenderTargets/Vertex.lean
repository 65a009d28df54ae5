import RenderTargets.Number.Word
/-!
# Vertex layouts

A vertex is a row of components without gaps. The stride is the length of a row, the offset of a
component the length of the components before it.
-/

namespace RenderTargets

/-- How the numbers of a component are stored. -/
inductive VertexFormat where
  /-- One single. -/
  | single
  /-- Two singles. -/
  | pair
  /-- Three singles. -/
  | triple
  /-- Four singles. -/
  | quad
  /-- Four bytes standing for 0 to 1. -/
  | unsignedBytes
  /-- Four bytes standing for -1 to 1. -/
  | signedBytes
  deriving DecidableEq, Inhabited, Repr

namespace VertexFormat

/-- Every format. -/
def all : List VertexFormat := [single, pair, triple, quad, unsignedBytes, signedBytes]

/-- The name in messages. -/
def name : VertexFormat → String
  | single => "Float"
  | pair => "Float2"
  | triple => "Float3"
  | quad => "Float4"
  | unsignedBytes => "UByte4N"
  | signedBytes => "Byte4N"

/-- Bytes of a component. -/
def size : VertexFormat → Nat
  | single => 4
  | pair => 8
  | triple => 12
  | quad => 16
  | unsignedBytes | signedBytes => 4

end VertexFormat

/-- What a component says about its vertex. -/
inductive VertexAttr where
  /-- Where it is. -/
  | position
  /-- Which way the surface faces. -/
  | normal
  /-- Where it is on a texture. -/
  | texCoord
  /-- Its color. -/
  | color
  deriving DecidableEq, Inhabited, Repr

namespace VertexAttr

/-- Every attribute. -/
def all : List VertexAttr := [position, normal, texCoord, color]

/-- The name in messages. -/
def name : VertexAttr → String
  | position => "Position"
  | normal => "Normal"
  | texCoord => "TexCoord0"
  | color => "Color0"

end VertexAttr

/-- One component of a vertex. -/
structure VertexComponent where
  /-- What it says. -/
  attr : VertexAttr
  /-- How it is stored. -/
  format : VertexFormat
  deriving DecidableEq, Inhabited, Repr

/-- The components of a vertex in the order of their bytes. -/
abbrev VertexLayout := List VertexComponent

namespace VertexLayout

/-- Bytes of the components together. -/
def span (l : VertexLayout) : Nat := (l.map (·.format.size)).foldr (· + ·) 0

/-- Bytes from one vertex to the next, if a word holds them. -/
def stride? (l : VertexLayout) : Option UInt32 := Word.unsigned? l.span

/-- Bytes before the component at `i`, or before the end if `i` is the number of components. -/
def offset? (l : VertexLayout) (i : Nat) : Option UInt32 :=
  if i ≤ l.length then Word.unsigned? (span (l.take i)) else none

/-- Position of the first component with the attribute. -/
def indexOf? (l : VertexLayout) (attr : VertexAttr) : Option Nat :=
  l.findIdx? (·.attr == attr)

end VertexLayout

end RenderTargets

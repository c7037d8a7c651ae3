/-! How a module is to be placed and read. -/
namespace ObjectModule

/-- What a user may choose about loading. -/
structure Options where
  /-- The widest gap in an image that is filled with zeros. -/
  maxFill : Int := 0x2000
  /-- The first address given to a relocatable segment. -/
  baseAddress : Int := 0
  /-- An alignment code forced on every relocatable segment. -/
  alignOverride : Option Int := none
deriving DecidableEq, Repr

end ObjectModule

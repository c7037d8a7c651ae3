import ObjectModule.Capacity

/-! A machine to run on.

The library is about every machine. To be run it needs one; this is a common one, with
room for strings of bytes up to 32 GiB and for blocks up to 300 deep. -/
namespace ObjectModule.CommonMachine

/-- A machine of a common size. -/
scoped instance machine : Machine where
  memory := 0x800000000
  levels := 300

end ObjectModule.CommonMachine

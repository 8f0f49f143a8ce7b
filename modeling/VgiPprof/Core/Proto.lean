import VgiPprof.Data.Bytes

namespace VgiPprof.Core.Proto

/-! The messages of `profile.proto`.  Fields that name a string hold an index
into the profile's `stringTable`; an absent field holds its proto3 default. -/

structure ValueType where
  type : Int64 := 0
  unit : Int64 := 0
  deriving DecidableEq, Repr

structure Label where
  key : Int64 := 0
  str : Int64 := 0
  num : Int64 := 0
  numUnit : Int64 := 0
  deriving DecidableEq, Repr

structure Sample where
  locationId : List UInt64 := []
  value : List Int64 := []
  label : List Label := []
  deriving DecidableEq, Repr

structure Mapping where
  id : UInt64 := 0
  memoryStart : UInt64 := 0
  memoryLimit : UInt64 := 0
  fileOffset : UInt64 := 0
  filename : Int64 := 0
  buildId : Int64 := 0
  hasFunctions : Bool := false
  hasFilenames : Bool := false
  hasLineNumbers : Bool := false
  hasInlineFrames : Bool := false
  deriving DecidableEq, Repr

structure Line where
  functionId : UInt64 := 0
  line : Int64 := 0
  column : Int64 := 0
  deriving DecidableEq, Repr

structure Location where
  id : UInt64 := 0
  mappingId : UInt64 := 0
  address : UInt64 := 0
  line : List Line := []
  isFolded : Bool := false
  deriving DecidableEq, Repr

structure Function where
  id : UInt64 := 0
  name : Int64 := 0
  systemName : Int64 := 0
  filename : Int64 := 0
  startLine : Int64 := 0
  deriving DecidableEq, Repr

structure Profile where
  sampleType : List ValueType := []
  sample : List Sample := []
  mapping : List Mapping := []
  location : List Location := []
  function : List Function := []
  stringTable : List String := []
  dropFrames : Int64 := 0
  keepFrames : Int64 := 0
  timeNanos : Int64 := 0
  durationNanos : Int64 := 0
  periodType : Option ValueType := none
  period : Int64 := 0
  comment : List Int64 := []
  defaultSampleType : Int64 := 0
  docUrl : Int64 := 0
  deriving DecidableEq, Repr

end VgiPprof.Core.Proto

import PlanningSearch.Codec

/-!
History-cleansing profiles: how outliers are detected and how missing periods are filled. Every
setting that a stored profile leaves out has a default.
-/

namespace PlanningSearch.Cleanse

open Json

inductive OutlierMethod where
  | zScore
  | iqr
  | mad
  | hampel
  deriving DecidableEq, Repr

inductive MissingMethod where
  | dropRows
  | forwardFill
  | backwardFill
  | zero
  | mean
  | median
  | linearInterpolate
  deriving DecidableEq, Repr

def tenths (digits : Nat) : Binary64 := (Binary64.ofDecimal false digits (-1)).getD Binary64.zero

structure OutlierParams where
  zThreshold : Binary64 := tenths 30
  iqrK : Binary64 := tenths 15
  madK : Binary64 := tenths 30
  hampelWindow : UInt32 := 7
  hampelK : Binary64 := tenths 30
  deriving DecidableEq

structure MissingParams where
  interpolateOrder : UInt32 := 1
  fillConstant : Binary64 := Binary64.zero
  deriving DecidableEq

structure Config where
  outlierMethod : OutlierMethod := .zScore
  outlierParams : OutlierParams := {}
  missingMethod : MissingMethod := .forwardFill
  missingParams : MissingParams := {}
  deriving DecidableEq

structure Profile where
  id : Option Int
  name : String
  config : Config
  createdAt : Option Instant
  deriving DecidableEq

def real (x : Binary64) : Value := .number (.real x)

def word32 (n : UInt32) : Value := .nat n.toNat

namespace OutlierMethod

def name : OutlierMethod → String
  | zScore => "Z-Score"
  | iqr => "IQR"
  | mad => "MAD"
  | hampel => "Hampel"

def decoder : Decoder OutlierMethod :=
  Decoder.variant ([zScore, iqr, mad, hampel].map fun m => (m.name, m))

end OutlierMethod

namespace MissingMethod

def name : MissingMethod → String
  | dropRows => "Drop Rows"
  | forwardFill => "Forward Fill"
  | backwardFill => "Backward Fill"
  | zero => "Zero"
  | mean => "Mean"
  | median => "Median"
  | linearInterpolate => "Linear Interpolate"

def decoder : Decoder MissingMethod :=
  Decoder.variant ([dropRows, forwardFill, backwardFill, zero, mean, median,
    linearInterpolate].map fun m => (m.name, m))

end MissingMethod

namespace OutlierParams

structure Draft where
  zThreshold : Option Binary64 := none
  iqrK : Option Binary64 := none
  madK : Option Binary64 := none
  hampelWindow : Option UInt32 := none
  hampelK : Option Binary64 := none

def usual : OutlierParams := {}

def slots : List (Decoder.Slot Draft) :=
  [.of ["zThreshold"] Draft.zThreshold (fun d x => { d with zThreshold := some x }) Decoder.real
     (some usual.zThreshold),
   .of ["iqrK"] Draft.iqrK (fun d x => { d with iqrK := some x }) Decoder.real (some usual.iqrK),
   .of ["madK"] Draft.madK (fun d x => { d with madK := some x }) Decoder.real (some usual.madK),
   .of ["hampelWindow"] Draft.hampelWindow (fun d x => { d with hampelWindow := some x })
     Decoder.word32 (some usual.hampelWindow),
   .of ["hampelK"] Draft.hampelK (fun d x => { d with hampelK := some x }) Decoder.real
     (some usual.hampelK)]

def decoder : Decoder OutlierParams :=
  (Decoder.record "OutlierParams" slots {}).map fun d =>
    ⟨d.zThreshold.getD usual.zThreshold, d.iqrK.getD usual.iqrK, d.madK.getD usual.madK,
      d.hampelWindow.getD usual.hampelWindow, d.hampelK.getD usual.hampelK⟩

def toJson (p : OutlierParams) : Value :=
  .object [("zThreshold", real p.zThreshold), ("iqrK", real p.iqrK), ("madK", real p.madK),
    ("hampelWindow", word32 p.hampelWindow), ("hampelK", real p.hampelK)]

end OutlierParams

namespace MissingParams

structure Draft where
  interpolateOrder : Option UInt32 := none
  fillConstant : Option Binary64 := none

def usual : MissingParams := {}

def slots : List (Decoder.Slot Draft) :=
  [.of ["interpolateOrder"] Draft.interpolateOrder
     (fun d x => { d with interpolateOrder := some x }) Decoder.word32
     (some usual.interpolateOrder),
   .of ["fillConstant"] Draft.fillConstant (fun d x => { d with fillConstant := some x })
     Decoder.real (some usual.fillConstant)]

def decoder : Decoder MissingParams :=
  (Decoder.record "MissingParams" slots {}).map fun d =>
    ⟨d.interpolateOrder.getD usual.interpolateOrder, d.fillConstant.getD usual.fillConstant⟩

def toJson (p : MissingParams) : Value :=
  .object [("interpolateOrder", word32 p.interpolateOrder), ("fillConstant", real p.fillConstant)]

end MissingParams

namespace Config

structure Draft where
  outlierMethod : Option OutlierMethod := none
  outlierParams : Option OutlierParams := none
  missingMethod : Option MissingMethod := none
  missingParams : Option MissingParams := none

def usual : Config := {}

def slots : List (Decoder.Slot Draft) :=
  [.of ["outlierMethod"] Draft.outlierMethod (fun d m => { d with outlierMethod := some m })
     OutlierMethod.decoder (some usual.outlierMethod),
   .of ["outlierParams"] Draft.outlierParams (fun d p => { d with outlierParams := some p })
     OutlierParams.decoder (some usual.outlierParams),
   .of ["missingMethod"] Draft.missingMethod (fun d m => { d with missingMethod := some m })
     MissingMethod.decoder (some usual.missingMethod),
   .of ["missingParams"] Draft.missingParams (fun d p => { d with missingParams := some p })
     MissingParams.decoder (some usual.missingParams)]

def decoder : Decoder Config :=
  (Decoder.record "CleanseConfig" slots {}).map fun d =>
    ⟨d.outlierMethod.getD usual.outlierMethod, d.outlierParams.getD usual.outlierParams,
      d.missingMethod.getD usual.missingMethod, d.missingParams.getD usual.missingParams⟩

def toJson (c : Config) : Value :=
  .object [("outlierMethod", .text c.outlierMethod.name),
    ("outlierParams", c.outlierParams.toJson), ("missingMethod", .text c.missingMethod.name),
    ("missingParams", c.missingParams.toJson)]

end Config

namespace Profile

structure Draft where
  id : Option (Option Int) := none
  name : Option String := none
  config : Option Config := none
  createdAt : Option (Option Instant) := none

def slots : List (Decoder.Slot Draft) :=
  [.of ["id"] Draft.id (fun d i => { d with id := some i }) (Decoder.optional Decoder.int64)
     (some none),
   .of ["name"] Draft.name (fun d s => { d with name := some s }) Decoder.text none,
   .of ["config"] Draft.config (fun d c => { d with config := some c }) Config.decoder
     (some Config.usual),
   .of ["created_at"] Draft.createdAt (fun d i => { d with createdAt := some i })
     (Decoder.optional Instant.decoder) (some none)]

def decoder : Decoder Profile :=
  (Decoder.record "CleanseProfile" slots {}).map fun d =>
    ⟨d.id.getD none, d.name.getD "", d.config.getD Config.usual, d.createdAt.getD none⟩

def toJson (p : Profile) : Value :=
  presentMembers [("id", p.id.map fun i => .number (.int i)), ("name", some (.text p.name)),
    ("config", some p.config.toJson), ("created_at", p.createdAt.map Instant.toJson)]

end Profile

end PlanningSearch.Cleanse

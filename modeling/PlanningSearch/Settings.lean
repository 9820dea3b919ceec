import PlanningSearch.Codec
import PlanningSearch.Screen.Kind

/-! The settings of the whole program, their defaults and the settings they give each screen. -/

namespace PlanningSearch

open Json

structure Settings where
  bind : String := "127.0.0.1:8080"
  logLevel : String := "info"
  masterSearchLimit : UInt64 := 20000
  detailSearchLimit : UInt64 := 5000
  keySearchLimit : UInt64 := 20000
  masterPageSize : UInt64 := 5
  detailPageSize : UInt64 := 20
  exportDir : String := "."
  deriving DecidableEq, Repr

namespace Settings

def usual : Settings := {}

/-- The settings of one screen. The forecast list keeps the short page of the master screens. -/
def forScreen (s : Settings) (k : ScreenKind) : ScreenSettings :=
  let base := ScreenSettings.usual k
  let sizes : UInt64 × UInt64 := match k with
    | .product | .channel | .location => (s.masterPageSize, s.masterSearchLimit)
    | .history => (s.detailPageSize, s.detailSearchLimit)
    | .forecast => (s.masterPageSize, s.detailSearchLimit)
    | .forecastElement => (s.detailPageSize, s.keySearchLimit)
  { base with itemsPerPage := sizes.1, searchLimit := sizes.2, exportDir := s.exportDir }

structure Draft where
  bind : Option String := none
  logLevel : Option String := none
  masterSearchLimit : Option UInt64 := none
  detailSearchLimit : Option UInt64 := none
  keySearchLimit : Option UInt64 := none
  masterPageSize : Option UInt64 := none
  detailPageSize : Option UInt64 := none
  exportDir : Option String := none

def ofDraft (d : Draft) : Settings where
  bind := d.bind.getD usual.bind
  logLevel := d.logLevel.getD usual.logLevel
  masterSearchLimit := d.masterSearchLimit.getD usual.masterSearchLimit
  detailSearchLimit := d.detailSearchLimit.getD usual.detailSearchLimit
  keySearchLimit := d.keySearchLimit.getD usual.keySearchLimit
  masterPageSize := d.masterPageSize.getD usual.masterPageSize
  detailPageSize := d.detailPageSize.getD usual.detailPageSize
  exportDir := d.exportDir.getD usual.exportDir

def size : Decoder UInt64 := Decoder.word "usize"

def slots : List (Decoder.Slot Draft) :=
  [.of ["bind"] Draft.bind (fun d s => { d with bind := some s }) Decoder.text (some usual.bind),
   .of ["log_level"] Draft.logLevel (fun d s => { d with logLevel := some s }) Decoder.text
     (some usual.logLevel),
   .of ["master_search_limit"] Draft.masterSearchLimit
     (fun d n => { d with masterSearchLimit := some n }) size (some usual.masterSearchLimit),
   .of ["detail_search_limit"] Draft.detailSearchLimit
     (fun d n => { d with detailSearchLimit := some n }) size (some usual.detailSearchLimit),
   .of ["key_search_limit"] Draft.keySearchLimit
     (fun d n => { d with keySearchLimit := some n }) size (some usual.keySearchLimit),
   .of ["master_page_size"] Draft.masterPageSize
     (fun d n => { d with masterPageSize := some n }) size (some usual.masterPageSize),
   .of ["detail_page_size"] Draft.detailPageSize
     (fun d n => { d with detailPageSize := some n }) size (some usual.detailPageSize),
   .of ["export_dir"] Draft.exportDir (fun d s => { d with exportDir := some s })
     (Decoder.textAs "path string") (some usual.exportDir)]

def decoder : Decoder Settings := (Decoder.record "Settings" slots {}).map ofDraft

def toJson (s : Settings) : Value :=
  .object [("bind", .text s.bind), ("log_level", .text s.logLevel),
    ("master_search_limit", .nat s.masterSearchLimit.toNat),
    ("detail_search_limit", .nat s.detailSearchLimit.toNat),
    ("key_search_limit", .nat s.keySearchLimit.toNat),
    ("master_page_size", .nat s.masterPageSize.toNat),
    ("detail_page_size", .nat s.detailPageSize.toNat), ("export_dir", .text s.exportDir)]

end Settings

end PlanningSearch

import ErrorCatalog.Generate
import ErrorCatalog.Report.Box

/-!
# `ErrorCatalog/Report/Summary.lean` — what people are told

After a run that succeeded, a summary tells what was read and lists what was delivered, one row per
artifact and a row of totals. On request, the languages are listed.

An artifact is listed under the last name of its location, which is not its whole file name if that
has slashes in it.
-/

set_option autoImplicit false

namespace ErrorCatalog

/-! ## 1. The summary of a run -/

/-- The mark of an artifact that was written, and of one that was not. -/
def writtenMark (written : Bool) : Text := if written then ['✓'] else ['-']

/-- The name an artifact is listed under. -/
def Delivered.shortName (d : Delivered) : Text := d.location.fileName?.getD d.name

def artifactRow (dryRun : Bool) (l : Language) (d : Delivered) : List Text :=
  [l.label, d.shortName, Text.ofNat d.bytes, writtenMark !dryRun]

def LanguageReport.rows (dryRun : Bool) (r : LanguageReport) : List (List Text) :=
  r.artifacts.map (artifactRow dryRun r.language)

def RunReport.bytes (r : RunReport) : Nat := total LanguageReport.bytes r.languages

def RunReport.totals (r : RunReport) : List Text :=
  ["TOTAL".toList, Text.ofNat r.artifactCount ++ " files".toList, Text.ofNat r.bytes, ['-']]

def RunReport.box (r : RunReport) : Box where
  columns :=
    [⟨"Language".toList, .left⟩, ⟨"File".toList, .left⟩, ⟨"Bytes".toList, .right⟩,
      ⟨"Written".toList, .center⟩]
  rows := r.languages.flatMap (·.rows r.dryRun) ++ [r.totals]

def RunReport.summary (r : RunReport) : Text :=
  Text.ofLines <|
    ["Input: ".toList ++ r.sourceName,
      "Output: ".toList ++
        (if r.dryRun then "dry run, nothing written".toList else r.outputDirectory.spelling),
      "Records: ".toList ++ Text.ofNat r.records ++ " across ".toList ++ Text.ofNat r.attributes ++
        " attributes".toList] ++
    r.box.lines

/-! ## 2. The languages -/

/-- The attribute whose field name stands for all others. -/
def sampleAttribute : Text := "error code".toList

def Language.row (l : Language) : List Text :=
  [l.label, l.id, '.' :: l.extension, l.fieldName sampleAttribute]

def languageList : Text :=
  Text.ofLines <| Box.lines
    { columns := ["Language", "Id", "Extension", "Field name"].map fun t => ⟨t.toList, .left⟩
      rows := Language.all.map (·.row)
      divider := '┆'
      ruled := false }

end ErrorCatalog

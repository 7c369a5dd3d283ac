import Scaffold.Command.Operation

/-!
# What commands print

The texts that commands print about what they found or did. Paths below the root of the project are
shown relative to it.
-/

namespace Scaffold

/-- What a command prints. -/
structure Printed where
  output : Text
  /-- What goes to where errors are printed. -/
  warnings : Text
  deriving DecidableEq

namespace Display

/-- The lines of a list, each ended by a line feed. -/
def printed (lines : List Text) : Printed :=
  ⟨Text.written lines, []⟩

/-- A number as text. -/
def number (value : Nat) : Text :=
  Number.digitsOf value

/-- A count of something, with the plural where the count asks for it. -/
def counted (count : Nat) (noun : String) : Text :=
  number count ++ ' ' :: noun.toList ++ (if count = 1 then [] else ['s'])

/-- The line of an item of a list. -/
def item (text : Text) : Text :=
  "  - ".toList ++ text

/-- The line of an added item of a list. -/
def addedItem (text : Text) : Text :=
  "  + ".toList ++ text

/-- The line of a detail of an item. -/
def detail (key value : Text) : Text :=
  "      ".toList ++ key ++ ": ".toList ++ value

/-- A line that divides one part from the next. -/
def divider (label : Text) : Text :=
  "── ".toList ++ label ++ " ──".toList

/-- A path, shown below the root of the project where it lies there. -/
def shortened (root path : Path) : Text :=
  ((path.relativeTo? root).getD path).text

/-- A table and its entity. -/
def titled (target : Target) : Text :=
  target.table ++ " (".toList ++ target.entity ++ ")".toList

/-- The line of what became of a template. -/
def outcomeLine (root : Path) (entry : TemplateOutcome) : Text :=
  match entry.outcome with
  | .written path => addedItem (shortened root path)
  | .kept path => item (shortened root path ++ " (kept existing)".toList)
  | .skipped => item (entry.template ++ " (skipped ".toList ++ entry.category.label ++ ")".toList)

/-- The lines of a report. -/
def reportLines (root : Path) (report : Report) : List Text :=
  (titled report.target ++ ":".toList) :: report.outcomes.map (outcomeLine root) ++ [[]]

/-- What is printed about written files. -/
def writtenLines (root : Path) (reports : List Report) : List Text :=
  let count := reports.foldl (fun count report => count + report.written.length) 0
  reports.flatMap (reportLines root) ++
    ["Generated: ".toList ++ counted count "file" ++ " in ".toList ++ root.text]

/-- The lines of a file that would be written. -/
def fileLines (root : Path) (table : Text) (file : GeneratedFile) : List Text :=
  [divider (shortened root file.path ++ " (".toList ++ table ++ ")".toList), file.content]

/-- What is printed about files that would be written. -/
def previewLines (root : Path) (previews : List TablePreview) : List Text :=
  let count := previews.foldl (fun count preview => count + preview.files.length) 0
  (previews.flatMap fun preview => preview.files.flatMap (fileLines root preview.table)) ++
    [divider "Summary".toList, number count ++ " files would be generated".toList]

/-- What is printed about a generation. -/
def generation (root : Path) : GenerateSummary → Printed
  | .written reports => printed (writtenLines root reports)
  | .preview previews => printed (previewLines root previews)

/-- The line of a checked table. -/
def tableLine (table : TableSummary) : Text :=
  item
    (titled table.target ++ ": ".toList ++ counted table.columns "column" ++ ", ".toList ++
      counted table.files "file")

/-- What is printed about a check. -/
def check (manifest : Option Path) (templateCount : Nat) (tables : List TableSummary) : Printed :=
  let subject :=
    match manifest with
    | some path => path.text
    | none => "configuration".toList
  let start := if tables.isEmpty then [[]] else []
  let tableLines := if tables.isEmpty then [] else "Tables:".toList :: tables.map tableLine
  let lines :=
    start ++ [("✓ ".toList ++ subject ++ " is valid".toList), [],
      "Templates: ".toList ++ number templateCount] ++ tableLines
  let warnings :=
    if tables.isEmpty then
      ["warning: no tables configured; only the templates were checked".toList]
    else
      []
  ⟨Text.written lines, Text.written warnings⟩

/-- The lines of a template. -/
def templateLines (summary : TemplateSummary) : List Text :=
  let template := summary.template
  [item
      (template.name ++ " [".toList ++ template.category.label ++
        (if summary.skipped then ", skipped".toList else []) ++ "]".toList),
    detail "path".toList
      (template.path.getD ("(fallback) ".toList ++ summary.fallback.text)),
    detail "fileName".toList (template.fileName.getD "(fallback)".toList)]

/-- What is printed about templates. -/
def templates (directory : Path) (summaries : List TemplateSummary) : Printed :=
  printed
    (["Template directory: ".toList ++ directory.text, [],
        "Templates (".toList ++ number summaries.length ++ "):".toList] ++
      summaries.flatMap templateLines)

end Display

end Scaffold

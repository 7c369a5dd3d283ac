import Scaffold.Proofs.DiskChanges
import Scaffold.Proofs.GenerationWrites

/-!
# When existing files are kept

A run under the policy that keeps existing files hands files to the disk one after the other, each
to the disk that the earlier ones left. An existing file changes exactly when one of them overlooks
it: its path leads to nothing because a directory on it is missing, and back to the file once that
directory was made. What the file holds in the end is the last text that was written over it in this
way.

This gives the exact condition for a run to keep every file, whether it succeeds or fails. On a tree
the condition holds whenever paths turn back by `..` only out of directories that are there.
-/

namespace Scaffold.Generator

/-! ## The files that a run hands to the disk -/

/-- A file and the disk that it is handed to. -/
structure Handed where
  found : Disk
  file : GeneratedFile

/-- Files with the disks that they are handed to, up to the first that cannot be written. -/
def handed (policy : OverwritePolicy) : Disk → List GeneratedFile → List Handed
  | _, [] => []
  | disk, file :: files =>
    ⟨disk, file⟩ ::
      match disk.write policy file.path file.content with
      | (_, .failed) => []
      | (next, .written) => handed policy next files
      | (next, .kept) => handed policy next files

/-- The files of a run with the disks that they are handed to. -/
def handedBy (generator : Generator) : Disk → List Target → List Handed
  | _, [] => []
  | disk, target :: targets =>
    handed generator.settings.overwrite disk (generator.filesFor disk target) ++
      match generator.generate disk target with
      | (next, .ok _) => generator.handedBy next targets
      | (_, .error _) => []

/-- The last text that is written over the file at a place because the file was overlooked. -/
def lastOver (place : Place) : List Handed → Option Text
  | [] => none
  | write :: writes =>
    (lastOver place writes).or
      (if write.found.overlooked? write.file.path = some place then
        some write.file.content
      else
        none)

theorem lastOver_append
    (place : Place)
    (first second : List Handed) :
    lastOver place (first ++ second) = (lastOver place second).or (lastOver place first) := by
  induction first with
  | nil => exact (Option.or_none).symm
  | cons write first hypothesis =>
    rw [List.cons_append, lastOver, lastOver, hypothesis, Option.or_assoc]

/-! ## What becomes of an existing file -/

/-- What a file holds after a text was written over it, if one was. -/
def replacing (content : Content) (text : Option Text) : Content :=
  text.elim content .text

theorem replacing_replacing
    (content : Content)
    (first later : Option Text) :
    replacing (replacing content first) later = replacing content (later.or first) := by
  cases later with
  | none => rfl
  | some text => rfl

/-- After files were handed to the disk, an existing file holds the last text that was written over
it. -/
theorem at?_writeAll
    {disk : Disk}
    {place : Place}
    {content : Content}
    (stands : disk.at? place = some (.file content))
    (files : List GeneratedFile) :
    (writeAll .ifMissing disk files).1.at? place =
      some (.file (replacing content (lastOver place (handed .ifMissing disk files)))) := by
  induction files generalizing disk content with
  | nil => exact stands
  | cons file files hypothesis =>
    have stays :
        (disk.write .ifMissing file.path file.content).1.at? place =
          some
            (.file
              (replacing content
                (if disk.overlooked? file.path = some place then
                  some file.content
                else
                  none))) := by
      rw [Disk.at?_write_ifMissing stands file.path file.content]
      split
      · rfl
      · rfl
    rcases writes : disk.write .ifMissing file.path file.content with ⟨next, result⟩
    rw [writes] at stays
    simp only [writeAll, handed, lastOver, writes]
    cases result with
    | written => rw [outcomeOf?_written, ← replacing_replacing, hypothesis stays]
    | kept => rw [outcomeOf?_kept, ← replacing_replacing, hypothesis stays]
    | failed => exact stays

variable {generator : Generator}

/-- After a run, an existing file holds the last text that was written over it. -/
theorem at?_generateAll
    (keeps : generator.settings.overwrite = .ifMissing)
    {disk : Disk}
    {place : Place}
    {content : Content}
    (stands : disk.at? place = some (.file content))
    (targets : List Target) :
    (generator.generateAll disk targets).1.at? place =
      some (.file (replacing content (lastOver place (generator.handedBy disk targets)))) := by
  induction targets generalizing disk content with
  | nil => exact stands
  | cons target targets hypothesis =>
    have stays :
        (generator.generate disk target).1.at? place =
          some
            (.file
              (replacing content
                (lastOver place
                  (handed generator.settings.overwrite disk
                    (generator.filesFor disk target))))) := by
      rw [generate_disk, keeps]
      exact at?_writeAll stands (generator.filesFor disk target)
    rw [generateAll, handedBy, lastOver_append, ← replacing_replacing]
    rcases generates : generator.generate disk target with ⟨next, error | report⟩
    · rw [generates] at stays
      exact stays
    · rw [generates] at stays
      dsimp only
      rw [← hypothesis stays]
      rcases generator.generateAll next targets with ⟨final, error | reports⟩
      · rfl
      · rfl

/-! ## Trees -/

/-- Files that are handed to a tree find trees, and leave one. -/
theorem isTree_of_mem_handed
    {disk : Disk}
    (tree : disk.IsTree)
    (policy : OverwritePolicy)
    (files : List GeneratedFile) :
    (writeAll policy disk files).1.IsTree ∧
      ∀ write ∈ handed policy disk files, write.found.IsTree := by
  induction files generalizing disk with
  | nil => exact ⟨tree, List.forall_mem_nil _⟩
  | cons file files hypothesis =>
    have treeAfter := tree.write policy file.path file.content
    rcases writes : disk.write policy file.path file.content with ⟨next, result⟩
    rw [writes] at treeAfter
    rcases hypothesis treeAfter with ⟨treeFinal, treesLater⟩
    simp only [writeAll, handed, writes, List.forall_mem_cons]
    cases result with
    | written => exact ⟨treeFinal, tree, treesLater⟩
    | kept => exact ⟨treeFinal, tree, treesLater⟩
    | failed => exact ⟨treeAfter, tree, List.forall_mem_nil _⟩

/-- A run on a tree hands every file to a tree. -/
theorem isTree_of_mem_handedBy
    {disk : Disk}
    (tree : disk.IsTree)
    (targets : List Target) :
    ∀ write ∈ generator.handedBy disk targets, write.found.IsTree := by
  induction targets generalizing disk with
  | nil => exact fun write isMember => nomatch isMember
  | cons target targets hypothesis =>
    rcases isTree_of_mem_handed tree generator.settings.overwrite (generator.filesFor disk target)
      with ⟨treeAfter, trees⟩
    rw [← generate_disk] at treeAfter
    intro write isMember
    rw [handedBy, List.mem_append] at isMember
    rcases isMember with now | later
    · exact trees write now
    · rcases generates : generator.generate disk target with ⟨next, error | report⟩
      · rw [generates] at later
        cases later
      · rw [generates] at later treeAfter
        exact hypothesis treeAfter write later

/-- Nothing is written over a file when no write overlooks it. -/
theorem lastOver_eq_none
    {place : Place}
    {writes : List Handed}
    (nothing : ∀ write ∈ writes, write.found.overlooked? write.file.path = none) :
    lastOver place writes = none := by
  induction writes with
  | nil => rfl
  | cons write writes hypothesis =>
    rcases List.forall_mem_cons.mp nothing with ⟨here, later⟩
    rw [lastOver, hypothesis later, here]
    rfl

/--
A run that keeps existing files leaves every file as it was exactly when the last text written over
each file that was overlooked, if there is one, is what the file held. Starting from a tree, it does
so whenever the paths of its files turn back by `..` only out of directories that are there.
-/
theorem files_kept_iff
    (generator : Generator)
    (keeps : generator.settings.overwrite = .ifMissing)
    (disk : Disk)
    (targets : List Target) :
    ((∀ place content,
          disk.at? place = some (.file content) →
            (generator.generateAll disk targets).1.at? place = some (.file content)) ↔
        ∀ place content text,
          disk.at? place = some (.file content) →
            lastOver place (generator.handedBy disk targets) = some text →
              content = .text text) ∧
      (disk.IsTree →
        (∀ write ∈ generator.handedBy disk targets,
            write.found.TurnsBackInside write.file.path) →
          ∀ place content,
            disk.at? place = some (.file content) →
              (generator.generateAll disk targets).1.at? place = some (.file content)) := by
  constructor
  · constructor
    · intro kept place content text stands last
      have final := at?_generateAll keeps stands targets
      rw [kept place content stands, last] at final
      exact Node.file.inj (Option.some.inj final)
    · intro same place content stands
      rw [at?_generateAll keeps stands targets]
      cases last : lastOver place (generator.handedBy disk targets) with
      | none => rfl
      | some text =>
        rw [same place content text stands last]
        rfl
  · intro tree inside place content stands
    have nothing :
        ∀ write ∈ generator.handedBy disk targets,
          write.found.overlooked? write.file.path = none := by
      intro write isMember
      exact (isTree_of_mem_handedBy tree targets write isMember).overlooked?_eq_none
        (inside write isMember)
    rw [at?_generateAll keeps stands targets, lastOver_eq_none nothing]
    rfl

/-- A generator for Go with the template of a greeting alone. -/
def greeter (overwrite : OverwritePolicy) (path fileName : Text) : Generator :=
  of { Settings.of (Path.of ".") (Path.of "schema.sql") (Path.of "templates") with overwrite }
    (match (TemplateSet.empty false).insert (greeting path fileName) with
    | .ok set => set
    | .error _ => TemplateSet.empty false)

/-- A file in the directory that a missing one lies in is replaced by a path through the missing
one. -/
theorem greeting_replaces_file :
    (greeter .ifMissing "missing/..".toList "keep.txt".toList).settings.overwrite = .ifMissing ∧
      noted.at? ["keep.txt".toList] = some (.file (.text "precious".toList)) ∧
      ((greeter .ifMissing "missing/..".toList "keep.txt".toList).generateAll noted [users]).1.at?
          ["keep.txt".toList] =
        some (.file (.text "new User\n".toList)) := by
  decide +kernel

theorem isTree_noted :
    noted.IsTree := by
  intro place name node stands
  cases place with
  | nil => rfl
  | cons first rest =>
    cases rest with
    | nil => simp [noted, Disk.at?, List.lookup_cons] at stands
    | cons second rest => simp [noted, Disk.at?, List.lookup_cons] at stands

/-- The same template keeps the file when its path leads there directly. -/
theorem greeting_keeps_file :
    (greeter .ifMissing ".".toList "keep.txt".toList).settings.overwrite = .ifMissing ∧
      noted.at? ["keep.txt".toList] = some (.file (.text "precious".toList)) ∧
      ((greeter .ifMissing ".".toList "keep.txt".toList).generateAll noted [users]).1.at?
          ["keep.txt".toList] =
        some (.file (.text "precious".toList)) := by
  have keeps :
      (greeter .ifMissing ".".toList "keep.txt".toList).settings.overwrite = .ifMissing := rfl
  have stands : noted.at? ["keep.txt".toList] = some (.file (.text "precious".toList)) := by
    decide +kernel
  have straight :
      ∀ write ∈ (greeter .ifMissing ".".toList "keep.txt".toList).handedBy noted [users],
        ['.', '.'] ∉ Disk.segmentsOf write.file.path := by
    decide +kernel
  have safe :=
    (files_kept_iff (greeter .ifMissing ".".toList "keep.txt".toList) keeps noted [users]).2
  exact
    ⟨keeps, stands,
      safe isTree_noted
        (fun write isMember =>
          Disk.turnsBackInside_of_straight write.found (straight write isMember))
        ["keep.txt".toList] _ stands⟩

end Scaffold.Generator

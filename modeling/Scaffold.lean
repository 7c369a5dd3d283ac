import Scaffold.Main
import Scaffold.Proofs.TextSearch
import Scaffold.Proofs.TextSplitting
import Scaffold.Proofs.CaseMapping
import Scaffold.Proofs.MigrationBlocks
import Scaffold.Proofs.MigrationMeaning
import Scaffold.Proofs.ClauseAlignment
import Scaffold.Proofs.GenerationWrites
import Scaffold.Proofs.DiskChanges
import Scaffold.Proofs.KeptFiles
import Scaffold.Proofs.DiskGrowth
import Scaffold.Proofs.DiskStores
import Scaffold.Proofs.EntityNames
import Scaffold.Proofs.RepeatedRuns
import Scaffold.Proofs.CheckedRuns
import Scaffold.Proofs.ClosedTables
import Scaffold.Proofs.PathComponents
import Scaffold.Proofs.OutputPlaces
import Scaffold.Proofs.JoinedMigrations
import Scaffold.Proofs.DirectoryListings
import Scaffold.Proofs.TemplateInsertion
import Scaffold.Proofs.TemplateLoading
import Scaffold.Proofs.UnchangedDisks
import Scaffold.Proofs.OwnTexts
import Scaffold.Proofs.TemplateHeaders
import Scaffold.Proofs.WrittenHeaders
import Scaffold.Proofs.WrittenTables
import Scaffold.Proofs.WellFormedTables
import Scaffold.Proofs.IndependentTables
import Scaffold.Proofs.MigrationLayout
import Scaffold.Proofs.MigrationCase
import Scaffold.Proofs.SkippedTemplates
import Scaffold.Proofs.TextOccurrences
import Scaffold.Proofs.ManifestFaults
import Scaffold.Proofs.ManifestLabels
import Scaffold.Proofs.WriteEffects
import Scaffold.Proofs.FieldNames
import Scaffold.Proofs.NamedFiles
import Scaffold.Proofs.SameDisks
import Scaffold.Proofs.StraightPaths
import Scaffold.Proofs.ApartWrites
import Scaffold.Proofs.IndependentTargets
import Scaffold.Proofs.SettingLayers

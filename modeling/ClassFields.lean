import ClassFields.Generator
import ClassFields.Unicode.Named
import ClassFields.Proofs.ClassRanges
import ClassFields.Proofs.ConfigKeys
import ClassFields.Proofs.ConfigReaders
import ClassFields.Proofs.DeclaredFields
import ClassFields.Proofs.Documentation
import ClassFields.Proofs.DocumentedNames
import ClassFields.Proofs.Duplicates
import ClassFields.Proofs.FirstProblem
import ClassFields.Proofs.GroupReport
import ClassFields.Proofs.LineEndings
import ClassFields.Proofs.ModuleTokens
import ClassFields.Proofs.Readback
import ClassFields.Proofs.SettledNames
import ClassFields.Proofs.SkippedRules
import ClassFields.Proofs.StrictMode
import ClassFields.Proofs.TableSteps
import ClassFields.Proofs.TemplateSegments

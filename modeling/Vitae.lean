import Vitae.Text.Blank
import Vitae.Text.Substring
import Vitae.Text.Uppercase
import Vitae.Text.Quoted
import Vitae.Json.Record
import Vitae.Document.Kind
import Vitae.Compile.Batch
import Vitae.Release.Update
import Vitae.CommandLine.Arguments
import Vitae.CommandLine.Help
import Vitae.Log.Filter
import Vitae.CommandLine.VariableFile
import Vitae.Main
import Vitae.Proofs.Analysis.Admission
import Vitae.Proofs.Analysis.Completeness
import Vitae.Proofs.Analysis.Repeats
import Vitae.Proofs.Analysis.Thoroughness
import Vitae.Proofs.Analysis.Transparency
import Vitae.Proofs.CommandLine.Abbreviation
import Vitae.Proofs.Compile.Anonymity
import Vitae.Proofs.Compile.Cancellation
import Vitae.Proofs.Compile.InTurn
import Vitae.Proofs.Compile.Independence
import Vitae.Proofs.Compile.Moves
import Vitae.Proofs.Compile.Policy
import Vitae.Proofs.Compile.Rounds
import Vitae.Proofs.Files.Confinement
import Vitae.Proofs.Labels.Order
import Vitae.Proofs.Layout.Footers
import Vitae.Proofs.Layout.Greedy
import Vitae.Proofs.Layout.Height
import Vitae.Proofs.Layout.Look
import Vitae.Proofs.Layout.Nameless
import Vitae.Proofs.Layout.Totals
import Vitae.Proofs.Layout.Words
import Vitae.Proofs.Pdf.Consistency
import Vitae.Proofs.Pdf.Drawing
import Vitae.Proofs.Pdf.Shape
import Vitae.Proofs.Pdf.Title
import Vitae.Proofs.Release.Spelling
import Vitae.Proofs.Release.Unharmed
import Vitae.Proofs.Style.Color
